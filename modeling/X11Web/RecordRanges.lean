import X11Web.Framing
import Mathlib.Data.UInt

namespace X11Web.RecordRanges

open Framing Windows

/-- `Range8` and `Range16` of the wire. -/
structure Range (V : Type) where
  first : V
  last : V
deriving DecidableEq

structure ExtRange where
  major : Range UInt8
  minor : Range UInt16
deriving DecidableEq

structure WireRange where
  coreRequests : Range UInt8
  coreReplies : Range UInt8
  extRequests : ExtRange
  extReplies : ExtRange
  deliveredEvents : Range UInt8
  deviceEvents : Range UInt8
  errors : Range UInt8
deriving DecidableEq

/-- What RECORD reports. A reply is registered for by the opcodes of its request. -/
inductive Element
  | request (data : Bytes)
  | reply (major minor : UInt8) (data : Bytes)
  | error (data : Bytes)
  | event (data : Bytes)
deriving DecidableEq

def Element.bytes : Element → Bytes
  | .request data => data
  | .reply _ _ data => data
  | .error data => data
  | .event data => data

def eventCode (code : UInt8) : UInt8 := code &&& 0x7f

/-- An interval of the wire; one that is zero throughout is left empty. -/
def Range.Covers (r : Range UInt8) (v : UInt8) : Prop :=
  (r.first ≠ 0 ∨ r.last ≠ 0) ∧ r.first ≤ v ∧ v ≤ r.last

instance (r : Range UInt8) (v : UInt8) : Decidable (r.Covers v) := inferInstanceAs (Decidable (_ ∧ _))

def ExtRange.Covers (r : ExtRange) (major minor : UInt8) : Prop :=
  r.major.Covers major ∧ r.minor.first ≤ minor.toUInt16 ∧ minor.toUInt16 ≤ r.minor.last

instance (r : ExtRange) (major minor : UInt8) : Decidable (r.Covers major minor) :=
  inferInstanceAs (Decidable (_ ∧ _))

def WireRange.Covers (r : WireRange) : Element → Prop
  | .request data =>
    if data.getD 0 0 ≤ 127 then r.coreRequests.Covers (data.getD 0 0)
    else r.extRequests.Covers (data.getD 0 0) (data.getD 1 0)
  | .reply major minor _ =>
    if major ≤ 127 then r.coreReplies.Covers major else r.extReplies.Covers major minor
  | .error data => r.errors.Covers (data.getD 1 0)
  | .event data =>
    r.deliveredEvents.Covers (eventCode (data.getD 0 0)) ∨ r.deviceEvents.Covers (eventCode (data.getD 0 0))

instance (r : WireRange) : (e : Element) → Decidable (r.Covers e)
  | .request data =>
    inferInstanceAs (Decidable (if data.getD 0 0 ≤ 127 then r.coreRequests.Covers (data.getD 0 0)
      else r.extRequests.Covers (data.getD 0 0) (data.getD 1 0)))
  | .reply major minor _ =>
    inferInstanceAs (Decidable
      (if major ≤ 127 then r.coreReplies.Covers major else r.extReplies.Covers major minor))
  | .error data => inferInstanceAs (Decidable (r.errors.Covers (data.getD 1 0)))
  | .event data =>
    inferInstanceAs (Decidable (r.deliveredEvents.Covers (eventCode (data.getD 0 0)) ∨
      r.deviceEvents.Covers (eventCode (data.getD 0 0))))

/-- A range as the server keeps it, in single bytes throughout. -/
structure RecordRange where
  coreRequests : UInt8 × UInt8
  coreReplies : UInt8 × UInt8
  extRequests : UInt8 × UInt8 × UInt8
  extReplies : UInt8 × UInt8 × UInt8
  deliveredEvents : UInt8 × UInt8
  deviceEvents : UInt8 × UInt8
  errors : UInt8 × UInt8
deriving DecidableEq

def within (r : UInt8 × UInt8) (v : UInt8) : Bool := r.1 != 0 && r.2 != 0 && r.1 ≤ v && v ≤ r.2

def withinExt (r : UInt8 × UInt8 × UInt8) (major minor : UInt8) : Bool :=
  r.1 != 0 && major == r.1 && r.2.1 ≤ minor && minor ≤ r.2.2

namespace RecordRange

def matchesCoreRequest (r : RecordRange) (opcode : UInt8) : Bool := within r.coreRequests opcode

def matchesCoreReply (r : RecordRange) (opcode : UInt8) : Bool := within r.coreReplies opcode

def matchesExtRequest (r : RecordRange) (major minor : UInt8) : Bool := withinExt r.extRequests major minor

def matchesExtReply (r : RecordRange) (major minor : UInt8) : Bool := withinExt r.extReplies major minor

def matchesDeliveredEvent (r : RecordRange) (code : UInt8) : Bool := within r.deliveredEvents code

def matchesDeviceEvent (r : RecordRange) (code : UInt8) : Bool := within r.deviceEvents code

def matchesError (r : RecordRange) (code : UInt8) : Bool := within r.errors code

/-- `RecordRange::from`: one major opcode is kept, and the low byte of each minor one. -/
def ofWire (r : WireRange) : RecordRange where
  coreRequests := (r.coreRequests.first, r.coreRequests.last)
  coreReplies := (r.coreReplies.first, r.coreReplies.last)
  extRequests := (r.extRequests.major.first, r.extRequests.minor.first.toUInt8,
    r.extRequests.minor.last.toUInt8)
  extReplies := (r.extReplies.major.first, r.extReplies.minor.first.toUInt8,
    r.extReplies.minor.last.toUInt8)
  deliveredEvents := (r.deliveredEvents.first, r.deliveredEvents.last)
  deviceEvents := (r.deviceEvents.first, r.deviceEvents.last)
  errors := (r.errors.first, r.errors.last)

end RecordRange

structure RecordContext where
  id : XId
  enabled : Bool
  elementHeader : UInt8
  ranges : List RecordRange
  clientSpecs : List XId
  enableSequence : UInt16
deriving DecidableEq

def currentClients : XId := 1
def futureClients : XId := 2
def allClients : XId := 3

/-- The three special values stand for every client but the recording one; any
other value is compared with the resource base. -/
def specSelects (spec : XId) (source recorder : ClientId) (sourceBase : XId) : Bool :=
  if spec = currentClients ∨ spec = futureClients ∨ spec = allClients then source != recorder
  else sourceBase == spec

def selects (specs : List XId) (source recorder : ClientId) (sourceBase : XId) : Bool :=
  specs.any fun spec => specSelects spec source recorder sourceBase

namespace RecordContext

def shouldInterceptClient (ctx : RecordContext) (source recorder : ClientId) (sourceBase : XId) : Bool :=
  ctx.enabled && selects ctx.clientSpecs source recorder sourceBase

def matchesEvent (ctx : RecordContext) (code : UInt8) : Bool :=
  ctx.ranges.any fun r => r.matchesDeliveredEvent code || r.matchesDeviceEvent code

def matchesCoreRequest (ctx : RecordContext) (opcode : UInt8) : Bool :=
  ctx.ranges.any fun r => r.matchesCoreRequest opcode

def matchesCoreReply (ctx : RecordContext) (opcode : UInt8) : Bool :=
  ctx.ranges.any fun r => r.matchesCoreReply opcode

def matchesExtRequest (ctx : RecordContext) (major minor : UInt8) : Bool :=
  ctx.ranges.any fun r => r.matchesExtRequest major minor

def matchesExtReply (ctx : RecordContext) (major minor : UInt8) : Bool :=
  ctx.ranges.any fun r => r.matchesExtReply major minor

def matchesError (ctx : RecordContext) (code : UInt8) : Bool := ctx.ranges.any fun r => r.matchesError code

/-- The test that each interception routine makes on its kind of element. -/
def Matches (ctx : RecordContext) : Element → Bool
  | .request data =>
    if data.getD 0 0 ≤ 127 then ctx.matchesCoreRequest (data.getD 0 0)
    else ctx.matchesExtRequest (data.getD 0 0) (data.getD 1 0)
  | .reply major minor _ =>
    if major ≤ 127 then ctx.matchesCoreReply major else ctx.matchesExtReply major minor
  | .error data => ctx.matchesError (data.getD 1 0)
  | .event data => ctx.matchesEvent (eventCode (data.getD 0 0))

end RecordContext

namespace Category

def fromServer : UInt8 := 0
def fromClient : UInt8 := 1
def startOfData : UInt8 := 4
def endOfData : UInt8 := 5

end Category

def Element.category : Element → UInt8
  | .request _ => Category.fromClient
  | _ => Category.fromServer

/-- A data reply is little-endian whatever the client's byte order. -/
def buildRecordDataReply (category : UInt8) (enableSeq : UInt16) (elementHeader : UInt8)
    (intercepted : Bytes) (serverTime : Nat) (interceptedSeq : UInt16) : Bytes :=
  [1, category] ++ toLeBytes16 enableSeq.toNat ++ toLeBytes32 (alignTo4 intercepted.length / 4) ++
    [elementHeader] ++ List.replicate 11 0 ++ toLeBytes32 serverTime ++ toLeBytes16 interceptedSeq.toNat ++
    List.replicate 6 0 ++ intercepted ++ List.replicate (alignTo4 intercepted.length - intercepted.length) 0

def buildRecordStatusReply (category : UInt8) (enableSeq : UInt16) (elementHeader : UInt8)
    (serverTime : Nat) : Bytes :=
  buildRecordDataReply category enableSeq elementHeader [] serverTime 0

/-- The bytes report the element: a reply of its category, with it as the payload. -/
def Carries (bytes : Bytes) (e : Element) : Prop :=
  bytes.take 2 = [1, e.category] ∧ e.bytes <+: bytes.drop 32

theorem buildRecordDataReply_carries {e : Element} {payload : Bytes} (h : e.bytes <+: payload)
    (enableSeq : UInt16) (elementHeader : UInt8) (serverTime : Nat) (interceptedSeq : UInt16) :
    Carries (buildRecordDataReply e.category enableSeq elementHeader payload serverTime interceptedSeq) e := by
  constructor
  · rfl
  · refine h.trans ?_
    have hdrop : (buildRecordDataReply e.category enableSeq elementHeader payload serverTime
        interceptedSeq).drop 32 = payload ++ List.replicate (alignTo4 payload.length - payload.length) 0 := by
      rw [buildRecordDataReply, List.append_assoc]
      exact List.drop_left' rfl
    rw [hdrop]
    exact List.prefix_append _ _

end X11Web.RecordRanges
