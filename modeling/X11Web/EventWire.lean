import X11Web.EventSelection
import X11Web.Framing

namespace X11Web.EventWire

open Windows Framing

/-- Two bytes of an event: a 16-bit field, or fields of a byte each. -/
inductive Half
  | card16 (v : UInt16)
  | card8s (a b : UInt8)
  | card8 (a : UInt8)
  | unused
deriving DecidableEq

inductive Word
  | card32 (v : UInt32)
  | halves (p q : Half)
deriving DecidableEq

inductive HalfShape
  | card16 | card8s | card8 | unused
deriving DecidableEq

inductive WordShape
  | card32
  | halves (p q : HalfShape)
deriving DecidableEq

def Half.shape : Half → HalfShape
  | .card16 _ => .card16
  | .card8s _ _ => .card8s
  | .card8 _ => .card8
  | .unused => .unused

def Word.shape : Word → WordShape
  | .card32 _ => .card32
  | .halves p q => .halves p.shape q.shape

/-- The core events, in the order of their codes from 2 on. -/
inductive Kind
  | keyPress | keyRelease | buttonPress | buttonRelease | motionNotify | enterNotify | leaveNotify
  | focusIn | focusOut | keymapNotify | expose | graphicsExposure | noExposure | visibilityNotify
  | createNotify | destroyNotify | unmapNotify | mapNotify | mapRequest | reparentNotify
  | configureNotify | configureRequest | gravityNotify | resizeRequest | circulateNotify
  | circulateRequest | propertyNotify | selectionClear | selectionRequest | selectionNotify
  | colormapNotify | clientMessage | mappingNotify
deriving DecidableEq

def Kind.all : List Kind :=
  [.keyPress, .keyRelease, .buttonPress, .buttonRelease, .motionNotify, .enterNotify, .leaveNotify,
    .focusIn, .focusOut, .keymapNotify, .expose, .graphicsExposure, .noExposure, .visibilityNotify,
    .createNotify, .destroyNotify, .unmapNotify, .mapNotify, .mapRequest, .reparentNotify,
    .configureNotify, .configureRequest, .gravityNotify, .resizeRequest, .circulateNotify,
    .circulateRequest, .propertyNotify, .selectionClear, .selectionRequest, .selectionNotify,
    .colormapNotify, .clientMessage, .mappingNotify]

/-- The event of a response type, whose top bit says that it was sent by a client. -/
def Kind.ofResponseType (t : UInt8) : Option Kind :=
  if t.toNat % 128 < 2 then none else Kind.all[t.toNat % 128 - 2]?

def fill (words : List WordShape) : List WordShape :=
  words ++ List.replicate (7 - words.length) (.halves .unused .unused)

def card16Pair : WordShape := .halves .card16 .card16

/-- The words after the sequence number. The data of a ClientMessage depends on
its format. -/
def Kind.layout (detail : UInt8) : Kind → Option (List WordShape)
  | .keyPress | .keyRelease | .buttonPress | .buttonRelease | .motionNotify =>
    some (fill [.card32, .card32, .card32, .card32, card16Pair, card16Pair, .halves .card16 .card8])
  | .enterNotify | .leaveNotify =>
    some (fill [.card32, .card32, .card32, .card32, card16Pair, card16Pair, .halves .card16 .card8s])
  | .focusIn | .focusOut => some (fill [.card32, .halves .card8 .unused])
  | .keymapNotify => some (List.replicate 7 (.halves .card8s .card8s))
  | .expose => some (fill [.card32, card16Pair, card16Pair, .halves .card16 .unused])
  | .graphicsExposure =>
    some (fill [.card32, card16Pair, card16Pair, card16Pair, .halves .card8 .unused])
  | .noExposure => some (fill [.card32, .halves .card16 .card8])
  | .visibilityNotify => some (fill [.card32, .halves .card8 .unused])
  | .createNotify =>
    some (fill [.card32, .card32, card16Pair, card16Pair, .halves .card16 .card8])
  | .destroyNotify | .mapRequest => some (fill [.card32, .card32])
  | .unmapNotify | .mapNotify => some (fill [.card32, .card32, .halves .card8 .unused])
  | .reparentNotify =>
    some (fill [.card32, .card32, .card32, card16Pair, .halves .card8 .unused])
  | .configureNotify =>
    some (fill [.card32, .card32, .card32, card16Pair, card16Pair, .halves .card16 .card8])
  | .configureRequest =>
    some (fill [.card32, .card32, .card32, card16Pair, card16Pair, card16Pair])
  | .gravityNotify => some (fill [.card32, .card32, card16Pair])
  | .resizeRequest => some (fill [.card32, card16Pair])
  | .circulateNotify | .circulateRequest =>
    some (fill [.card32, .card32, .halves .unused .unused, .halves .card8 .unused])
  | .propertyNotify => some (fill [.card32, .card32, .card32, .halves .card8 .unused])
  | .selectionClear => some (fill [.card32, .card32, .card32])
  | .selectionRequest => some (fill [.card32, .card32, .card32, .card32, .card32, .card32])
  | .selectionNotify => some (fill [.card32, .card32, .card32, .card32, .card32])
  | .colormapNotify => some (fill [.card32, .card32, .halves .card8s .unused])
  | .clientMessage =>
    if detail = 8 then some (.card32 :: .card32 :: List.replicate 5 (.halves .card8s .card8s))
    else if detail = 16 then some (.card32 :: .card32 :: List.replicate 5 card16Pair)
    else if detail = 32 then some (List.replicate 7 .card32)
    else none
  | .mappingNotify => some (fill [.halves .card8s .card8])

/-- The bytes 1 to 3. Only a KeymapNotify has no sequence number there. -/
inductive Header
  | sequenced (detail : UInt8) (sequence : UInt16)
  | keys (a b c : UInt8)
deriving DecidableEq

def Header.first : Header → UInt8
  | .sequenced detail _ => detail
  | .keys a _ _ => a

def Header.hasSequence : Header → Bool
  | .sequenced _ _ => true
  | .keys _ _ _ => false

structure Event where
  responseType : UInt8
  header : Header
  words : List Word
deriving DecidableEq

/-- Whether the events of this type have a sequence number, and their words. -/
def layoutOf (t first : UInt8) : Option (Bool × List WordShape) :=
  (Kind.ofResponseType t).bind (fun k =>
    (k.layout first).map (fun words => (k ≠ .keymapNotify, words)))

def Event.LaidOut (e : Event) : Prop :=
  layoutOf e.responseType e.header.first = some (e.header.hasSequence, e.words.map Word.shape)

instance (e : Event) : Decidable e.LaidOut := inferInstanceAs (Decidable (_ = _))

def Half.bytes : Half → Bytes
  | .card16 v => toLeBytes16 v.toNat
  | .card8s a b => [a, b]
  | .card8 a => [a, 0]
  | .unused => [0, 0]

def Word.bytes : Word → Bytes
  | .card32 v => toLeBytes32 v.toNat
  | .halves p q => p.bytes ++ q.bytes

def Header.bytes : Header → Bytes
  | .sequenced detail sequence => detail :: toLeBytes16 sequence.toNat
  | .keys a b c => [a, b, c]

/-- The event in the wire layout of the protocol, as its library writes it in the order of the machine. -/
def Event.serializeInto (e : Event) : Bytes :=
  e.responseType :: (e.header.bytes ++ e.words.flatMap Word.bytes)

def swapWords : Bytes → Bytes
  | a :: b :: c :: d :: rest => d :: c :: b :: a :: swapWords rest
  | rest => rest

/-- Reverse the bytes from `off` on. -/
def reverseRange (b : Bytes) (off size : Nat) : Bytes :=
  b.take off ++ ((b.drop off).take size).reverse ++ b.drop (off + size)

/-- Every word of the payload is turned round, whatever fields it holds. -/
def byteswapEventInplace (b : Bytes) : Bytes :=
  if b.length < 4 then b
  else (reverseRange b 2 2).take 4 ++ swapWords ((b.take 32).drop 4) ++ b.drop 32

def serializeEvent (e : Event) (msb : Bool) : Bytes :=
  let data := e.serializeInto.take 32
  let bytes := data ++ List.replicate (32 - data.length) 0
  if msb then byteswapEventInplace bytes else bytes

def serializeEventWithLayout (e : Event) (msb : Bool) (layout : List (Nat × Nat)) : Bytes :=
  let data := e.serializeInto
  let bytes := data ++ List.replicate (32 - data.length) 0
  if msb then layout.foldl (fun b field => reverseRange b field.1 field.2) bytes else bytes

def clientMessageFormat8Layout : List (Nat × Nat) := [(2, 2), (4, 4), (8, 4)]

def sendEventFlag : UInt8 := 0x80

def markSynthetic (raw : Bytes) : Bytes := raw.modifyHead (· ||| sendEventFlag)

def HalfShape.read (msb : Bool) (b : Bytes) : HalfShape → Half
  | .card16 => .card16 (UInt16.ofNat (readU16 msb b 0))
  | .card8s => .card8s (b.getD 0 0) (b.getD 1 0)
  | .card8 => .card8 (b.getD 0 0)
  | .unused => .unused

def WordShape.read (msb : Bool) (b : Bytes) : WordShape → Word
  | .card32 => .card32 (UInt32.ofNat (readU32 msb b 0))
  | .halves p q => .halves (p.read msb b) (q.read msb (b.drop 2))

def readWords (msb : Bool) : List WordShape → Bytes → List Word
  | [], _ => []
  | s :: shapes, b => s.read msb (b.take 4) :: readWords msb shapes (b.drop 4)

def readHeader (msb hasSequence : Bool) (a b c : UInt8) : Header :=
  if hasSequence then .sequenced a (UInt16.ofNat (readU16 msb [b, c] 0)) else .keys a b c

def decode (msb : Bool) : Bytes → Option Event
  | t :: a :: b :: c :: payload =>
    (layoutOf t a).map (fun l => ⟨t, readHeader msb l.1 a b c, readWords msb l.2 payload⟩)
  | _ => none

/-- The receiving connection puts its own sequence number into what other clients
send it. -/
def patchSequence (msb : Bool) (seq : UInt16) (event : Bytes) : Bytes :=
  if 4 ≤ event.length then
    event.take 2 ++ toClientBytes msb (toLeBytes16 seq.toNat) ++ event.drop 4
  else event

def sendEvent (sh : Shared) (w : XId) (event : Bytes) : List (ClientId × Bytes) :=
  (sh.eventRoutes.lookup w).toList.map (fun client => (client, event))

inductive Route
  | router (w : XId)
  | broadcaster (w : XId) (mask : Nat) (source : ClientId)
  | selection (owner : ClientId)
deriving DecidableEq

def Route.deliver (sh : Shared) (event : Bytes) : Route → List (ClientId × Bytes)
  | .router w => sendEvent sh w event
  | .broadcaster w mask source => EventSelection.broadcast sh w mask event source
  | .selection owner => [(owner, event)]

theorem Route.eq_of_mem_deliver {sh : Shared} {event sent : Bytes} {client : ClientId}
    {route : Route} (h : (client, sent) ∈ route.deliver sh event) : sent = event := by
  cases route with
  | router w =>
    obtain ⟨c, -, hc⟩ := List.mem_map.mp h
    exact (Prod.mk.inj hc).2.symm
  | broadcaster w mask source =>
    obtain ⟨sub, -, hsub⟩ := List.mem_filterMap.mp h
    split at hsub
    · exact (Prod.mk.inj (Option.some.inj hsub)).2.symm
    · simp at hsub
  | selection owner => exact (Prod.mk.inj (List.mem_singleton.mp h)).2

end X11Web.EventWire
