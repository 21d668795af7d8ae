import X11Web.EventWire
import X11Web.RecordRanges

namespace X11Web.RecordTraffic

open EventWire Framing HashMaps RecordRanges SyncWindows Windows

/-- What a message on its way to a client is for: the opening, one element or the
end of a period in which a context is enabled. -/
inductive Tag
  | other
  | start (context : XId) (period : Nat)
  | data (context : XId) (period : Nat) (e : Element)
  | finish (context : XId) (period : Nat)
deriving DecidableEq

structure Sent where
  bytes : Bytes
  tag : Tag
deriving DecidableEq

def untagged (bytes : Bytes) : Sent := ⟨bytes, .other⟩

/-- Where a connection's task stands in its request loop. A request in the extended
format is not recorded; a request that the frame tick takes up is deferred. -/
inductive Phase
  | idle
  | processing (data : Bytes) (recorded deferred : Bool)
  | responding (data : Bytes) (recorded : Bool) (response : List Sent)
deriving DecidableEq

def Phase.response : Phase → List Sent
  | .responding _ _ response => response
  | _ => []

structure Client where
  resourceBase : XId
  msbFirst : Bool
  trustLevel : Nat
  maxPendingEvents : Nat
  sequence : UInt16
  contexts : HashMap XId RecordContext
  pending : List Sent
  inbox : List Sent
  stream : List Sent
  phase : Phase

/-- What the client's stream will be once its task has written the response. -/
def Client.written (cl : Client) : List Sent := cl.stream ++ cl.phase.response

structure SharedRecordEntry where
  recordingClient : ClientId
  context : RecordContext
  eventTx : ClientId

structure Registration where
  owner : ClientId
  elementHeader : UInt8
  clientSpecs : List XId
  ranges : List WireRange
  enabled : Bool
  enableSequence : UInt16
  period : Nat

/-- The connections and the contexts they share. The registry, its clock and the log
are not the server's: they hold what the owners asked for and what was processed
since. -/
structure Server where
  clients : ClientId → Client
  shared : HashMap XId SharedRecordEntry
  registry : HashMap XId Registration
  clock : Nat
  log : ClientId → XId → Nat → List Element

/-- The orders in which the two maps of contexts are gone through, and the time. -/
structure Orders where
  shared : List XId
  own : List XId
  now : Nat

def Registration.Selects (r : Registration) (source : ClientId) (sourceBase : XId) : Prop :=
  r.enabled = true ∧ selects r.clientSpecs source r.owner sourceBase = true

instance (r : Registration) (source : ClientId) (sourceBase : XId) : Decidable (r.Selects source sourceBase) :=
  inferInstanceAs (Decidable (_ ∧ _))

def Registration.Covers (r : Registration) (e : Element) : Prop := ∃ w ∈ r.ranges, w.Covers e

instance (r : Registration) (e : Element) : Decidable (r.Covers e) :=
  inferInstanceAs (Decidable (∃ w ∈ r.ranges, w.Covers e))

def Registration.stored (X : XId) (r : Registration) : RecordContext where
  id := X
  enabled := r.enabled
  elementHeader := r.elementHeader
  ranges := r.ranges.map RecordRange.ofWire
  clientSpecs := r.clientSpecs
  enableSequence := r.enableSequence

/-- The shared entry of the context, with the channel of its owner. -/
def Registration.entry (X : XId) (r : Registration) : SharedRecordEntry := ⟨r.owner, r.stored X, r.owner⟩

namespace Server

def setClient (s : Server) (c : ClientId) (f : Client → Client) : Server :=
  { s with clients := Function.update s.clients c (f (s.clients c)) }

def write (s : Server) (c : ClientId) (messages : List Sent) : Server :=
  s.setClient c fun cl => { cl with stream := cl.stream ++ messages }

def periodOf (s : Server) (X : XId) : Nat := ((s.registry.lookup X).map (·.period)).getD 0

/-- The element counts for every enabled context that selects the client and covers it. -/
def hear (s : Server) (c : ClientId) (e : Element) : Server :=
  { s with
    log := fun o X p =>
      match s.registry.lookup X with
      | none => s.log o X p
      | some r =>
        if (r.owner = o ∧ r.period = p) ∧ r.Selects c (s.clients c).resourceBase ∧ r.Covers e then
          s.log o X p ++ [e]
        else s.log o X p }

def hearAll (s : Server) (c : ClientId) (es : List Element) : Server :=
  es.foldl (fun s e => s.hear c e) s

/-- The data reply for an element of the client `c`. -/
def dataReply (s : Server) (c : ClientId) (X : XId) (ctx : RecordContext) (e : Element) (payload : Bytes)
    (now : Nat) : Sent :=
  ⟨buildRecordDataReply e.category ctx.enableSequence ctx.elementHeader payload now (s.clients c).sequence,
    .data X (s.periodOf X) e⟩

def interceptLocal (s : Server) (o : Orders) (c : ClientId) (e : Element) (payload : Bytes) : List Sent :=
  o.own.filterMap fun X =>
    ((s.clients c).contexts.lookup X).bind fun ctx =>
      if ctx.shouldInterceptClient c c (s.clients c).resourceBase && ctx.Matches e then
        some (s.dataReply c X ctx e payload o.now)
      else none

/-- What the shared contexts report, each to the channel of its entry. -/
def interceptShared (s : Server) (o : Orders) (c : ClientId) (e : Element) (payload : Bytes) :
    List (ClientId × Sent) :=
  o.shared.filterMap fun X =>
    (s.shared.lookup X).bind fun entry =>
      if entry.context.shouldInterceptClient c entry.recordingClient (s.clients c).resourceBase &&
          entry.context.Matches e then
        some (entry.eventTx, s.dataReply c X entry.context e payload o.now)
      else none

def send (s : Server) (messages : List (ClientId × Sent)) : Server :=
  { s with
    clients := fun o =>
      { s.clients o with
        inbox := (s.clients o).inbox ++ (messages.filter (fun m => m.1 == o)).map (·.2) } }

/-- One routine for both kinds of contexts: the local ones queue their replies. -/
def intercept (s : Server) (o : Orders) (c : ClientId) (e : Element) (payload : Bytes) : Server :=
  (s.setClient c fun cl => { cl with pending := cl.pending ++ s.interceptLocal o c e payload }).send
    (s.interceptShared o c e payload)

def recordInterceptRequest (s : Server) (o : Orders) (c : ClientId) (data : Bytes) : Server :=
  if data = [] then s else s.intercept o c (.request data) data

end Server

def responseElement (major minor : UInt8) (response : Bytes) : Option Element :=
  if response.head? = some 1 then some (.reply major minor response)
  else if response.head? = some 0 ∧ 2 ≤ response.length then some (.error response)
  else none

def recordable (event : Bytes) : Bool :=
  event.length == 32 && 2 ≤ event.getD 0 0 && event.getD 0 0 ≤ 34

/-- The core events, with or without the `SendEvent` bit. -/
def coreEvent (event : Bytes) : Option Element :=
  if event.length = 32 ∧ 2 ≤ eventCode (event.getD 0 0) ∧ eventCode (event.getD 0 0) ≤ 34 then
    some (.event event)
  else none

/-- One packet of a response: a reply, an error, or an event behind them. -/
def packetElement (major minor : UInt8) (packet : Bytes) : Option Element :=
  responseElement major minor packet <|> coreEvent packet

def joined (response : List Sent) : Bytes := (response.map (·.bytes)).flatten

def leadElement (major minor : UInt8) (response : List Sent) : Option Element :=
  response.head?.bind fun m => responseElement major minor m.bytes

namespace Server

def recordInterceptResponse (s : Server) (o : Orders) (c : ClientId) (major minor : UInt8)
    (response : List Sent) : Server :=
  match leadElement major minor response with
  | none => s
  | some e => s.intercept o c e (joined response)

/-- The shared contexts report at once, the local ones to the caller. -/
def recordInterceptEvents (s : Server) (o : Orders) (c : ClientId) (events : List Bytes) :
    Server × List Sent :=
  (s.send ((events.filter recordable).flatMap fun event => s.interceptShared o c (.event event) event),
    (events.filter recordable).flatMap fun event => s.interceptLocal o c (.event event) event)

end Server

structure ClientsRequest where
  context : XId
  elementHeader : UInt8
  clientSpecs : List XId
  ranges : List WireRange
deriving DecidableEq

structure UnregisterClientsRequest where
  context : XId
  clientSpecs : List XId
deriving DecidableEq

inductive RecordRequest
  | createContext (req : ClientsRequest)
  | registerClients (req : ClientsRequest)
  | unregisterClients (req : UnregisterClientsRequest)
  | getContext (context : XId)
  | enableContext (context : XId)
  | disableContext (context : XId)
  | freeContext (context : XId)
deriving DecidableEq

structure Parsers where
  createContext : Bool → Bytes → Option ClientsRequest
  registerClients : Bool → Bytes → Option ClientsRequest
  unregisterClients : Bool → Bytes → Option UnregisterClientsRequest
  getContext : Bool → Bytes → Option XId
  enableContext : Bool → Bytes → Option XId
  disableContext : Bool → Bytes → Option XId
  freeContext : Bool → Bytes → Option XId

def Parsers.decode (P : Parsers) (msb : Bool) (data : Bytes) : Option RecordRequest :=
  match (data.getD 1 0).toNat with
  | 1 => (P.createContext msb data).map .createContext
  | 2 => (P.registerClients msb data).map .registerClients
  | 3 => (P.unregisterClients msb data).map .unregisterClients
  | 4 => (P.getContext msb data).map .getContext
  | 5 => (P.enableContext msb data).map .enableContext
  | 6 => (P.disableContext msb data).map .disableContext
  | 7 => (P.freeContext msb data).map .freeContext
  | _ => none

def RecordRequest.context : RecordRequest → XId
  | .createContext req => req.context
  | .registerClients req => req.context
  | .unregisterClients req => req.context
  | .getContext X => X
  | .enableContext X => X
  | .disableContext X => X
  | .freeContext X => X

def removeSpecs (removed specs : List XId) : List XId :=
  removed.foldl (fun specs spec => specs.filter (· != spec)) specs

namespace RecordContext

def ofRequest (req : ClientsRequest) : RecordContext where
  id := req.context
  enabled := false
  elementHeader := req.elementHeader
  ranges := req.ranges.map RecordRange.ofWire
  clientSpecs := req.clientSpecs
  enableSequence := 0

def registerClients (req : ClientsRequest) (ctx : RecordContext) : RecordContext :=
  { ctx with
    elementHeader := req.elementHeader
    ranges := ctx.ranges ++ req.ranges.map RecordRange.ofWire
    clientSpecs := ctx.clientSpecs ++ req.clientSpecs }

def unregisterClients (req : UnregisterClientsRequest) (ctx : RecordContext) : RecordContext :=
  { ctx with
    clientSpecs := removeSpecs req.clientSpecs ctx.clientSpecs
    ranges := if removeSpecs req.clientSpecs ctx.clientSpecs = [] then [] else ctx.ranges }

def enable (seq : UInt16) (ctx : RecordContext) : RecordContext :=
  { ctx with enabled := true, enableSequence := seq }

def disable (ctx : RecordContext) : RecordContext := { ctx with enabled := false }

end RecordContext

namespace Server

def setContext (s : Server) (c : ClientId) (X : XId) (f : RecordContext → RecordContext) : Server :=
  s.setClient c fun cl => { cl with contexts := modify X f cl.contexts }

def setEntry (s : Server) (X : XId) (f : SharedRecordEntry → SharedRecordEntry) : Server :=
  { s with shared := modify X f s.shared }

def createContext (s : Server) (c : ClientId) (req : ClientsRequest) : Server :=
  { s.setClient c fun cl =>
      { cl with contexts := cl.contexts.insert req.context (RecordContext.ofRequest req) } with
    shared := s.shared.insert req.context ⟨c, RecordContext.ofRequest req, c⟩ }

/-- A change of the local context, which is then copied into the shared entry. -/
def changeContext (s : Server) (c : ClientId) (X : XId) (f : RecordContext → RecordContext) : Server :=
  match (s.clients c).contexts.lookup X with
  | none => s
  | some ctx => (s.setContext c X f).setEntry X fun entry => { entry with context := f ctx }

def enableContext (s : Server) (c : ClientId) (X : XId) : Server :=
  (s.setContext c X (RecordContext.enable (s.clients c).sequence)).setEntry X fun entry =>
    { entry with context := RecordContext.enable (s.clients c).sequence entry.context, eventTx := c }

def disableContext (s : Server) (c : ClientId) (X : XId) : Server :=
  (s.setContext c X RecordContext.disable).setEntry X fun entry =>
    { entry with context := RecordContext.disable entry.context }

def freeContext (s : Server) (c : ClientId) (X : XId) : Server :=
  { s.setClient c fun cl => { cl with contexts := cl.contexts.erase X } with shared := s.shared.erase X }

/-- The sequence number and the header of a local context, with the defaults for an
unknown one. -/
def contextHeader (s : Server) (c : ClientId) (X : XId) : UInt16 × UInt8 :=
  (((s.clients c).contexts.lookup X).map fun ctx => (ctx.enableSequence, ctx.elementHeader)).getD (0, 0)

end Server

def recordOpcode : UInt8 := 154

def accessError : Nat := 10

def recordError (code : Nat) (seq : UInt16) (badValue : Nat) (minor : UInt8) : Sent :=
  untagged (buildError code seq.toNat badValue recordOpcode.toNat minor.toNat)

/-- A request that has been read. The reply to GetContext is the given answer. -/
def Server.serve (s : Server) (c : ClientId) (now : Nat) (answer : List Sent) :
    RecordRequest → Server × List Sent
  | .createContext req => (s.createContext c req, [])
  | .registerClients req => (s.changeContext c req.context (RecordContext.registerClients req), [])
  | .unregisterClients req => (s.changeContext c req.context (RecordContext.unregisterClients req), [])
  | .getContext _ => (s, answer)
  | .enableContext X =>
    (s.enableContext c X,
      [⟨buildRecordStatusReply Category.startOfData (s.clients c).sequence (s.contextHeader c X).2 now,
        .start X (s.periodOf X)⟩])
  | .disableContext X =>
    (s.disableContext c X,
      [⟨buildRecordStatusReply Category.endOfData (s.contextHeader c X).1 (s.contextHeader c X).2 now,
        .finish X (s.periodOf X)⟩])
  | .freeContext X => (s.freeContext c X, [])

/-- The handler. The reply to QueryVersion is the given answer. -/
def handleRecordRequest (P : Parsers) (s : Server) (c : ClientId) (data : Bytes) (now : Nat)
    (answer : List Sent) : Server × List Sent :=
  let seq := (s.clients c).sequence
  let minor := data.getD 1 0
  if minor = 0 then (s, answer)
  else if 7 < minor then (s, [recordError requestError seq minor.toNat minor])
  else if minor = 1 ∧ 0 < (s.clients c).trustLevel then (s, [recordError accessError seq 0 minor])
  else
    match P.decode false data with
    | none => (s, [recordError lengthError seq 0 minor])
    | some req => s.serve c now answer req

namespace Registration

def ofRequest (c : ClientId) (req : ClientsRequest) : Registration where
  owner := c
  elementHeader := req.elementHeader
  clientSpecs := req.clientSpecs
  ranges := req.ranges
  enabled := false
  enableSequence := 0
  period := 0

def registerClients (req : ClientsRequest) (r : Registration) : Registration :=
  { r with
    elementHeader := req.elementHeader
    ranges := r.ranges ++ req.ranges
    clientSpecs := r.clientSpecs ++ req.clientSpecs }

def unregisterClients (req : UnregisterClientsRequest) (r : Registration) : Registration :=
  { r with
    clientSpecs := removeSpecs req.clientSpecs r.clientSpecs
    ranges := if removeSpecs req.clientSpecs r.clientSpecs = [] then [] else r.ranges }

def enable (seq : UInt16) (clock : Nat) (r : Registration) : Registration :=
  { r with enabled := true, enableSequence := seq, period := if r.enabled then r.period else clock }

def disable (r : Registration) : Registration := { r with enabled := false }

end Registration

namespace Server

def register (s : Server) (c : ClientId) : RecordRequest → Server
  | .createContext req =>
    if 0 < (s.clients c).trustLevel then s
    else { s with registry := s.registry.insert req.context (Registration.ofRequest c req) }
  | .registerClients req =>
    { s with registry := modify req.context (Registration.registerClients req) s.registry }
  | .unregisterClients req =>
    { s with registry := modify req.context (Registration.unregisterClients req) s.registry }
  | .getContext _ => s
  | .enableContext X =>
    { s with
      registry := modify X (Registration.enable (s.clients c).sequence s.clock) s.registry
      clock := s.clock + 1 }
  | .disableContext X => { s with registry := modify X Registration.disable s.registry }
  | .freeContext X => { s with registry := s.registry.erase X }

/-- The request as the client wrote it, in its own byte order. -/
def asked (P : Parsers) (s : Server) (c : ClientId) (data : Bytes) : Option RecordRequest :=
  if data.getD 0 0 = recordOpcode then P.decode (s.clients c).msbFirst data else none

def enroll (P : Parsers) (s : Server) (c : ClientId) (data : Bytes) : Server :=
  match s.asked P c data with
  | none => s
  | some req => s.register c req

end Server

/-- A step of one of the connections, or of a client that sends it something. -/
inductive Label
  | request (c : ClientId) (data : Bytes) (deferred : Bool) (o : Orders)
  | bigRequest (c : ClientId) (raw : Bytes) (deferred : Bool)
  | rejected (c : ClientId) (header : Bytes)
  | handle (c : ClientId) (answer : List Bytes) (now : Nat)
  | respond (c : ClientId) (o : Orders)
  | queue (c : ClientId) (events : List Bytes)
  | flush (c : ClientId) (limited : Bool) (o : Orders)
  | receive (c : ClientId) (o : Orders)
  | input (c : ClientId) (events : List Bytes) (o : Orders)
  | direct (c : ClientId) (events : List Bytes)
  | notify (c : ClientId) (event : Bytes)

/-- The lists are iteration orders of the shared map and of the client's own. -/
def Orders.Valid (o : Orders) (s : Server) (c : ClientId) : Prop :=
  Enumerates o.shared s.shared ∧ Enumerates o.own (s.clients c).contexts

instance (o : Orders) (s : Server) (c : ClientId) : Decidable (o.Valid s c) :=
  inferInstanceAs (Decidable (_ ∧ _))

def Sent.patch (msb : Bool) (seq : UInt16) (m : Sent) : Sent := { m with bytes := patchSequence msb seq m.bytes }

/-- Errors are built little-endian; the normal loop swaps the one at the head. -/
def inClientOrder (msb deferred : Bool) (response : List Sent) : List Sent :=
  if deferred then response else response.modifyHead fun m => { m with bytes := toClientOrder msb m.bytes }

namespace Server

def setPhase (s : Server) (c : ClientId) (phase : Phase) : Server :=
  s.setClient c fun cl => { cl with phase := phase }

def count (s : Server) (c : ClientId) : Server :=
  s.setClient c fun cl => { cl with sequence := cl.sequence + 1 }

def takeRequest (s : Server) (c : ClientId) (data : Bytes) (deferred : Bool) (o : Orders) : Server :=
  (((s.count c).recordInterceptRequest o c data).hear c (.request data)).setPhase c
    (.processing data true deferred)

/-- The extended format. The normal loop rewrites the header, the frame tick does not. -/
def takeBigRequest (s : Server) (c : ClientId) (raw : Bytes) (deferred : Bool) : Server :=
  ((s.count c).hear c (.request raw)).setPhase c
    (.processing (if deferred then raw else rewriteExtended raw) false deferred)

def lengthErrorFor (s : Server) (c : ClientId) (header : Bytes) : Bytes :=
  toClientOrder (s.clients c).msbFirst
    (buildError lengthError ((s.clients c).sequence + 1).toNat 0 (header.getD 0 0).toNat 0)

/-- A request in the extended format from a client that has not enabled it. -/
def reject (s : Server) (c : ClientId) (header : Bytes) : Server :=
  ((s.count c).hearAll c [.request header, .error (s.lengthErrorFor c header)]).write c
    [untagged (s.lengthErrorFor c header)]

def handleRequest (P : Parsers) (s : Server) (c : ClientId) (data : Bytes) (answer : List Bytes) (now : Nat) :
    Server × List Sent :=
  if data.getD 0 0 = recordOpcode then handleRecordRequest P s c data now (answer.map untagged)
  else (s, answer.map untagged)

def process (P : Parsers) (s : Server) (c : ClientId) (data : Bytes) (recorded deferred : Bool)
    (answer : List Bytes) (now : Nat) : Server :=
  let (s', response) := (s.enroll P c data).handleRequest P c data answer now
  s'.setPhase c (.responding data recorded (inClientOrder (s.clients c).msbFirst deferred response))

def respond (s : Server) (c : ClientId) (data : Bytes) (recorded : Bool) (response : List Sent)
    (o : Orders) : Server :=
  let s' := if recorded then s.recordInterceptResponse o c (data.getD 0 0) (data.getD 1 0) response else s
  ((s'.hearAll c (response.filterMap fun m => packetElement (data.getD 0 0) (data.getD 1 0) m.bytes)).write c
    response).setPhase c .idle

/-- The pending events, the oldest dropped beyond the limit of the client. -/
def pendingEvents (s : Server) (c : ClientId) (limited : Bool) : List Sent :=
  (if limited then
      (s.clients c).pending.drop ((s.clients c).pending.length - (s.clients c).maxPendingEvents)
    else (s.clients c).pending).map (Sent.patch (s.clients c).msbFirst (s.clients c).sequence)

def observe (s : Server) (c : ClientId) (events : List Sent) (o : Orders) : Server × List Sent :=
  let (s', intercepts) := s.recordInterceptEvents o c (events.map (·.bytes))
  (s'.hearAll c (events.filterMap fun m => coreEvent m.bytes), intercepts)

def flush (s : Server) (c : ClientId) (limited : Bool) (o : Orders) : Server :=
  let (s', intercepts) := (s.setClient c fun cl => { cl with pending := [] }).observe c
    (s.pendingEvents c limited) o
  s'.write c (s.pendingEvents c limited ++ intercepts)

def deliver (s : Server) (c : ClientId) (m : Sent) (o : Orders) : Server :=
  let (s', intercepts) := s.observe c [m] o
  s'.write c (intercepts ++ [m])

def receive (s : Server) (c : ClientId) (m : Sent) (rest : List Sent) (o : Orders) : Server :=
  (s.setClient c fun cl => { cl with inbox := rest }).deliver c
    (m.patch (s.clients c).msbFirst (s.clients c).sequence) o

/-- An input event with the crossings before it, written as one entry that is intercepted as a whole. -/
def input (s : Server) (c : ClientId) (events : List Bytes) (o : Orders) : Server :=
  let (s', intercepts) := s.recordInterceptEvents o c [events.flatten]
  (s'.hearAll c (events.filterMap coreEvent)).write c (intercepts ++ events.map untagged)

/-- Crossings, screen changes and key repeats are written with no interception. -/
def writeDirect (s : Server) (c : ClientId) (events : List Bytes) : Server :=
  (s.hearAll c (events.filterMap coreEvent)).write c (events.map untagged)

end Server

/-- A step, or `none` where the task is not at a place where it can take it. -/
def step (P : Parsers) (s : Server) : Label → Option Server
  | .request c data deferred o =>
    if (s.clients c).phase = .idle ∧ 4 ≤ data.length ∧ o.Valid s c then
      some (s.takeRequest c data deferred o)
    else none
  | .bigRequest c raw deferred =>
    if (s.clients c).phase = .idle ∧ bigRequestMinBytes ≤ raw.length then
      some (s.takeBigRequest c raw deferred)
    else none
  | .rejected c header =>
    if (s.clients c).phase = .idle ∧ header.length = 4 then some (s.reject c header) else none
  | .handle c answer now =>
    match (s.clients c).phase with
    | .processing data recorded deferred =>
      if ∀ packet ∈ answer, 32 ≤ packet.length then some (s.process P c data recorded deferred answer now)
      else none
    | _ => none
  | .respond c o =>
    match (s.clients c).phase with
    | .responding data recorded response =>
      if o.Valid s c then some (s.respond c data recorded response o) else none
    | _ => none
  | .queue c events =>
    some (s.setClient c fun cl => { cl with pending := cl.pending ++ events.map untagged })
  | .flush c limited o =>
    if (s.clients c).phase = .idle ∧ o.Valid s c then some (s.flush c limited o) else none
  | .receive c o =>
    match (s.clients c).inbox with
    | [] => none
    | m :: rest =>
      if (s.clients c).phase = .idle ∧ o.Valid s c then some (s.receive c m rest o) else none
  | .input c events o =>
    if (s.clients c).phase = .idle ∧ o.Valid s c ∧ ∀ event ∈ events, 32 ≤ event.length then some (s.input c events o)
    else none
  | .direct c events =>
    if (s.clients c).phase = .idle then some (s.writeDirect c events) else none
  | .notify c event =>
    some (s.setClient c fun cl => { cl with inbox := cl.inbox ++ [untagged event] })

end X11Web.RecordTraffic
