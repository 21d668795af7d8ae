import X11Web.SyncWindows
import X11Web.Runs

namespace X11Web.SyncExtension

open HashMaps Windows

/-- A 64-bit value as the protocol carries it. -/
structure Int64Pair where
  hi : Int32
  lo : UInt32
deriving DecidableEq

def Int64Pair.toI64 (v : Int64Pair) : Int64 := v.hi.toInt64 <<< 32 ||| v.lo.toUInt64.toInt64

def Int64Pair.ofI64 (val : Int64) : Int64Pair := ⟨(val >>> 32).toInt32, val.toUInt64.toUInt32⟩

structure SyncCounter where
  value : Int64Pair
  isSystem : Bool
deriving DecidableEq

structure SyncAlarm where
  counter : XId
  valueType : UInt8
  value : Int64Pair
  testType : UInt8
  delta : Int64Pair
  events : Bool
  state : UInt8
deriving DecidableEq

structure FenceState where
  id : XId
  triggered : Bool
  initiallyTriggered : Bool
  fd : Int
deriving DecidableEq

structure AwaitTrigger where
  counterId : XId
  valueType : UInt32
  waitValue : Int64
  testType : UInt32
  eventThreshold : Int64
deriving DecidableEq

structure PendingAwait where
  triggers : List AwaitTrigger
  seq : UInt16
deriving DecidableEq

structure PendingFenceAwait where
  fenceIds : List XId
  seq : UInt16
deriving DecidableEq

structure SyncState where
  counters : HashMap XId SyncCounter := ∅
  alarms : HashMap XId SyncAlarm := ∅
  fences : HashMap XId FenceState := ∅
  priorities : HashMap XId Int32 := ∅
  pendingAwaits : List PendingAwait := []
  pendingFenceAwaits : List PendingFenceAwait := []
  blocked : Bool := false

def serverTimeCounter : XId := 1

def SyncState.new : SyncState where
  counters := (∅ : HashMap XId SyncCounter).insert serverTimeCounter ⟨⟨0, 0⟩, true⟩

namespace AlarmState

def active : UInt8 := 0
def inactive : UInt8 := 1

end AlarmState

namespace TestType

def positiveTransition : UInt32 := 0
def negativeTransition : UInt32 := 1
def positiveComparison : UInt32 := 2
def negativeComparison : UInt32 := 3

end TestType

structure AlarmNotifyEvent where
  sequence : UInt16
  alarm : XId
  counterValue : Int64Pair
  alarmValue : Int64Pair
  state : UInt8
deriving DecidableEq

/-- The connection as the SYNC handlers see it: its own record, the extension's
state, the alarm events it has queued and the fence descriptors it has closed. -/
structure SyncClient where
  client : ClientState
  sync : SyncState
  alarmEvents : List AlarmNotifyEvent
  closedFds : List Int

def alarmTriggered (counterId : XId) (oldValue newValue : Int64) (a : SyncAlarm) : Bool :=
  let threshold := a.value.toI64
  let testType := a.testType.toUInt32
  a.counter == counterId && a.state == AlarmState.active && a.events &&
    (if testType = TestType.positiveTransition then
      decide (oldValue < threshold) && decide (threshold ≤ newValue)
    else if testType = TestType.negativeTransition then
      decide (threshold < oldValue) && decide (newValue ≤ threshold)
    else if testType = TestType.positiveComparison then decide (threshold ≤ newValue)
    else if testType = TestType.negativeComparison then decide (newValue ≤ threshold)
    else false)

/-- The alarm after it has gone off: the next threshold, or switched off. -/
def rearm (a : SyncAlarm) : SyncAlarm :=
  let delta := a.delta.toI64
  if delta ≠ 0 then { a with value := .ofI64 (a.value.toI64 + delta) }
  else { a with state := AlarmState.inactive }

/-- `order` is the iteration order of the alarms. -/
def checkAlarms (order : List XId) (counterId : XId) (oldValue newValue : Int64) (seq : UInt16)
    (c : SyncClient) : SyncClient :=
  let triggered := order.filter
    (fun id => (c.sync.alarms.lookup id).any (alarmTriggered counterId oldValue newValue))
  triggered.foldl
    (fun c id =>
      match c.sync.alarms.lookup id with
      | none => c
      | some alarm =>
        { c with
          alarmEvents := c.alarmEvents ++
            [⟨seq, id, .ofI64 newValue, alarm.value, alarm.state⟩]
          sync := { c.sync with alarms := modify id rearm c.sync.alarms } }) c

def isTriggerSatisfied (trigger : AwaitTrigger) (currentValue : Int64) : Bool :=
  if trigger.testType = TestType.positiveTransition ∨ trigger.testType = TestType.positiveComparison
  then decide (trigger.waitValue ≤ currentValue)
  else if trigger.testType = TestType.negativeTransition ∨
    trigger.testType = TestType.negativeComparison
  then decide (currentValue ≤ trigger.waitValue)
  else true

/-- The value a trigger is compared with: the server time for the system counter,
zero for a counter that does not exist. -/
def currentValue (s : SyncState) (timestamp : UInt32) (counterId : XId) : Int64 :=
  if counterId = serverTimeCounter then timestamp.toUInt64.toInt64
  else ((s.counters.lookup counterId).map (·.value.toI64)).getD 0

def anySatisfied (s : SyncState) (timestamp : UInt32) (pa : PendingAwait) : Bool :=
  pa.triggers.any (fun t => isTriggerSatisfied t (currentValue s timestamp t.counterId))

def fenceTriggered (s : SyncState) (fid : XId) : Bool :=
  ((s.fences.lookup fid).map (·.triggered)).getD false

def anyTriggered (s : SyncState) (pfa : PendingFenceAwait) : Bool :=
  pfa.fenceIds.any (fenceTriggered s)

def checkPendingAwaits (timestamp : UInt32) (s : SyncState) : SyncState :=
  if s.pendingAwaits = [] then s
  else
    let unblocked := s.pendingAwaits.any (anySatisfied s timestamp)
    let pendingAwaits := s.pendingAwaits.filter (fun pa => !anySatisfied s timestamp pa)
    { s with
      pendingAwaits
      blocked := if unblocked ∧ pendingAwaits = [] ∧ s.pendingFenceAwaits = [] then false
        else s.blocked }

def checkPendingFenceAwaits (s : SyncState) : SyncState :=
  if s.pendingFenceAwaits = [] then s
  else
    let unblocked := s.pendingFenceAwaits.any (anyTriggered s)
    let pendingFenceAwaits := s.pendingFenceAwaits.filter (fun pfa => !anyTriggered s pfa)
    { s with
      pendingFenceAwaits
      blocked := if unblocked ∧ pendingFenceAwaits = [] ∧ s.pendingAwaits = [] then false
        else s.blocked }

structure Waitcondition where
  counter : XId
  waitType : UInt32
  waitValue : Int64Pair
  testType : UInt32
  eventThreshold : Int64Pair
deriving DecidableEq

def Waitcondition.trigger (wc : Waitcondition) : AwaitTrigger where
  counterId := wc.counter
  valueType := wc.waitType
  waitValue := wc.waitValue.toI64
  testType := wc.testType
  eventThreshold := wc.eventThreshold.toI64

structure AlarmValues where
  counter : Option XId
  valueType : Option UInt32
  value : Option Int64Pair
  testType : Option UInt32
  delta : Option Int64Pair
  events : Option UInt32
deriving DecidableEq

inductive SyncRequest
  | initializeSync
  | listSystemCounters
  | createCounter (id : XId) (initialValue : Int64Pair)
  | setCounter (counter : XId) (value : Int64Pair)
  | changeCounter (counter : XId) (amount : Int64Pair)
  | queryCounter (counter : XId)
  | destroyCounter (counter : XId)
  | await (waitList : List Waitcondition)
  | createAlarm (id : XId) (valueList : AlarmValues)
  | changeAlarm (id : XId) (valueList : AlarmValues)
  | queryAlarm (alarm : XId)
  | destroyAlarm (alarm : XId)
  | setPriority (id : XId) (priority : Int32)
  | getPriority (id : XId)
  | createFence (fence : XId) (initiallyTriggered : Bool)
  | triggerFence (fence : XId)
  | resetFence (fence : XId)
  | destroyFence (fence : XId)
  | queryFence (fence : XId)
  | awaitFence (fenceList : List XId)
  | unhandled (minor : Nat)
deriving DecidableEq

inductive SyncReply
  | none
  | initializeSync (majorVersion minorVersion : Nat)
  | systemCounters (counters : List (XId × Int64Pair × String))
  | counter (counterValue : Int64Pair)
  | alarm (counter : XId) (waitType : UInt32) (waitValue : Int64Pair) (testType : UInt32)
      (delta : Int64Pair) (events : Bool) (state : UInt8)
  | priority (priority : Int32)
  | fence (triggered : Bool)
  | error (code badValue majorOpcode minorOpcode : Nat)
deriving DecidableEq

def requestError : Nat := 1
def valueError : Nat := 2
def matchError : Nat := 8
def syncOpcode : Nat := 134

def updateSync (f : SyncState → SyncState) (c : SyncClient) : SyncClient := { c with sync := f c.sync }

def createCounter (id : XId) (initialValue : Int64Pair) (s : SyncState) : SyncState :=
  { s with counters := s.counters.insert id ⟨initialValue, false⟩ }

/-- What SetCounter and ChangeCounter share: store the value if the counter
exists, then check the alarms and the pending awaits. -/
def storeCounter (order : List XId) (timestamp : UInt32) (seq : UInt16) (counterId : XId)
    (oldValue newValue : Int64) (value : Int64Pair) (c : SyncClient) : SyncClient :=
  let stored := updateSync (fun s =>
    { s with counters := modify counterId (fun k => { k with value := value }) s.counters }) c
  updateSync (checkPendingAwaits timestamp)
    (checkAlarms order counterId oldValue newValue seq stored)

def counterValue (s : SyncState) (counterId : XId) : Int64 :=
  ((s.counters.lookup counterId).map (·.value.toI64)).getD 0

def setCounter (order : List XId) (timestamp : UInt32) (seq : UInt16) (counterId : XId)
    (value : Int64Pair) (c : SyncClient) : SyncClient :=
  storeCounter order timestamp seq counterId (counterValue c.sync counterId) value.toI64 value c

def changeCounter (order : List XId) (timestamp : UInt32) (seq : UInt16) (counterId : XId)
    (amount : Int64Pair) (c : SyncClient) : SyncClient :=
  let oldValue := counterValue c.sync counterId
  let newValue := oldValue + amount.toI64
  storeCounter order timestamp seq counterId oldValue newValue (.ofI64 newValue) c

def queryCounter (timestamp : UInt32) (counterId : XId) (s : SyncState) : SyncReply :=
  if counterId = serverTimeCounter then .counter ⟨0, timestamp⟩
  else
    match s.counters.lookup counterId with
    | some counter => .counter counter.value
    | none => .error valueError counterId syncOpcode 5

def deactivate (counterId : XId) (a : SyncAlarm) : SyncAlarm :=
  if a.counter = counterId then { a with state := AlarmState.inactive } else a

def destroyCounter (counterId : XId) (c : SyncClient) : SyncClient :=
  let s := c.sync
  let pendingAwaits := s.pendingAwaits.filter
    (fun pa => !pa.triggers.any (fun t => t.counterId == counterId))
  { c with
    client := recycleXid counterId c.client
    sync := { s with
      counters := s.counters.erase counterId
      alarms := mapValues (deactivate counterId) s.alarms
      pendingAwaits
      blocked := if s.pendingAwaits ≠ [] ∧ pendingAwaits = [] ∧ s.pendingFenceAwaits = [] then false
        else s.blocked } }

/-- The timestamp is read anew for each condition: `clock i` at the `i`-th. -/
def awaitOp (clock : Nat → UInt32) (seq : UInt16) (waitList : List Waitcondition) (s : SyncState) :
    SyncState :=
  let satisfied := waitList.zipIdx.any (fun p =>
    isTriggerSatisfied p.1.trigger (currentValue s (clock p.2) p.1.counter))
  if satisfied ∨ waitList = [] then s
  else
    { s with
      pendingAwaits := s.pendingAwaits ++ [⟨waitList.map Waitcondition.trigger, seq⟩]
      blocked := true }

def newAlarm (vl : AlarmValues) : SyncAlarm where
  counter := vl.counter.getD 0
  valueType := (vl.valueType.map UInt32.toUInt8).getD 0
  value := ⟨(vl.value.map (·.hi)).getD 0, (vl.value.map (·.lo)).getD 0⟩
  testType := (vl.testType.map UInt32.toUInt8).getD TestType.positiveTransition.toUInt8
  delta := ⟨(vl.delta.map (·.hi)).getD 0, (vl.delta.map (·.lo)).getD 1⟩
  events := (vl.events.map (fun v => v != 0)).getD true
  state := AlarmState.active

def changedAlarm (vl : AlarmValues) (a : SyncAlarm) : SyncAlarm where
  counter := vl.counter.getD a.counter
  valueType := (vl.valueType.map UInt32.toUInt8).getD a.valueType
  value := vl.value.getD a.value
  testType := (vl.testType.map UInt32.toUInt8).getD a.testType
  delta := vl.delta.getD a.delta
  events := (vl.events.map (fun v => v != 0)).getD a.events
  state := if a.state = AlarmState.inactive then AlarmState.active else a.state

def createAlarm (id : XId) (vl : AlarmValues) (s : SyncState) : SyncState :=
  { s with alarms := s.alarms.insert id (newAlarm vl) }

def changeAlarm (id : XId) (vl : AlarmValues) (s : SyncState) : SyncState :=
  { s with alarms := modify id (changedAlarm vl) s.alarms }

def queryAlarm (alarmId : XId) (s : SyncState) : SyncReply :=
  match s.alarms.lookup alarmId with
  | some a => .alarm a.counter a.valueType.toUInt32 a.value a.testType.toUInt32 a.delta a.events a.state
  | none => .alarm 0 0 ⟨0, 0⟩ 0 ⟨0, 0⟩ false AlarmState.inactive

def destroyAlarm (alarmId : XId) (c : SyncClient) : SyncClient :=
  { c with
    client := recycleXid alarmId c.client
    sync := { c.sync with alarms := c.sync.alarms.erase alarmId } }

def createFence (fenceId : XId) (initiallyTriggered : Bool) (s : SyncState) : SyncState :=
  { s with fences := s.fences.insert fenceId ⟨fenceId, initiallyTriggered, initiallyTriggered, -1⟩ }

def markTriggered (fenceId : XId) (triggered : Bool) (s : SyncState) : SyncState :=
  { s with fences := modify fenceId (fun f => { f with triggered }) s.fences }

def triggerFence (fenceId : XId) (s : SyncState) : SyncState :=
  checkPendingFenceAwaits (markTriggered fenceId true s)

def resetFence (fenceId : XId) (s : SyncState) : SyncState × SyncReply :=
  match s.fences.lookup fenceId with
  | some fence =>
    if fence.triggered then (markTriggered fenceId false s, .none)
    else (s, .error matchError fenceId syncOpcode 16)
  | none => (s, .error valueError fenceId syncOpcode 16)

def destroyFence (fenceId : XId) (c : SyncClient) : SyncClient :=
  let s := c.sync
  let pendingFenceAwaits := s.pendingFenceAwaits.filter (fun pfa => !pfa.fenceIds.contains fenceId)
  { c with
    client := recycleXid fenceId c.client
    closedFds := c.closedFds ++
      ((s.fences.lookup fenceId).map (·.fd)).toList.filter (fun fd => decide (0 ≤ fd))
    sync := { s with
      fences := s.fences.erase fenceId
      pendingFenceAwaits
      blocked := if s.pendingFenceAwaits ≠ [] ∧ pendingFenceAwaits = [] ∧ s.pendingAwaits = []
        then false else s.blocked } }

def awaitFence (seq : UInt16) (fenceList : List XId) (s : SyncState) : SyncState :=
  if fenceList.any (fenceTriggered s) ∨ fenceList = [] then s
  else
    { s with
      pendingFenceAwaits := s.pendingFenceAwaits ++ [⟨fenceList, seq⟩]
      blocked := true }

/-- The surroundings of a request: its sequence number, the readings of the
server time it makes and the iteration order of the alarms. -/
structure Surroundings where
  seq : UInt16
  clock : Nat → UInt32
  alarmOrder : List XId

def handleSyncRequest (e : Surroundings) (req : SyncRequest) (c : SyncClient) :
    SyncClient × SyncReply :=
  match req with
  | .initializeSync => (c, .initializeSync 3 1)
  | .listSystemCounters => (c, .systemCounters [(serverTimeCounter, ⟨0, 1⟩, "SERVERTIME")])
  | .createCounter id value => (updateSync (createCounter id value) c, .none)
  | .setCounter counter value => (setCounter e.alarmOrder (e.clock 0) e.seq counter value c, .none)
  | .changeCounter counter amount =>
    (changeCounter e.alarmOrder (e.clock 0) e.seq counter amount c, .none)
  | .queryCounter counter => (c, queryCounter (e.clock 0) counter c.sync)
  | .destroyCounter counter => (destroyCounter counter c, .none)
  | .await waitList => (updateSync (awaitOp e.clock e.seq waitList) c, .none)
  | .createAlarm id vl => (updateSync (createAlarm id vl) c, .none)
  | .changeAlarm id vl => (updateSync (changeAlarm id vl) c, .none)
  | .queryAlarm alarm => (c, queryAlarm alarm c.sync)
  | .destroyAlarm alarm => (destroyAlarm alarm c, .none)
  | .setPriority id priority =>
    (updateSync (fun s => { s with priorities := s.priorities.insert id priority }) c, .none)
  | .getPriority id => (c, .priority ((c.sync.priorities.lookup id).getD 0))
  | .createFence fence triggered => (updateSync (createFence fence triggered) c, .none)
  | .triggerFence fence => (updateSync (triggerFence fence) c, .none)
  | .resetFence fence =>
    ({ c with sync := (resetFence fence c.sync).1 }, (resetFence fence c.sync).2)
  | .destroyFence fence => (destroyFence fence c, .none)
  | .queryFence fence => (c, .fence (((c.sync.fences.lookup fence).map (·.triggered)).getD true))
  | .awaitFence fenceList => (updateSync (awaitFence e.seq fenceList) c, .none)
  | .unhandled minor => (c, .error requestError minor syncOpcode minor)

/-- What PresentPixmap does to its two fences; the identifier zero is none. -/
def presentFences (waitFence idleFence : XId) (s : SyncState) : SyncState :=
  let waited := if waitFence ≠ 0 then markTriggered waitFence true s else s
  if idleFence ≠ 0 then markTriggered idleFence true waited else waited

/-- The update of the SERVERTIME counter at a frame tick. -/
def advanceServerTime (order : List XId) (serverTime : UInt32) (seq : UInt16) (c : SyncClient) :
    SyncClient :=
  match c.sync.counters.lookup serverTimeCounter with
  | none => c
  | some counter =>
    let value := Int64Pair.ofI64 serverTime.toUInt64.toInt64
    let stored := updateSync (fun s =>
      { s with counters := s.counters.insert serverTimeCounter { counter with value } }) c
    if counter.value.toI64 ≠ value.toI64 then
      checkAlarms order serverTimeCounter counter.value.toI64 value.toI64 seq stored
    else stored

/-- The SYNC part of a frame tick. It reads the server time twice; the requests
it then lets through are ordinary requests. -/
def frameTick (e : Surroundings) (c : SyncClient) : SyncClient :=
  let advanced := advanceServerTime e.alarmOrder (e.clock 0) e.seq c
  if advanced.sync.blocked then
    updateSync (fun s => checkPendingFenceAwaits (checkPendingAwaits (e.clock 1) s)) advanced
  else advanced

end X11Web.SyncExtension
