import X11Web.AlarmRearming
import X11Web.SyncBlocking

namespace X11Web.ServerTime

open HashMaps Windows SyncExtension SyncBlocking AlarmRearming List

/-- A request is handled whatever the connection is blocked on. -/
def next (c : SyncClient) : SyncAction → SyncClient
  | .request e req => (handleSyncRequest e req c).1
  | .presentPixmap waitFence idleFence => updateSync (presentFences waitFence idleFence) c
  | .frameTick e => frameTick e c

def tickTime (e : Surroundings) : Int64 := (e.clock 0).toUInt64.toInt64

def timeAfter (time : Int64) : SyncAction → Int64
  | .frameTick e => tickTime e
  | _ => time

def lastTick (actions : List SyncAction) : Int64 := actions.foldl timeAfter 0

def firstReaching (threshold : Int64) (actions : List SyncAction) : Option Surroundings :=
  actions.findSome? fun a =>
    match a with
    | .frameTick e => if threshold ≤ tickTime e then some e else none
    | _ => none

/-- The alarm goes off once when the server time comes to the threshold. -/
structure AwaitsTime (threshold : Int64) (a : SyncAlarm) : Prop where
  counter : a.counter = serverTimeCounter
  active : a.state = AlarmState.active
  test : a.testType.toUInt32 = TestType.positiveTransition
  threshold : a.value.toI64 = threshold
  delta : a.delta.toI64 = 0
  events : a.events = true

def Addresses (id : XId) : SyncAction → Prop
  | .request _ (.createAlarm id' _) | .request _ (.changeAlarm id' _) | .request _ (.destroyAlarm id') => id' = id
  | _ => False

def eventsOf (id : XId) (c : SyncClient) : List AlarmNotifyEvent := c.alarmEvents.filter (·.alarm == id)

def connected (client : ClientState) : SyncClient := ⟨client, .new, [], []⟩

/-- The orders that the actions iterate over the alarms in are those of the maps. -/
def Enumerated (c : SyncClient) (actions : List SyncAction) : Prop :=
  ∀ before e, (∃ req, before ++ [.request e req] <+: actions) ∨ before ++ [.frameTick e] <+: actions →
    IterationOrder e.alarmOrder (before.foldl next c).sync.alarms

/-- The counter is there and holds the time of the last tick, and an alarm that awaits a
time which has not come sends one event, at the first tick that has come to it. -/
structure Undisturbed (c : SyncClient) (actions : List SyncAction) : Prop where
  time : ∀ before, before <+: actions → ∃ counter,
    (before.foldl next c).sync.counters.lookup serverTimeCounter = some counter ∧
      counter.value.toI64 = lastTick before
  alarms : ∀ before after, before ++ after <+: actions → ∀ id a threshold,
    (before.foldl next c).sync.alarms.lookup id = some a → AwaitsTime threshold a →
    counterValue (before.foldl next c).sync serverTimeCounter < threshold → (∀ x ∈ after, ¬ Addresses id x) →
      eventsOf id ((before ++ after).foldl next c) = eventsOf id (before.foldl next c) ++
        ((firstReaching threshold after).map fun e => notice e.seq (tickTime e) id a).toList

/-- The requests on the system counter leave it there, and its value. -/
def Spares (time : Int64) : SyncAction → Prop
  | .request _ (.createCounter id value) | .request _ (.setCounter id value) =>
    id = serverTimeCounter → value.toI64 = time
  | .request _ (.changeCounter id amount) => id = serverTimeCounter → amount.toI64 = 0
  | .request _ (.destroyCounter id) => id ≠ serverTimeCounter
  | _ => True

variable {c : SyncClient} {x : SyncAction} {id counterId : XId} {a : SyncAlarm} {order : List XId} {seq : UInt16}
  {oldValue newValue threshold time : Int64}

section Counters

theorem counters_checkAlarms (order : List XId) (counterId : XId) (oldValue newValue : Int64) (seq : UInt16)
    (c : SyncClient) : (checkAlarms order counterId oldValue newValue seq c).sync.counters = c.sync.counters := by
  rw [checkAlarms_eq]
  generalize announcing order counterId oldValue newValue c = ids
  induction ids generalizing c with
  | nil => rfl
  | cons id ids ih =>
    rw [foldl_cons, ih, goOff]
    split <;> rfl

theorem counters_storeCounter (order : List XId) (timestamp : UInt32) (seq : UInt16) (counterId : XId)
    (oldValue newValue : Int64) (value : Int64Pair) (c : SyncClient) :
    (storeCounter order timestamp seq counterId oldValue newValue value c).sync.counters =
      modify counterId (fun k => { k with value := value }) c.sync.counters := by
  rw [storeCounter]
  dsimp only [updateSync]
  rw [(checkPendingAwaits_fields _ _).2.1, counters_checkAlarms]

theorem counters_advanceServerTime (order : List XId) (serverTime : UInt32) (seq : UInt16) (c : SyncClient) :
    (advanceServerTime order serverTime seq c).sync.counters =
      modify serverTimeCounter (fun k => { k with value := .ofI64 serverTime.toUInt64.toInt64 }) c.sync.counters := by
  rw [advanceServerTime]
  split
  · next hnone => exact (modify_of_lookup_none hnone _).symm
  · next counter hsome =>
    rw [modify_of_lookup hsome]
    dsimp only
    split
    · rw [counters_checkAlarms]
      rfl
    · rfl

theorem counters_frameTick (e : Surroundings) (c : SyncClient) :
    (frameTick e c).sync.counters =
      modify serverTimeCounter (fun k => { k with value := .ofI64 (tickTime e) }) c.sync.counters := by
  rw [frameTick]
  split
  · dsimp only [updateSync]
    rw [(checkPendingFenceAwaits_fields _).2.1, (checkPendingAwaits_fields _ _).2.1, counters_advanceServerTime]
    rfl
  · exact counters_advanceServerTime ..

def HoldsTime (time : Int64) (c : SyncClient) : Prop :=
  ∃ counter, c.sync.counters.lookup serverTimeCounter = some counter ∧ counter.value.toI64 = time

theorem HoldsTime.congr {c' : SyncClient} (h : HoldsTime time c) (hsame : c'.sync.counters = c.sync.counters) :
    HoldsTime time c' := by
  rw [HoldsTime, hsame]
  exact h

theorem HoldsTime.counterValue_eq (h : HoldsTime time c) : counterValue c.sync serverTimeCounter = time := by
  obtain ⟨counter, hctr, htime⟩ := h
  rw [counterValue, hctr]
  exact htime

theorem HoldsTime.modify_iff {c' : SyncClient} (h : HoldsTime time c) {value : Int64Pair}
    (hcounters : c'.sync.counters = HashMaps.modify counterId (fun k => { k with value := value }) c.sync.counters) :
    HoldsTime time c' ↔ (counterId = serverTimeCounter → value.toI64 = time) := by
  obtain ⟨counter, hctr, htime⟩ := h
  rw [HoldsTime, hcounters, lookup_modify]
  split
  · next heq =>
    rw [← heq, hctr, imp_iff_right rfl]
    simp
  · next hne =>
    exact iff_of_true ⟨counter, hctr, htime⟩ fun heq => absurd heq.symm hne

theorem holdsTime_request_iff (h : HoldsTime time c) (e : Surroundings) (req : SyncRequest) :
    HoldsTime time (handleSyncRequest e req c).1 ↔ Spares time (.request e req) := by
  cases req with
  | createCounter id value =>
    obtain ⟨counter, hctr, htime⟩ := h
    simp only [HoldsTime, handleSyncRequest, updateSync, createCounter, lookup_insert_eq, Spares]
    split
    · next heq => simp [← heq]
    · next hne => exact iff_of_true ⟨counter, hctr, htime⟩ fun heq => absurd heq.symm hne
  | setCounter counter value => exact h.modify_iff (counters_storeCounter ..)
  | changeCounter counter amount =>
    refine (h.modify_iff (counters_storeCounter ..)).trans (imp_congr_right fun heq => ?_)
    rw [toI64_ofI64, heq, h.counterValue_eq]
    exact Int64.add_eq_left
  | destroyCounter counter =>
    obtain ⟨k, hk, htime⟩ := h
    simp only [HoldsTime, handleSyncRequest, destroyCounter, lookup_erase_eq, Spares]
    split
    · next heq => simp [← heq]
    · next hne => exact iff_of_true ⟨k, hk, htime⟩ fun heq => hne heq.symm
  | triggerFence fence => exact iff_of_true (h.congr (checkPendingFenceAwaits_fields _).2.1) trivial
  | resetFence fence =>
    refine iff_of_true (h.congr ?_) trivial
    dsimp only [handleSyncRequest]
    rw [resetFence]
    split
    · split <;> rfl
    · rfl
  | await waitList =>
    refine iff_of_true (h.congr ?_) trivial
    dsimp only [handleSyncRequest, updateSync, awaitOp]
    split <;> rfl
  | awaitFence fenceList =>
    refine iff_of_true (h.congr ?_) trivial
    dsimp only [handleSyncRequest, updateSync, awaitFence]
    split <;> rfl
  | _ => exact iff_of_true (h.congr rfl) trivial

theorem holdsTime_next_iff (h : HoldsTime time c) (x : SyncAction) :
    HoldsTime (timeAfter time x) (next c x) ↔ Spares time x := by
  cases x with
  | request e req => exact holdsTime_request_iff h e req
  | presentPixmap waitFence idleFence =>
    refine iff_of_true (h.congr ?_) trivial
    dsimp only [next, updateSync, presentFences]
    split_ifs <;> rfl
  | frameTick e =>
    obtain ⟨counter, hctr, -⟩ := h
    refine iff_of_true ?_ trivial
    refine ⟨{ counter with value := .ofI64 (tickTime e) }, ?_, toI64_ofI64 _⟩
    rw [next, counters_frameTick, lookup_modify_self, hctr]
    rfl

end Counters

section Alarms

theorem filter_notices {ids : List XId} (hnd : ids.Nodup) (c : SyncClient) (id : XId) :
    (ids.flatMap fun k => ((c.sync.alarms.lookup k).map (notice seq newValue k)).toList).filter (·.alarm == id) =
      if id ∈ ids then ((c.sync.alarms.lookup id).map (notice seq newValue id)).toList else [] := by
  induction ids with
  | nil => rfl
  | cons k ids ih =>
    obtain ⟨hk, hnd⟩ := nodup_cons.mp hnd
    rw [flatMap_cons, filter_append, ih hnd]
    by_cases hid : id = k
    · subst hid
      rw [if_neg hk, if_pos mem_cons_self, append_nil]
      cases c.sync.alarms.lookup id <;> simp [notice]
    · have hnone : (((c.sync.alarms.lookup k).map (notice seq newValue k)).toList).filter (·.alarm == id) = [] := by
        cases c.sync.alarms.lookup k <;> simp [notice, Ne.symm hid]
      simp only [hnone, nil_append, mem_cons, hid, false_or]

theorem eventsOf_checkAlarms (hord : IterationOrder order c.sync.alarms) (id : XId) :
    eventsOf id (checkAlarms order counterId oldValue newValue seq c) = eventsOf id c ++
      if id ∈ announcing order counterId oldValue newValue c then
        ((c.sync.alarms.lookup id).map (notice seq newValue id)).toList
      else [] := by
  have hnd : (announcing order counterId oldValue newValue c).Nodup := hord.1.filter _
  rw [eventsOf, checkAlarms_eq, foldl_goOff_events _ hnd, filter_append, filter_notices hnd]
  rfl

structure Stays (id : XId) (a : SyncAlarm) (c c' : SyncClient) : Prop where
  alarm : c'.sync.alarms.lookup id = some a
  events : eventsOf id c' = eventsOf id c

theorem Stays.of_same {c' : SyncClient} (hid : c.sync.alarms.lookup id = some a)
    (halarms : c'.sync.alarms.lookup id = c.sync.alarms.lookup id) (hevs : c'.alarmEvents = c.alarmEvents) :
    Stays id a c c' :=
  ⟨halarms.trans hid, by rw [eventsOf, hevs]; rfl⟩

theorem stays_checkAlarms (hord : IterationOrder order c.sync.alarms) (hid : c.sync.alarms.lookup id = some a)
    (hdue : ¬ Due counterId oldValue newValue a) :
    Stays id a c (checkAlarms order counterId oldValue newValue seq c) := by
  refine ⟨lookup_checkAlarms_silent hord hid fun h => hdue h.1, ?_⟩
  rw [eventsOf_checkAlarms hord, if_neg fun hmem => hdue ((mem_announcing hord hid).mp hmem).1, append_nil]

theorem alarms_checkPendingAwaits (timestamp : UInt32) (s : SyncState) :
    (checkPendingAwaits timestamp s).alarms = s.alarms := by
  rw [checkPendingAwaits]
  split <;> rfl

theorem alarms_checkPendingFenceAwaits (s : SyncState) : (checkPendingFenceAwaits s).alarms = s.alarms := by
  rw [checkPendingFenceAwaits]
  split <;> rfl

theorem stays_storeCounter {timestamp : UInt32} {value : Int64Pair} (hord : IterationOrder order c.sync.alarms)
    (hid : c.sync.alarms.lookup id = some a) (hdue : ¬ Due counterId oldValue newValue a) :
    Stays id a c (storeCounter order timestamp seq counterId oldValue newValue value c) := by
  let stored := updateSync (fun s =>
    { s with counters := modify counterId (fun k => { k with value := value }) s.counters }) c
  have hstays : Stays id a stored (checkAlarms order counterId oldValue newValue seq stored) :=
    stays_checkAlarms hord hid hdue
  refine ⟨?_, hstays.events⟩
  rw [storeCounter]
  dsimp only [updateSync]
  rw [alarms_checkPendingAwaits]
  exact hstays.alarm

def Patient (a : SyncAlarm) : Prop := a.state = AlarmState.inactive ∨ ∃ threshold, AwaitsTime threshold a

theorem Patient.not_due (h : Patient a) (hsame : counterId = serverTimeCounter → newValue = oldValue) :
    ¬ Due counterId oldValue newValue a := by
  rintro ⟨hctr, hactive, htest⟩
  cases h with
  | inl hoff =>
    rw [hactive] at hoff
    exact absurd hoff (by decide)
  | inr hawaits =>
    obtain ⟨threshold, hawaits⟩ := hawaits
    rw [hsame (hctr.symm.trans hawaits.counter), testHolds_same, hawaits.test] at htest
    exact htest.elim (fun h => absurd h.1 (by decide)) fun h => absurd h.1 (by decide)

theorem Patient.deactivate_eq (h : Patient a) (hne : counterId ≠ serverTimeCounter) : deactivate counterId a = a := by
  rw [deactivate]
  split
  · next hctr =>
    cases h with
    | inl hoff => rw [← hoff]
    | inr hawaits =>
      obtain ⟨threshold, hawaits⟩ := hawaits
      exact absurd (hctr.symm.trans hawaits.counter) hne
  · rfl

variable {e : Surroundings}

theorem stays_request {req : SyncRequest} (htime : HoldsTime time c)
    (hspares : Spares time (.request e req)) (hord : IterationOrder e.alarmOrder c.sync.alarms)
    (hid : c.sync.alarms.lookup id = some a) (hpatient : Patient a) (hoths : ¬ Addresses id (.request e req)) :
    Stays id a c (handleSyncRequest e req c).1 := by
  cases req with
  | setCounter k value =>
    refine stays_storeCounter hord hid (hpatient.not_due fun hk => ?_)
    rw [hk, htime.counterValue_eq]
    exact hspares hk
  | changeCounter k amount =>
    refine stays_storeCounter hord hid (hpatient.not_due fun hk => ?_)
    exact Int64.add_eq_left.mpr (hspares hk)
  | destroyCounter k =>
    refine .of_same hid ?_ rfl
    dsimp only [handleSyncRequest, destroyCounter]
    rw [lookup_mapValues, hid, Option.map_some, hpatient.deactivate_eq hspares]
  | createAlarm k vl =>
    refine .of_same hid ?_ rfl
    dsimp only [handleSyncRequest, updateSync, createAlarm]
    rw [lookup_insert_eq, if_neg fun heq => hoths heq.symm]
  | changeAlarm k vl => exact .of_same hid (lookup_modify_of_ne (fun heq => hoths heq.symm) _ _) rfl
  | destroyAlarm k =>
    refine .of_same hid ?_ rfl
    dsimp only [handleSyncRequest, destroyAlarm]
    rw [lookup_erase_eq, if_neg fun heq => hoths heq.symm]
  | triggerFence fence =>
    refine .of_same hid ?_ rfl
    dsimp only [handleSyncRequest, updateSync, triggerFence]
    rw [alarms_checkPendingFenceAwaits]
    rfl
  | resetFence fence =>
    refine .of_same hid ?_ rfl
    dsimp only [handleSyncRequest]
    rw [resetFence]
    split
    · split <;> rfl
    · rfl
  | await waitList =>
    refine .of_same hid ?_ rfl
    dsimp only [handleSyncRequest, updateSync, awaitOp]
    split <;> rfl
  | awaitFence fenceList =>
    refine .of_same hid ?_ rfl
    dsimp only [handleSyncRequest, updateSync, awaitFence]
    split <;> rfl
  | _ => exact .of_same hid rfl rfl

theorem alarms_frameTick (e : Surroundings) (c : SyncClient) : (frameTick e c).sync.alarms =
    (advanceServerTime e.alarmOrder (e.clock 0) e.seq c).sync.alarms := by
  rw [frameTick]
  split
  · dsimp only [updateSync]
    rw [alarms_checkPendingFenceAwaits, alarms_checkPendingAwaits]
  · rfl

theorem eventsOf_frameTick (e : Surroundings) (c : SyncClient) : eventsOf id (frameTick e c) =
    eventsOf id (advanceServerTime e.alarmOrder (e.clock 0) e.seq c) := by
  rw [frameTick]
  split <;> rfl

theorem advanceServerTime_eq (e : Surroundings) (htime : HoldsTime time c) : ∃ stored : SyncClient,
    stored.sync.alarms = c.sync.alarms ∧ stored.alarmEvents = c.alarmEvents ∧
      advanceServerTime e.alarmOrder (e.clock 0) e.seq c =
        if time ≠ tickTime e then
          checkAlarms e.alarmOrder serverTimeCounter time (tickTime e) e.seq stored
        else stored := by
  obtain ⟨counter, hctr, htime⟩ := htime
  let value := Int64Pair.ofI64 (tickTime e)
  refine ⟨updateSync (fun s =>
    { s with counters := s.counters.insert serverTimeCounter { counter with value } }) c, rfl, rfl, ?_⟩
  rw [advanceServerTime, hctr]
  dsimp only
  rw [htime, toI64_ofI64]
  rfl

theorem stays_frameTick (htime : HoldsTime time c)
    (hord : IterationOrder e.alarmOrder c.sync.alarms) (hid : c.sync.alarms.lookup id = some a)
    (hdue : ¬ Due serverTimeCounter time (tickTime e) a) : Stays id a c (frameTick e c) := by
  obtain ⟨stored, halarms, hevs, hadv⟩ := advanceServerTime_eq e htime
  suffices h : Stays id a c (advanceServerTime e.alarmOrder (e.clock 0) e.seq c) from
    ⟨(congrArg _ (alarms_frameTick e c)).trans h.alarm, (eventsOf_frameTick e c).trans h.events⟩
  have hstd : Stays id a c stored := .of_same hid (by rw [halarms]) hevs
  rw [hadv]
  split
  · rw [← halarms] at hord
    have hstays : Stays id a stored
        (checkAlarms e.alarmOrder serverTimeCounter time (tickTime e) e.seq stored) :=
      stays_checkAlarms hord hstd.alarm hdue
    exact ⟨hstays.alarm, hstays.events.trans hstd.events⟩
  · exact hstd

theorem goesOff_frameTick (htime : HoldsTime time c)
    (hord : IterationOrder e.alarmOrder c.sync.alarms) (hid : c.sync.alarms.lookup id = some a)
    (hdue : Due serverTimeCounter time (tickTime e) a) (hevs : a.events = true) (hmvs : time ≠ tickTime e) :
    (frameTick e c).sync.alarms.lookup id = some (rearm a) ∧
      eventsOf id (frameTick e c) = eventsOf id c ++ [notice e.seq (tickTime e) id a] := by
  obtain ⟨stored, halarms, hsent, hadv⟩ := advanceServerTime_eq e htime
  rw [← halarms] at hord hid
  rw [alarms_frameTick, eventsOf_frameTick, hadv, if_pos hmvs]
  refine ⟨lookup_checkAlarms_due hord hid hdue hevs, ?_⟩
  rw [eventsOf_checkAlarms hord, if_pos ((mem_announcing hord hid).mpr ⟨hdue, hevs⟩), hid, eventsOf, hsent]
  rfl

end Alarms

section Runs

variable {after : List SyncAction}

theorem Enumerated.tail (h : Enumerated c (x :: after)) : Enumerated (next c x) after := by
  intro before e hx
  refine h (x :: before) e (hx.imp (fun h => ?_) fun h => cons_prefix_cons.mpr ⟨rfl, h⟩)
  obtain ⟨req, h⟩ := h
  exact ⟨req, cons_prefix_cons.mpr ⟨rfl, h⟩⟩

theorem Enumerated.request {req : SyncRequest} (h : Enumerated c (.request e req :: after)) :
    IterationOrder e.alarmOrder c.sync.alarms :=
  h [] e (.inl ⟨req, cons_prefix_cons.mpr ⟨rfl, nil_prefix⟩⟩)

theorem Enumerated.frameTick (h : Enumerated c (.frameTick e :: after)) :
    IterationOrder e.alarmOrder c.sync.alarms :=
  h [] e (.inr (cons_prefix_cons.mpr ⟨rfl, nil_prefix⟩))

theorem stays_next (htime : HoldsTime time c) (hord : Enumerated c (x :: after)) (hspares : Spares time x)
    (hoths : ¬ Addresses id x) (hid : c.sync.alarms.lookup id = some a) (hpatient : Patient a)
    (hearly : ∀ e threshold, x = .frameTick e → AwaitsTime threshold a → tickTime e < threshold) :
    Stays id a c (next c x) := by
  cases x with
  | request e req => exact stays_request htime hspares hord.request hid hpatient hoths
  | presentPixmap waitFence idleFence =>
    refine .of_same hid ?_ rfl
    dsimp only [next, updateSync, presentFences]
    split_ifs <;> rfl
  | frameTick e =>
    refine stays_frameTick htime hord.frameTick hid fun hdue => ?_
    cases hpatient with
    | inl hoff =>
      rw [hdue.active] at hoff
      exact absurd hoff (by decide)
    | inr hawaits =>
      obtain ⟨threshold, hawaits⟩ := hawaits
      have hcome := hdue.test
      rw [testHolds, hawaits.threshold] at hcome
      rw [if_pos hawaits.test, Bool.and_eq_true, decide_eq_true_iff, decide_eq_true_iff] at hcome
      exact absurd hcome.2 (Int64.not_le.mpr (hearly e threshold rfl hawaits))

theorem eventsOf_spent (htime : HoldsTime time c) (hord : Enumerated c after)
    (hspares : ∀ before x, before ++ [x] <+: after → Spares (before.foldl timeAfter time) x)
    (hoths : ∀ x ∈ after, ¬ Addresses id x) (hid : c.sync.alarms.lookup id = some a)
    (hoff : a.state = AlarmState.inactive) : eventsOf id (after.foldl next c) = eventsOf id c := by
  induction after generalizing c time with
  | nil => rfl
  | cons x after ih =>
    obtain ⟨hx, hrest⟩ := Runs.forall_prefix_cons.mp hspares
    obtain ⟨hoth, hunaddressed⟩ := forall_mem_cons.mp hoths
    have hstays := stays_next htime hord hx hoth hid (.inl hoff) fun e threshold _ hawaits =>
      absurd (hawaits.active.symm.trans hoff) (by decide)
    have hnext := (holdsTime_next_iff htime x).mpr hx
    rw [foldl_cons, ih hnext hord.tail hrest hunaddressed hstays.alarm, hstays.events]

theorem firstReaching_frameTick (e : Surroundings) : firstReaching threshold (.frameTick e :: after) =
    if threshold ≤ tickTime e then some e else firstReaching threshold after := by
  rw [firstReaching, List.findSome?_cons]
  by_cases hcome : threshold ≤ tickTime e
  · simp only [hcome, if_true]
  · simp only [hcome, if_false]
    rfl

theorem eventsOf_awaiting (htime : HoldsTime time c) (hord : Enumerated c after)
    (hspares : ∀ before x, before ++ [x] <+: after → Spares (before.foldl timeAfter time) x)
    (hoths : ∀ x ∈ after, ¬ Addresses id x) (hid : c.sync.alarms.lookup id = some a)
    (hawaits : AwaitsTime threshold a) (hbel : time < threshold) :
    eventsOf id (after.foldl next c) = eventsOf id c ++
      ((firstReaching threshold after).map fun e => notice e.seq (tickTime e) id a).toList := by
  induction after generalizing c time with
  | nil => exact (append_nil _).symm
  | cons x after ih =>
    obtain ⟨hx, hrest⟩ := Runs.forall_prefix_cons.mp hspares
    obtain ⟨hoth, hunaddressed⟩ := forall_mem_cons.mp hoths
    have hnext := (holdsTime_next_iff htime x).mpr hx
    by_cases hrchs : ∃ e, x = .frameTick e ∧ threshold ≤ tickTime e
    · obtain ⟨e, rfl, hcome⟩ := hrchs
      have hdue : Due serverTimeCounter time (tickTime e) a := by
        refine ⟨hawaits.counter, hawaits.active, ?_⟩
        rw [testHolds, hawaits.threshold, if_pos hawaits.test, decide_eq_true hbel, decide_eq_true hcome]
        rfl
      have hmvs : time ≠ tickTime e := fun heq => Int64.not_le.mpr hbel (heq ▸ hcome)
      obtain ⟨hrearmed, hsent⟩ := goesOff_frameTick htime hord.frameTick hid hdue hawaits.events hmvs
      have hoff : (rearm a).state = AlarmState.inactive := by
        rw [rearm, hawaits.delta]
        rfl
      have hfst : firstReaching threshold (.frameTick e :: after) = some e := by
        rw [firstReaching_frameTick, if_pos hcome]
      rw [foldl_cons, eventsOf_spent hnext hord.tail hrest hunaddressed hrearmed hoff, hfst]
      exact hsent
    · have hearly : ∀ e, x = .frameTick e → tickTime e < threshold := fun e he =>
        Int64.not_le.mp fun hcome => hrchs ⟨e, he, hcome⟩
      have hstays := stays_next htime hord hx hoth hid (.inr ⟨threshold, hawaits⟩) fun e other he hawaits' => by
        rw [← hawaits'.threshold, hawaits.threshold]
        exact hearly e he
      have hbel' : timeAfter time x < threshold := by
        cases x with
        | frameTick e => exact hearly e rfl
        | _ => exact hbel
      have hlater : firstReaching threshold (x :: after) = firstReaching threshold after := by
        cases x with
        | frameTick e =>
          rw [firstReaching_frameTick, if_neg (Int64.not_le.mpr (hearly e rfl))]
        | _ => rfl
      rw [foldl_cons, ih hnext hord.tail hrest hunaddressed hstays.alarm hbel', hstays.events, hlater]

theorem Enumerated.drop {before : List SyncAction} (h : Enumerated c (before ++ after)) :
    Enumerated (before.foldl next c) after := by
  induction before generalizing c with
  | nil => exact h
  | cons x before ih => exact ih h.tail

theorem Enumerated.shorter {actions : List SyncAction} (h : Enumerated c actions) (haft : after <+: actions) :
    Enumerated c after := by
  intro before e hx
  refine h before e (hx.imp (fun h => ?_) fun h => h.trans haft)
  obtain ⟨req, h⟩ := h
  exact ⟨req, h.trans haft⟩

/-- The system counter is disturbed exactly by the requests that make, set, change or
destroy it to another value than its own. -/
theorem undisturbed_iff (client : ClientState) (actions : List SyncAction)
    (hord : Enumerated (connected client) actions) :
    Undisturbed (connected client) actions ↔
      ∀ before x, before ++ [x] <+: actions → Spares (lastTick before) x := by
  constructor
  · intro h before x hbef
    have hbef' : HoldsTime (lastTick before) (before.foldl next (connected client)) :=
      h.time before ((prefix_append before [x]).trans hbef)
    have hnext := h.time _ hbef
    rw [foldl_concat, lastTick, foldl_concat] at hnext
    exact (holdsTime_next_iff hbef' x).mp hnext
  · intro hspares
    have htime : ∀ before, before <+: actions → HoldsTime (lastTick before) (before.foldl next (connected client)) := by
      intro before
      induction before using List.reverseRecOn with
      | nil => exact fun _ => ⟨⟨.ofI64 0, true⟩, rfl, rfl⟩
      | append_singleton before x ih =>
        intro hbef
        rw [foldl_concat, lastTick, foldl_concat]
        exact (holdsTime_next_iff (ih ((prefix_append before [x]).trans hbef)) x).mpr (hspares before x hbef)
    refine ⟨htime, fun before after hrun id a threshold hid hawaits hbel hoths => ?_⟩
    have hnow := htime before ((prefix_append before after).trans hrun)
    rw [hnow.counterValue_eq] at hbel
    rw [foldl_append]
    refine eventsOf_awaiting hnow (hord.shorter hrun).drop (fun before' x hx => ?_) hoths hid hawaits hbel
    rw [lastTick, ← foldl_append]
    refine hspares (before ++ before') x (List.IsPrefix.trans ?_ hrun)
    rw [append_assoc]
    exact (prefix_append_right_inj before).mpr hx

end Runs

def firstClient : ClientState := acceptClient 1 false 0 0 [] (initialShared (fun _ => ∅) ∅)

theorem enumerated_nil (c : SyncClient) : Enumerated c [] := by
  intro before e hx
  simp at hx

theorem Enumerated.cons {after : List SyncAction}
    (hx : x = .frameTick e ∨ ∃ req, x = .request e req) (hord : IterationOrder e.alarmOrder c.sync.alarms)
    (h : Enumerated (next c x) after) : Enumerated c (x :: after) := by
  intro before e' hbef
  cases before with
  | nil =>
    suffices heq : e' = e from heq ▸ hord
    cases hx with
    | inl hx =>
      subst hx
      simpa using hbef
    | inr hx =>
      obtain ⟨req, rfl⟩ := hx
      cases hbef with
      | inl h =>
        obtain ⟨req', h⟩ := h
        exact (SyncAction.request.inj (cons_prefix_cons.mp h).1).1
      | inr h => cases (cons_prefix_cons.mp h).1
  | cons y before =>
    have hhead : y = x := by
      cases hbef with
      | inl h => exact (cons_prefix_cons.mp h.choose_spec).1
      | inr h => exact (cons_prefix_cons.mp h).1
    rw [foldl_cons, hhead]
    refine h before e' (hbef.imp (fun h => ?_) fun h => (cons_prefix_cons.mp h).2)
    obtain ⟨req, h⟩ := h
    exact ⟨req, (cons_prefix_cons.mp h).2⟩

theorem iterationOrder_iff {order : List XId} {m : HashMap XId SyncAlarm} :
    IterationOrder order m ↔ order.Nodup ∧ order.toFinset = m.keys := by
  refine and_congr_right fun _ => ?_
  simp only [Finset.ext_iff, mem_toFinset, Finmap.mem_keys]

instance (order : List XId) (m : HashMap XId SyncAlarm) : Decidable (IterationOrder order m) :=
  decidable_of_iff _ iterationOrder_iff.symm

def tickAt (now : UInt32) (order : List XId) : Surroundings := ⟨1, fun _ => now, order⟩

def alarmAtTen : SyncRequest := .createAlarm 9 ⟨some serverTimeCounter, none, some ⟨0, 10⟩, some 0, some ⟨0, 0⟩, some 1⟩

def wakeUp : List SyncAction :=
  [.frameTick (tickAt 5 []), .request (tickAt 6 []) alarmAtTen, .frameTick (tickAt 12 [9])]

theorem wakeUp_undisturbed : Undisturbed (connected firstClient) wakeUp ∧
    (wakeUp.foldl next (connected firstClient)).alarmEvents = [⟨1, 9, ⟨0, 12⟩, ⟨0, 10⟩, 0⟩] := by
  refine ⟨(undisturbed_iff firstClient wakeUp ?_).mpr ?_, by decide +kernel⟩
  · apply Enumerated.cons (.inl rfl)
    · decide +kernel
    apply Enumerated.cons (.inr ⟨_, rfl⟩)
    · decide +kernel
    apply Enumerated.cons (.inl rfl)
    · decide +kernel
    exact enumerated_nil _
  · refine Runs.forall_prefix_cons.mpr ⟨trivial, Runs.forall_prefix_cons.mpr ⟨trivial, ?_⟩⟩
    exact Runs.forall_prefix_cons.mpr ⟨trivial, Runs.forall_prefix_nil⟩

/-- A client may destroy the system counter. -/
theorem destroyCounter_disturbs :
    Enumerated (connected firstClient) [.request (tickAt 5 []) (.destroyCounter serverTimeCounter)] ∧
      ¬ Undisturbed (connected firstClient) [.request (tickAt 5 []) (.destroyCounter serverTimeCounter)] := by
  refine ⟨.cons (.inr ⟨_, rfl⟩) (by decide +kernel) (enumerated_nil _), fun h => ?_⟩
  obtain ⟨counter, hctr, -⟩ := h.time _ prefix_rfl
  have hnone : (handleSyncRequest (tickAt 5 []) (.destroyCounter serverTimeCounter)
      (connected firstClient)).1.sync.counters.lookup serverTimeCounter = none := by decide +kernel
  rw [foldl_cons, foldl_nil, next, hnone] at hctr
  cases hctr

end X11Web.ServerTime
