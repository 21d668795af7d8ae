import X11Web.SyncExtension

namespace X11Web.AlarmRearming

open HashMaps Windows SyncExtension List Option

/-- The test of the alarm, for a counter that goes from one value to the other. -/
def testHolds (oldValue newValue : Int64) (a : SyncAlarm) : Bool :=
  let threshold := a.value.toI64
  let testType := a.testType.toUInt32
  if testType = TestType.positiveTransition then decide (oldValue < threshold) && decide (threshold ≤ newValue)
  else if testType = TestType.negativeTransition then decide (threshold < oldValue) && decide (newValue ≤ threshold)
  else if testType = TestType.positiveComparison then decide (threshold ≤ newValue)
  else if testType = TestType.negativeComparison then decide (newValue ≤ threshold)
  else false

structure Due (counterId : XId) (oldValue newValue : Int64) (a : SyncAlarm) : Prop where
  counter : a.counter = counterId
  active : a.state = AlarmState.active
  test : testHolds oldValue newValue a = true

/-- The next threshold fits 64 bits, and the value does not reach it; or there is none. -/
def Passes (newValue : Int64) (a : SyncAlarm) : Prop :=
  let next := a.value.toI64.toInt + a.delta.toI64.toInt
  a.delta.toI64 = 0 ∨ ((-2 ^ 63 ≤ next ∧ next < 2 ^ 63) ∧
    (a.testType.toUInt32 = TestType.positiveComparison → newValue.toInt < next) ∧
    (a.testType.toUInt32 = TestType.negativeComparison → next < newValue.toInt))

def notice (seq : UInt16) (newValue : Int64) (id : XId) (a : SyncAlarm) : AlarmNotifyEvent :=
  ⟨seq, id, .ofI64 newValue, a.value, a.state⟩

def enable (id : XId) (c : SyncClient) : SyncClient :=
  { c with sync := { c.sync with alarms := modify id (fun a => { a with events := true }) c.sync.alarms } }

/-- One event for each alarm that goes off with its events enabled, no alarm left that
would go off again, no threshold that wrapped, and events that make no other difference. -/
structure Rearms (order : List XId) (counterId : XId) (oldValue newValue : Int64) (seq : UInt16)
    (c : SyncClient) : Prop where
  announced : ∃ sent, (checkAlarms order counterId oldValue newValue seq c).alarmEvents = c.alarmEvents ++ sent ∧
    (sent.map (·.alarm)).Nodup ∧
    ∀ id e, e ∈ sent ∧ e.alarm = id ↔ ∃ a, c.sync.alarms.lookup id = some a ∧
      Due counterId oldValue newValue a ∧ a.events = true ∧ e = notice seq newValue id a
  settled : ∀ id a a', c.sync.alarms.lookup id = some a → Due counterId oldValue newValue a →
    (checkAlarms order counterId oldValue newValue seq c).sync.alarms.lookup id = some a' →
    a'.state = AlarmState.inactive ∨ testHolds newValue newValue a' = false
  unwrapped : ∀ id a a', c.sync.alarms.lookup id = some a →
    (checkAlarms order counterId oldValue newValue seq c).sync.alarms.lookup id = some a' →
    a'.value = a.value ∨ a'.value.toI64.toInt = a.value.toI64.toInt + a.delta.toI64.toInt
  silent : ∀ id a, c.sync.alarms.lookup id = some a → a.events = false →
    (checkAlarms order counterId oldValue newValue seq c).sync.alarms.lookup id =
      ((checkAlarms order counterId oldValue newValue seq (enable id c)).sync.alarms.lookup id).map
        (fun a => { a with events := false })

variable {order : List XId} {counterId id : XId} {oldValue newValue : Int64} {seq : UInt16} {c : SyncClient}
  {a : SyncAlarm}

theorem toI64_ofI64 (val : Int64) : (Int64Pair.ofI64 val).toI64 = val := by
  rw [Int64Pair.toI64, Int64Pair.ofI64]
  apply Int64.toBitVec_inj.mp
  apply BitVec.eq_of_getLsbD_eq
  intro i hi
  have hlow : (val.toBitVec % 4294967296#64).getLsbD i = (decide (i < 32) && val.toBitVec.getLsbD i) := by
    rw [BitVec.getLsbD, BitVec.toNat_umod]
    exact Nat.testBit_mod_two_pow _ 32 i
  simp [hlow, BitVec.getLsbD_signExtend, BitVec.getLsbD_sshiftRight]
  by_cases h : i < 32
  · simp [h]
  · simp [h, hi, show i - 32 < 32 by omega, show i - 32 < 64 by omega, show 32 + (i - 32) = i by omega]

theorem alarmTriggered_iff :
    alarmTriggered counterId oldValue newValue a = true ↔ Due counterId oldValue newValue a ∧ a.events = true := by
  have hspl : alarmTriggered counterId oldValue newValue a =
      (a.counter == counterId && a.state == AlarmState.active && a.events && testHolds oldValue newValue a) := rfl
  rw [hspl]
  constructor
  · intro h
    simp only [Bool.and_eq_true, beq_iff_eq] at h
    exact ⟨⟨h.1.1.1, h.1.1.2, h.2⟩, h.1.2⟩
  · rintro ⟨⟨hctr, hactive, htest⟩, hevs⟩
    simp [hctr, hactive, htest, hevs]

def goOff (seq : UInt16) (newValue : Int64) (c : SyncClient) (id : XId) : SyncClient :=
  match c.sync.alarms.lookup id with
  | none => c
  | some alarm =>
    { c with
      alarmEvents := c.alarmEvents ++ [notice seq newValue id alarm]
      sync := { c.sync with alarms := modify id rearm c.sync.alarms } }

theorem goOff_alarms (c : SyncClient) (id : XId) :
    (goOff seq newValue c id).sync.alarms = modify id rearm c.sync.alarms := by
  rw [goOff]
  split
  · next hnone => exact (modify_of_lookup_none hnone _).symm
  · rfl

theorem goOff_events (c : SyncClient) (id : XId) : (goOff seq newValue c id).alarmEvents =
    c.alarmEvents ++ ((c.sync.alarms.lookup id).map (notice seq newValue id)).toList := by
  rw [goOff]
  split
  · next hnone => simp [hnone]
  · next alarm hsome => simp [hsome]

theorem lookup_foldl_goOff (ids : List XId) (hnd : ids.Nodup) (c : SyncClient) (id : XId) :
    (ids.foldl (goOff seq newValue) c).sync.alarms.lookup id =
      if id ∈ ids then (c.sync.alarms.lookup id).map rearm else c.sync.alarms.lookup id := by
  induction ids generalizing c with
  | nil => simp
  | cons k ids ih =>
    obtain ⟨hk, hnd⟩ := nodup_cons.mp hnd
    rw [foldl_cons, ih hnd, goOff_alarms, lookup_modify]
    by_cases hid : id = k
    · subst hid
      simp [hk]
    · simp [hid]

theorem foldl_goOff_events (ids : List XId) (hnd : ids.Nodup) (c : SyncClient) :
    (ids.foldl (goOff seq newValue) c).alarmEvents = c.alarmEvents ++
      ids.flatMap (fun id => ((c.sync.alarms.lookup id).map (notice seq newValue id)).toList) := by
  induction ids generalizing c with
  | nil => simp
  | cons k ids ih =>
    obtain ⟨hk, hnd⟩ := nodup_cons.mp hnd
    have hsame : ∀ id ∈ ids, ((goOff seq newValue c k).sync.alarms.lookup id) = c.sync.alarms.lookup id := by
      intro id hid
      rw [goOff_alarms, lookup_modify_of_ne]
      rintro rfl
      exact hk hid
    rw [foldl_cons, ih hnd, goOff_events, flatMap_cons, append_assoc,
      flatMap_congr fun id hid => by rw [hsame id hid]]

def announcing (order : List XId) (counterId : XId) (oldValue newValue : Int64) (c : SyncClient) : List XId :=
  order.filter (fun id => (c.sync.alarms.lookup id).any (alarmTriggered counterId oldValue newValue))

theorem checkAlarms_eq (order : List XId) (c : SyncClient) :
    checkAlarms order counterId oldValue newValue seq c =
      (announcing order counterId oldValue newValue c).foldl (goOff seq newValue) c := rfl

theorem mem_announcing (hord : IterationOrder order c.sync.alarms) (hid : c.sync.alarms.lookup id = some a) :
    id ∈ announcing order counterId oldValue newValue c ↔
      Due counterId oldValue newValue a ∧ a.events = true := by
  have hmem : id ∈ order := (hord.2 id).mpr (Finmap.mem_iff.mpr ⟨a, hid⟩)
  rw [announcing, mem_filter, hid, any_some, alarmTriggered_iff]
  exact and_iff_right hmem

theorem lookup_checkAlarms (hord : IterationOrder order c.sync.alarms) (hid : c.sync.alarms.lookup id = some a) :
    (checkAlarms order counterId oldValue newValue seq c).sync.alarms.lookup id =
      some (if id ∈ announcing order counterId oldValue newValue c then rearm a else a) := by
  have hnd : (announcing order counterId oldValue newValue c).Nodup := hord.1.filter _
  rw [checkAlarms_eq, lookup_foldl_goOff _ hnd, hid]
  split <;> rfl

theorem checkAlarms_announced (hord : IterationOrder order c.sync.alarms) :
    ∃ sent, (checkAlarms order counterId oldValue newValue seq c).alarmEvents = c.alarmEvents ++ sent ∧
      (sent.map (·.alarm)).Nodup ∧
      ∀ id e, e ∈ sent ∧ e.alarm = id ↔ ∃ a, c.sync.alarms.lookup id = some a ∧
        Due counterId oldValue newValue a ∧ a.events = true ∧ e = notice seq newValue id a := by
  set ids := announcing order counterId oldValue newValue c with hids
  have hnd : ids.Nodup := hord.1.filter _
  have hpresent : ∀ id ∈ ids, ∃ a, c.sync.alarms.lookup id = some a := by
    intro id hid
    exact Finmap.mem_iff.mp ((hord.2 id).mp (mem_filter.mp hid).1)
  refine ⟨_, foldl_goOff_events ids hnd c, ?_, fun id e => ?_⟩
  · have hnms : ∀ id ∈ ids,
        (((c.sync.alarms.lookup id).map (notice seq newValue id)).toList).map (·.alarm) = [id] := by
      intro id hid
      obtain ⟨a, ha⟩ := hpresent id hid
      rw [ha]
      rfl
    rw [map_flatMap, flatMap_congr hnms, flatMap_singleton']
    exact hnd
  · simp only [mem_flatMap, mem_toList, map_eq_some_iff]
    constructor
    · rintro ⟨⟨k, hk, a, ha, rfl⟩, rfl⟩
      obtain ⟨hdue, hevs⟩ := (mem_announcing hord ha).mp hk
      exact ⟨a, ha, hdue, hevs, rfl⟩
    · rintro ⟨a, ha, hdue, hevs, rfl⟩
      exact ⟨⟨id, (mem_announcing hord ha).mpr ⟨hdue, hevs⟩, a, ha, rfl⟩, rfl⟩

theorem testHolds_same (a : SyncAlarm) : testHolds newValue newValue a = true ↔
    (a.testType.toUInt32 = TestType.positiveComparison ∧ a.value.toI64 ≤ newValue) ∨
      (a.testType.toUInt32 = TestType.negativeComparison ∧ newValue ≤ a.value.toI64) := by
  rw [testHolds]
  split
  · next h => simp [h, TestType.positiveTransition, TestType.positiveComparison, TestType.negativeComparison]
  · split
    · next h => simp [h, TestType.negativeTransition, TestType.positiveComparison, TestType.negativeComparison]
    · split
      · next h => simp [h, TestType.positiveComparison, TestType.negativeComparison]
      · split
        · next h => simp [h, TestType.positiveComparison, TestType.negativeComparison]
        · next h₁ h₂ => simp [h₁, h₂]

theorem rearm_ne (hactive : a.state = AlarmState.active) : rearm a ≠ a := by
  intro hsame
  rw [rearm] at hsame
  split at hsame
  · next hdelta =>
    have hval := congrArg (fun a => a.value.toI64) hsame
    simp only [toI64_ofI64] at hval
    exact hdelta (Int64.add_eq_left.mp hval)
  · have hst := congrArg SyncAlarm.state hsame
    rw [hactive] at hst
    cases hst

theorem toInt_add_iff (v w : Int64) :
    (v + w).toInt = v.toInt + w.toInt ↔ -2 ^ 63 ≤ v.toInt + w.toInt ∧ v.toInt + w.toInt < 2 ^ 63 := by
  rw [Int64.toInt_add]
  constructor
  · intro h
    have hlow := Int64.le_toInt (v + w)
    have hhigh := Int64.toInt_lt (v + w)
    rw [Int64.toInt_add, h] at hlow hhigh
    exact ⟨hlow, hhigh⟩
  · rintro ⟨hlow, hhigh⟩
    exact Int.bmod_eq_of_le (by omega) (by omega)

theorem passes_iff (hactive : a.state = AlarmState.active) : Passes newValue a ↔
    ((rearm a).state = AlarmState.inactive ∨ testHolds newValue newValue (rearm a) = false) ∧
      ((rearm a).value = a.value ∨ (rearm a).value.toI64.toInt = a.value.toI64.toInt + a.delta.toI64.toInt) := by
  by_cases hdelta : a.delta.toI64 = 0
  · have hoff : rearm a = { a with state := AlarmState.inactive } := by
      rw [rearm]
      exact if_neg (not_not.mpr hdelta)
    exact iff_of_true (.inl hdelta) ⟨.inl (by rw [hoff]), .inl (by rw [hoff])⟩
  · have hnext : rearm a = { a with value := .ofI64 (a.value.toI64 + a.delta.toI64) } := by
      rw [rearm]
      exact if_pos hdelta
    have hval : (rearm a).value ≠ a.value := by
      intro hsame
      have hsum := congrArg Int64Pair.toI64 hsame
      rw [hnext, toI64_ofI64] at hsum
      exact hdelta (Int64.add_eq_left.mp hsum)
    have hst : (rearm a).state ≠ AlarmState.inactive := by
      rw [hnext]
      dsimp only
      rw [hactive]
      decide
    have hsum : (rearm a).value.toI64 = a.value.toI64 + a.delta.toI64 := by rw [hnext, toI64_ofI64]
    have htype : (rearm a).testType = a.testType := by rw [hnext]
    rw [Passes, or_iff_right hdelta, or_iff_right hst, or_iff_right hval, hsum, toInt_add_iff, and_comm]
    refine and_congr_left fun hfits => ?_
    have hexact := (toInt_add_iff _ _).mpr hfits
    rw [← Bool.not_eq_true, testHolds_same, htype, hsum, Int64.le_iff_toInt_le, Int64.le_iff_toInt_le, hexact, not_or,
      not_and, not_and, not_le, not_le]

theorem lookup_checkAlarms_silent (hord : IterationOrder order c.sync.alarms)
    (hid : c.sync.alarms.lookup id = some a) (hsil : ¬(Due counterId oldValue newValue a ∧ a.events = true)) :
    (checkAlarms order counterId oldValue newValue seq c).sync.alarms.lookup id = some a := by
  rw [lookup_checkAlarms hord hid, if_neg (fun hmem => hsil ((mem_announcing hord hid).mp hmem))]

theorem lookup_checkAlarms_due (hord : IterationOrder order c.sync.alarms)
    (hid : c.sync.alarms.lookup id = some a) (hdue : Due counterId oldValue newValue a) (hevs : a.events = true) :
    (checkAlarms order counterId oldValue newValue seq c).sync.alarms.lookup id = some (rearm a) := by
  rw [lookup_checkAlarms hord hid, if_pos ((mem_announcing hord hid).mpr ⟨hdue, hevs⟩)]

theorem enable_order (hord : IterationOrder order c.sync.alarms) :
    IterationOrder order (enable id c).sync.alarms :=
  ⟨hord.1, fun k => (hord.2 k).trans (mem_modify id k _ _).symm⟩

theorem lookup_enable (hid : c.sync.alarms.lookup id = some a) :
    (enable id c).sync.alarms.lookup id = some { a with events := true } := by
  rw [enable, lookup_modify_self, hid]
  rfl

theorem due_enabled_iff :
    Due counterId oldValue newValue { a with events := true } ↔ Due counterId oldValue newValue a :=
  ⟨fun h => ⟨h.counter, h.active, h.test⟩, fun h => ⟨h.counter, h.active, h.test⟩⟩

theorem rearm_enabled (hevs : a.events = false) :
    ({ rearm { a with events := true } with events := false } : SyncAlarm) = rearm a := by
  rw [rearm, rearm]
  split
  · rw [← hevs]
  · rw [← hevs]

theorem silent_iff (hord : IterationOrder order c.sync.alarms) (hid : c.sync.alarms.lookup id = some a)
    (hevs : a.events = false) :
    (checkAlarms order counterId oldValue newValue seq c).sync.alarms.lookup id =
        ((checkAlarms order counterId oldValue newValue seq (enable id c)).sync.alarms.lookup id).map
          (fun a => { a with events := false }) ↔ ¬ Due counterId oldValue newValue a := by
  rw [lookup_checkAlarms_silent hord hid (by simp [hevs])]
  by_cases hdue : Due counterId oldValue newValue a
  · rw [lookup_checkAlarms_due (enable_order hord) (lookup_enable hid) (due_enabled_iff.mpr hdue) rfl,
      map_some, rearm_enabled hevs, some.injEq]
    exact iff_of_false (rearm_ne hdue.active).symm (not_not.mpr hdue)
  · rw [lookup_checkAlarms_silent (enable_order hord) (lookup_enable hid)
      (fun h => hdue (due_enabled_iff.mp h.1)), map_some, ← hevs]
    exact iff_of_true rfl hdue

/-- The alarms are checked as they should be exactly where none goes off with its events
disabled, and each that goes off has a next threshold beyond the value or none. -/
theorem checkAlarms_rearms_iff (hord : IterationOrder order c.sync.alarms) :
    Rearms order counterId oldValue newValue seq c ↔ ∀ id a, c.sync.alarms.lookup id = some a →
      Due counterId oldValue newValue a → a.events = true ∧ Passes newValue a := by
  constructor
  · intro h id a hid hdue
    have hevs : a.events = true := by
      by_contra hne
      have hdisabled := Bool.eq_false_of_not_eq_true hne
      exact (silent_iff hord hid hdisabled).mp (h.silent id a hid hdisabled) hdue
    have haft : (checkAlarms order counterId oldValue newValue seq c).sync.alarms.lookup id = some (rearm a) :=
      lookup_checkAlarms_due hord hid hdue hevs
    exact ⟨hevs, (passes_iff hdue.active).mpr
      ⟨h.settled id a _ hid hdue haft, h.unwrapped id a _ hid haft⟩⟩
  · intro h
    refine ⟨checkAlarms_announced hord, fun id a a' hid hdue haft => ?_, fun id a a' hid haft => ?_,
      fun id a hid hevs => ?_⟩
    · obtain ⟨hevs, hpasses⟩ := h id a hid hdue
      rw [lookup_checkAlarms_due hord hid hdue hevs] at haft
      rw [← some.inj haft]
      exact ((passes_iff hdue.active).mp hpasses).1
    · by_cases hdue : Due counterId oldValue newValue a
      · obtain ⟨hevs, hpasses⟩ := h id a hid hdue
        rw [lookup_checkAlarms_due hord hid hdue hevs] at haft
        rw [← some.inj haft]
        exact ((passes_iff hdue.active).mp hpasses).2
      · rw [lookup_checkAlarms_silent hord hid (fun hboth => hdue hboth.1)] at haft
        rw [← some.inj haft]
        exact .inl rfl
    · refine (silent_iff hord hid hevs).mpr fun hdue => ?_
      rw [(h id a hid hdue).1] at hevs
      cases hevs

/-- A connection with one alarm, that is to go off at 5 or more of counter 7. -/
def awaitingFive (delta : UInt32) : SyncClient where
  client := acceptClient 1 false 0 0 [] (initialShared (fun _ => ∅) ∅)
  sync := { alarms := (∅ : HashMap XId SyncAlarm).insert 9 ⟨7, 0, ⟨0, 5⟩, 2, ⟨0, delta⟩, true, 0⟩ }
  alarmEvents := []
  closedFds := []

theorem awaitingFive_order (delta : UInt32) : IterationOrder [9] (awaitingFive delta).sync.alarms := by
  refine ⟨nodup_singleton 9, fun k => ?_⟩
  rw [mem_singleton, awaitingFive, Finmap.mem_insert]
  exact (or_iff_left Finmap.notMem_empty).symm

theorem checkAlarms_rearms_ten : Rearms [9] 7 0 10 1 (awaitingFive 10) := by
  refine (checkAlarms_rearms_iff (awaitingFive_order 10)).mpr fun id a hid _ => ?_
  have halarm : id = 9 ∧ a = ⟨7, 0, ⟨0, 5⟩, 2, ⟨0, 10⟩, true, 0⟩ := by
    rw [awaitingFive, lookup_insert_eq] at hid
    split at hid
    · next hnine => exact ⟨hnine, (some.inj hid).symm⟩
    · cases hid
  obtain ⟨rfl, rfl⟩ := halarm
  exact ⟨rfl, .inr (by decide)⟩

/-- With the delta that an alarm has by default, it goes off again at a value that stays. -/
theorem one_step_leaves_test : ¬ Rearms [9] 7 0 10 1 (awaitingFive 1) := by
  intro h
  have hdue : Due 7 0 10 ⟨7, 0, ⟨0, 5⟩, 2, ⟨0, 1⟩, true, 0⟩ := ⟨rfl, rfl, by decide⟩
  rcases h.settled 9 _ ⟨7, 0, ⟨0, 6⟩, 2, ⟨0, 1⟩, true, 0⟩ (by decide +kernel) hdue (by decide +kernel) with hoff | hover
  · cases hoff
  · revert hover
    decide

end X11Web.AlarmRearming
