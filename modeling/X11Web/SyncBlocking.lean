import X11Web.SyncExtension

namespace X11Web.SyncBlocking

open Windows SyncWindows Runs SyncExtension List

variable {s s' : SyncState} {c c' : SyncClient}

inductive SyncAction
  | request (e : Surroundings) (req : SyncRequest)
  | presentPixmap (waitFence idleFence : XId)
  | frameTick (e : Surroundings)

/-- A step of the connection. Requests run only while it is not blocked. -/
inductive syncStep : SyncClient → SyncAction → SyncClient → Prop
  | request {c : SyncClient} (e : Surroundings) (req : SyncRequest)
      (hord : Enumerates e.alarmOrder c.sync.alarms) (hfree : c.sync.blocked = false) :
      syncStep c (.request e req) (handleSyncRequest e req c).1
  | presentPixmap {c : SyncClient} (waitFence idleFence : XId) :
      syncStep c (.presentPixmap waitFence idleFence)
        (updateSync (presentFences waitFence idleFence) c)
  | frameTick {c : SyncClient} (e : Surroundings)
      (hord : Enumerates e.alarmOrder c.sync.alarms) :
      syncStep c (.frameTick e) (frameTick e c)

/-- The connection is blocked exactly while something is pending. -/
def BlockedForReason (s : SyncState) : Prop :=
  s.blocked = true ↔ s.pendingAwaits ≠ [] ∨ s.pendingFenceAwaits ≠ []

/-- Nothing that is pending could go on: no trigger of an await is satisfied at
the given server time, and no fence of a fence await is triggered. -/
structure Settled (timestamp : UInt32) (s : SyncState) : Prop where
  awaits : ∀ pa ∈ s.pendingAwaits, ∀ t ∈ pa.triggers,
    isTriggerSatisfied t (currentValue s timestamp t.counterId) = false
  fenceAwaits : ∀ pfa ∈ s.pendingFenceAwaits, ∀ fid ∈ pfa.fenceIds, fenceTriggered s fid = false

/-- The flag and the two lists, which is all that blocking is about. -/
structure SameWaits (s s' : SyncState) : Prop where
  awaits : s'.pendingAwaits = s.pendingAwaits
  fenceAwaits : s'.pendingFenceAwaits = s.pendingFenceAwaits
  blocked : s'.blocked = s.blocked

theorem BlockedForReason.of_same (h : BlockedForReason s) (hsame : SameWaits s s') :
    BlockedForReason s' := by
  rw [BlockedForReason, hsame.awaits, hsame.fenceAwaits, hsame.blocked]
  exact h

theorem BlockedForReason.free (h : BlockedForReason s) (hfree : s.blocked = false) :
    s.pendingAwaits = [] ∧ s.pendingFenceAwaits = [] := by
  have hnone : ¬(s.pendingAwaits ≠ [] ∨ s.pendingFenceAwaits ≠ []) := by
    intro hsome
    simpa [hfree] using h.mpr hsome
  simpa using hnone

theorem BlockedForReason.of_free (hfree : s.blocked = false) (ha : s.pendingAwaits = [])
    (hf : s.pendingFenceAwaits = []) : BlockedForReason s := by
  simp [BlockedForReason, hfree, ha, hf]

variable (order : List XId)

theorem SameWaits.checkAlarms (counterId : XId) (oldValue newValue : Int64)
    (seq : UInt16) (h : SameWaits s c.sync) :
    SameWaits s (checkAlarms order counterId oldValue newValue seq c).sync := by
  rw [SyncExtension.checkAlarms]
  generalize order.filter _ = ids
  induction ids generalizing c with
  | nil => exact h
  | cons id ids ih =>
    rw [foldl_cons]
    apply ih
    cases c.sync.alarms.lookup id with
    | none => exact h
    | some alarm => exact ⟨h.awaits, h.fenceAwaits, h.blocked⟩

theorem advanceServerTime_same (serverTime : UInt32) (seq : UInt16)
    (c : SyncClient) : SameWaits c.sync (advanceServerTime order serverTime seq c).sync := by
  rw [advanceServerTime]
  cases c.sync.counters.lookup serverTimeCounter with
  | none => exact ⟨rfl, rfl, rfl⟩
  | some counter =>
    dsimp only
    split
    · exact SameWaits.checkAlarms _ _ _ _ _ ⟨rfl, rfl, rfl⟩
    · exact ⟨rfl, rfl, rfl⟩

theorem presentFences_same (waitFence idleFence : XId) (s : SyncState) :
    SameWaits s (presentFences waitFence idleFence s) := by
  rw [presentFences]
  by_cases hw : waitFence ≠ 0
  · rw [if_pos hw]
    split <;> exact ⟨rfl, rfl, rfl⟩
  · rw [if_neg hw]
    split <;> exact ⟨rfl, rfl, rfl⟩

variable (timestamp : UInt32)

theorem checkPendingAwaits_awaits (s : SyncState) : (checkPendingAwaits timestamp s).pendingAwaits =
      s.pendingAwaits.filter (fun pa => !anySatisfied s timestamp pa) := by
  rw [checkPendingAwaits]
  split
  · rename_i hnone
    simp [hnone]
  · rfl

theorem checkPendingAwaits_fields (s : SyncState) :
    (checkPendingAwaits timestamp s).pendingFenceAwaits = s.pendingFenceAwaits ∧
      (checkPendingAwaits timestamp s).counters = s.counters ∧
      (checkPendingAwaits timestamp s).fences = s.fences := by
  rw [checkPendingAwaits]
  split <;> exact ⟨rfl, rfl, rfl⟩

theorem checkPendingFenceAwaits_fenceAwaits (s : SyncState) :
    (checkPendingFenceAwaits s).pendingFenceAwaits =
      s.pendingFenceAwaits.filter (fun pfa => !anyTriggered s pfa) := by
  rw [checkPendingFenceAwaits]
  split
  · rename_i hnone
    simp [hnone]
  · rfl

theorem checkPendingFenceAwaits_fields (s : SyncState) :
    (checkPendingFenceAwaits s).pendingAwaits = s.pendingAwaits ∧
      (checkPendingFenceAwaits s).counters = s.counters ∧
      (checkPendingFenceAwaits s).fences = s.fences := by
  rw [checkPendingFenceAwaits]
  split <;> exact ⟨rfl, rfl, rfl⟩

theorem any_of_filter_eq_nil {α : Type} {p : α → Bool} {l : List α} (hl : l ≠ [])
    (h : l.filter (fun a => !p a) = []) : l.any p = true := by
  obtain ⟨a, ha⟩ := exists_mem_of_ne_nil l hl
  have hp : p a = true := by simpa using filter_eq_nil_iff.mp h a ha
  exact any_eq_true.mpr ⟨a, ha, hp⟩

theorem checkPendingAwaits_blockedForReason (h : BlockedForReason s) :
    BlockedForReason (checkPendingAwaits timestamp s) := by
  rw [checkPendingAwaits]
  split
  · exact h
  · rename_i hsome
    have hblk : s.blocked = true := h.mpr (.inl hsome)
    by_cases hemp : s.pendingAwaits.filter (fun pa => !anySatisfied s timestamp pa) = []
    · by_cases hfence : s.pendingFenceAwaits = []
      · simp [BlockedForReason, hemp, hfence, any_of_filter_eq_nil hsome hemp]
      · simp [BlockedForReason, hemp, hfence, hblk]
    · simp only [BlockedForReason, hemp, false_and, and_false, if_false, hblk, true_iff]
      exact .inl hemp

theorem checkPendingFenceAwaits_blockedForReason (h : BlockedForReason s) :
    BlockedForReason (checkPendingFenceAwaits s) := by
  rw [checkPendingFenceAwaits]
  split
  · exact h
  · rename_i hsome
    have hblk : s.blocked = true := h.mpr (.inr hsome)
    by_cases hemp : s.pendingFenceAwaits.filter (fun pfa => !anyTriggered s pfa) = []
    · by_cases hawaits : s.pendingAwaits = []
      · simp [BlockedForReason, hemp, hawaits, any_of_filter_eq_nil hsome hemp]
      · simp [BlockedForReason, hemp, hawaits, hblk]
    · simp only [BlockedForReason, hemp, false_and, and_false, if_false, hblk, true_iff]
      exact .inr hemp

theorem storeCounter_blockedForReason (timestamp : UInt32) (seq : UInt16)
    (counterId : XId) (oldValue newValue : Int64) (value : Int64Pair) (h : BlockedForReason c.sync) :
    BlockedForReason
      (storeCounter order timestamp seq counterId oldValue newValue value c).sync := by
  rw [storeCounter]
  apply checkPendingAwaits_blockedForReason
  exact h.of_same (SameWaits.checkAlarms _ _ _ _ _ ⟨rfl, rfl, rfl⟩)

theorem destroyCounter_blockedForReason (counterId : XId) (h : BlockedForReason c.sync)
    (hfree : c.sync.blocked = false) : BlockedForReason (destroyCounter counterId c).sync := by
  obtain ⟨ha, hf⟩ := h.free hfree
  apply BlockedForReason.of_free <;> simp [destroyCounter, ha, hf, hfree]

theorem destroyFence_blockedForReason (fenceId : XId) (h : BlockedForReason c.sync)
    (hfree : c.sync.blocked = false) : BlockedForReason (destroyFence fenceId c).sync := by
  obtain ⟨ha, hf⟩ := h.free hfree
  apply BlockedForReason.of_free <;> simp [destroyFence, ha, hf, hfree]

theorem awaitOp_blockedForReason (clock : Nat → UInt32) (seq : UInt16)
    (waitList : List Waitcondition) (h : BlockedForReason s) :
    BlockedForReason (awaitOp clock seq waitList s) := by
  rw [awaitOp]
  split
  · exact h
  · simp [BlockedForReason]

theorem awaitFence_blockedForReason (seq : UInt16) (fenceList : List XId) (h : BlockedForReason s) :
    BlockedForReason (awaitFence seq fenceList s) := by
  rw [awaitFence]
  split
  · exact h
  · simp [BlockedForReason]

theorem resetFence_same (fenceId : XId) (s : SyncState) : SameWaits s (resetFence fenceId s).1 := by
  rw [resetFence]
  cases s.fences.lookup fenceId with
  | none => exact ⟨rfl, rfl, rfl⟩
  | some fence =>
    dsimp only
    split <;> exact ⟨rfl, rfl, rfl⟩

variable (e : Surroundings)

theorem handleSyncRequest_blockedForReason (req : SyncRequest)
    (h : BlockedForReason c.sync) (hfree : c.sync.blocked = false) :
    BlockedForReason (handleSyncRequest e req c).1.sync := by
  cases req with
  | initializeSync => exact h
  | listSystemCounters => exact h
  | createCounter id value => exact h.of_same ⟨rfl, rfl, rfl⟩
  | setCounter counter value => exact storeCounter_blockedForReason _ _ _ _ _ _ _ h
  | changeCounter counter amount => exact storeCounter_blockedForReason _ _ _ _ _ _ _ h
  | queryCounter counter => exact h
  | destroyCounter counter => exact destroyCounter_blockedForReason counter h hfree
  | await waitList => exact awaitOp_blockedForReason _ _ _ h
  | createAlarm id vl => exact h.of_same ⟨rfl, rfl, rfl⟩
  | changeAlarm id vl => exact h.of_same ⟨rfl, rfl, rfl⟩
  | queryAlarm alarm => exact h
  | destroyAlarm alarm => exact h.of_same ⟨rfl, rfl, rfl⟩
  | setPriority id priority => exact h.of_same ⟨rfl, rfl, rfl⟩
  | getPriority id => exact h
  | createFence fence triggered => exact h.of_same ⟨rfl, rfl, rfl⟩
  | triggerFence fence =>
    apply checkPendingFenceAwaits_blockedForReason
    exact h.of_same ⟨rfl, rfl, rfl⟩
  | resetFence fence => exact h.of_same (resetFence_same fence c.sync)
  | destroyFence fence => exact destroyFence_blockedForReason fence h hfree
  | queryFence fence => exact h
  | awaitFence fenceList => exact awaitFence_blockedForReason _ _ h
  | unhandled minor => exact h

theorem frameTick_blockedForReason (h : BlockedForReason c.sync) : BlockedForReason (frameTick e c).sync := by
  have hadvd := h.of_same (advanceServerTime_same e.alarmOrder (e.clock 0) e.seq c)
  rw [frameTick]
  split
  · exact checkPendingFenceAwaits_blockedForReason (checkPendingAwaits_blockedForReason _ hadvd)
  · exact hadvd

/-- The two checks leave nothing that could go on: each keeps what its own test
rejects, and neither changes a counter or a fence. -/
theorem checks_settled (s : SyncState) :
    Settled timestamp (checkPendingFenceAwaits (checkPendingAwaits timestamp s)) := by
  obtain ⟨hf₁, hc₁, ht₁⟩ := checkPendingAwaits_fields timestamp s
  obtain ⟨ha₂, hc₂, ht₂⟩ := checkPendingFenceAwaits_fields (checkPendingAwaits timestamp s)
  constructor
  · intro pa hpa t ht
    rw [ha₂, checkPendingAwaits_awaits, mem_filter, Bool.not_eq_true', anySatisfied,
      any_eq_false] at hpa
    have hunsatisfied := hpa.2 t ht
    rw [currentValue, hc₂, hc₁, ← currentValue]
    simpa using hunsatisfied
  · intro pfa hpfa fid hfid
    rw [checkPendingFenceAwaits_fenceAwaits, mem_filter, Bool.not_eq_true', anyTriggered,
      any_eq_false] at hpfa
    have huntriggered := hpfa.2 fid hfid
    rw [fenceTriggered, ht₂, ← fenceTriggered]
    simpa using huntriggered

theorem frameTick_settled (h : BlockedForReason c.sync) : Settled (e.clock 1) (frameTick e c).sync := by
  have hadvd := h.of_same (advanceServerTime_same e.alarmOrder (e.clock 0) e.seq c)
  rw [frameTick]
  split
  · exact checks_settled _ _
  · rename_i hfree
    obtain ⟨ha, hf⟩ := hadvd.free (by simpa using hfree)
    constructor
    · simp [ha]
    · simp [hf]

theorem syncStep_blockedForReason (c : SyncClient) (a : SyncAction) (c' : SyncClient)
    (h : BlockedForReason c.sync) (hstep : syncStep c a c') : BlockedForReason c'.sync := by
  cases hstep with
  | request e req hord hfree => exact handleSyncRequest_blockedForReason e req h hfree
  | presentPixmap waitFence idleFence =>
    exact h.of_same (presentFences_same waitFence idleFence c.sync)
  | frameTick e hord => exact frameTick_blockedForReason e h

theorem new_blockedForReason : BlockedForReason SyncState.new := by
  simp [BlockedForReason, SyncState.new]

/-- Along every run from a fresh state, and after every frame tick in it. -/
theorem run_blockedForReason {actions : List SyncAction} (hst : c.sync = SyncState.new)
    (hrun : Run syncStep c actions c') :
    BlockedForReason c'.sync ∧
      ∀ e c'', syncStep c' (.frameTick e) c'' → Settled (e.clock 1) c''.sync := by
  have hrchd : BlockedForReason c'.sync :=
    hrun.invariant (I := fun c => BlockedForReason c.sync) syncStep_blockedForReason
      (hst ▸ new_blockedForReason)
  refine ⟨hrchd, fun e c'' htick => ?_⟩
  cases htick with
  | frameTick e hord => exact frameTick_settled e hrchd

def connected : SyncClient where
  client := acceptClient 1 false 0 0 [] (initialShared (fun _ => ∅) ∅)
  sync := SyncState.new
  alarmEvents := []
  closedFds := []

def awaitServerTime : SyncRequest := .await [⟨serverTimeCounter, 0, ⟨0, 50⟩, 2, ⟨0, 0⟩⟩]

def atTime (now : UInt32) : Surroundings := ⟨1, fun _ => now, []⟩

def waiting : SyncClient := (handleSyncRequest (atTime 10) awaitServerTime connected).1

theorem run_blockedForReason_await :
    waiting.sync.blocked = true ∧ waiting.sync.pendingAwaits ≠ [] ∧
      (frameTick (atTime 40) waiting).sync.blocked = true ∧
      (frameTick (atTime 60) waiting).sync.blocked = false ∧
      BlockedForReason waiting.sync ∧ Settled 40 (frameTick (atTime 40) waiting).sync := by
  have hrun : Run syncStep connected [.request (atTime 10) awaitServerTime] waiting :=
    .single (.request _ _ (by decide +kernel) (by decide))
  obtain ⟨hreason, htick⟩ := run_blockedForReason rfl hrun
  refine ⟨by decide +kernel, by decide +kernel, by decide +kernel, by decide +kernel, hreason, ?_⟩
  exact htick (atTime 40) _ (.frameTick (atTime 40) (by decide +kernel))

end X11Web.SyncBlocking
