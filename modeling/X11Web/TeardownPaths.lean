import X11Web.TeardownFrame

namespace X11Web.TeardownPaths

open HashMaps Windows SyncWindows Links Teardown List Option Finmap
open TeardownFrame

/-- The orders in which the guard meets the shared window index and the shared
windows. -/
structure GuardOrder where
  windowIndex : List XId
  windows : List XId

structure GuardOrder.Fits (order : GuardOrder) (sh : Shared) : Prop where
  windowIndex : Enumerates order.windowIndex sh.windowIndex
  windows : Enumerates order.windows sh.windows

/-- The entries of the index that the client has put there. -/
def indexedBy (me : ClientId) (order : List XId) (index : HashMap XId WindowEntry) : List XId :=
  order.filter (fun w => (index.lookup w).any (fun e => e.clientId == me))

def ownedBy (me : ClientId) (order : List XId) (m : WindowMap) : List XId :=
  order.filter (fun w => (m.lookup w).any (fun win => win.ownerClientId == some me))

/-- What is left of a connection whose task ends in an I/O error: the guard
sweeps the registries it knows. -/
def guardDrop (order : GuardOrder) (s : ClientState) : Shared :=
  let sh := unsubscribeClient s.clientId s.shared
  if s.closeDownMode ≠ 0 then sh
  else
    let mine := indexedBy s.clientId order.windowIndex sh.windowIndex
    { sh with
      updates := sh.updates ++ (mine.filterMap (fun w => (sh.windowIndex.lookup w).map (·.uuid))).map
        (fun uuid => (s.clientId, .windowDestroyed uuid))
      windowIndex := eraseAll mine sh.windowIndex
      windows := removeWindows (ownedBy s.clientId order.windows sh.windows) sh.windows }

def sentSince (sh sh' : Shared) : List (ClientId × DisplayUpdate) := sh'.updates.drop sh.updates.length

/-- Two ways from `sh` to the same server-wide state. -/
structure SameServer (sh sh₁ sh₂ : Shared) : Prop where
  windows : sh₁.windows = sh₂.windows
  selections : sh₁.selections = sh₂.selections
  serverGrab : sh₁.serverGrab = sh₂.serverGrab
  eventRoutes : sh₁.eventRoutes = sh₂.eventRoutes
  windowRoutes : sh₁.windowRoutes = sh₂.windowRoutes
  recordContexts : sh₁.recordContexts = sh₂.recordContexts
  subscriptions : sh₁.subscriptions = sh₂.subscriptions
  allClients : sh₁.allClients = sh₂.allClients
  destroyed : ∀ m, m ∈ sentSince sh sh₁ ↔ m ∈ sentSince sh sh₂

/-- The client has nothing in the registries that the guard does not sweep, and
its UUID table is what the registries have under its name. -/
structure Unentangled (timestamp : Nat) (s : ClientState) : Prop where
  noGrab : ¬ (s.serverGrabCount > 0 ∧ s.shared.serverGrab = some s.clientId)
  noSelection : ∀ a e, s.shared.selections.lookup a = some e → e.window ∈ s.x11ToUuid →
    a = Predef.clipboard ∧ s.shared.clipboardPersistent = true ∧ e = managerEntry timestamp
  noEventRoute : ∀ w ∈ s.x11ToUuid, s.shared.eventRoutes.lookup w = none
  noWindowRoute : ∀ w uuid, s.x11ToUuid.lookup w = some uuid →
    s.shared.windowRoutes.lookup uuid = none
  noRecord : ∀ id e, s.shared.recordContexts.lookup id = some e → e.recordingClient ≠ s.clientId
  owned : ∀ w win, s.shared.windows.lookup w = some win →
    (w ∈ s.x11ToUuid ↔ win.ownerClientId = some s.clientId)
  indexed : ∀ uuid, (∃ w, s.x11ToUuid.lookup w = some uuid) ↔
    ∃ w e, s.shared.windowIndex.lookup w = some e ∧ e.clientId = s.clientId ∧ e.uuid = uuid

variable {order : IterationOrder} {guardOrder : GuardOrder} {timestamp : Nat} {s : ClientState}
variable {mine : List XId}

theorem retain_eq_self_iff {K V : Type} [DecidableEq K] (p : K → V → Bool) (m : HashMap K V) :
    retain p m = m ↔ ∀ k v, m.lookup k = some v → p k v = true := by
  refine ⟨fun h k v hv => ?_, fun h => ?_⟩
  · have hretd := lookup_retain p m k
    rw [h, hv] at hretd
    exact (filter_eq_some_iff.mp hretd.symm).2
  · apply ext_lookup
    intro k
    rw [lookup_retain]
    cases hk : m.lookup k with
    | none => rfl
    | some v => simp [h k v hk]

theorem eraseAll_eq_self_iff {K V : Type} [DecidableEq K] (ks : List K) (m : HashMap K V) :
    eraseAll ks m = m ↔ ∀ k ∈ ks, m.lookup k = none := by
  refine ⟨fun h k hk => ?_, fun h => ?_⟩
  · rw [← h, lookup_eraseAll, if_pos hk]
  · apply ext_lookup
    intro k
    rw [lookup_eraseAll]
    split
    · next hk => exact (h k hk).symm
    · rfl

theorem releaseSelections_eq_self_iff (mine : List XId) (timestamp : Nat) (persistent : Bool)
    (sels : HashMap Atom SelectionOwner) :
    releaseSelections mine timestamp persistent sels = sels ↔
      ∀ a e, sels.lookup a = some e → e.window ∈ mine →
        a = Predef.clipboard ∧ persistent = true ∧ e = managerEntry timestamp := by
  simp only [releaseSelections]
  split
  · next howns =>
    obtain ⟨howns, hpers⟩ := Bool.and_eq_true_iff.mp howns
    obtain ⟨e₀, he₀, hmine⟩ := (any_eq_true _ _).mp howns
    refine ⟨fun h a e he hwin => ?_, fun h => ?_⟩
    · have hlook := congrArg (Finmap.lookup a) h
      rw [lookup_retain, lookup_insert_eq, he] at hlook
      by_cases ha : a = Predef.clipboard
      · rw [if_pos ha] at hlook
        have hent := (filter_eq_some_iff.mp hlook).1
        exact ⟨ha, hpers, (some.inj hent).symm⟩
      · rw [if_neg ha] at hlook
        have hkept := (filter_eq_some_iff.mp hlook).2
        simp [ha, hwin] at hkept
    · apply ext_lookup
      intro a
      rw [lookup_retain, lookup_insert_eq]
      by_cases ha : a = Predef.clipboard
      · have hent := (h _ e₀ he₀ (of_decide_eq_true hmine)).2.2
        subst ha
        simp [he₀, hent]
      · rw [if_neg ha]
        cases he : sels.lookup a with
        | none => rfl
        | some e =>
          have hnot : e.window ∉ mine := fun hwin => ha (h a e he hwin).1
          simp [hnot]
  · next hkps =>
    rw [retain_eq_self_iff]
    refine forall_congr' fun a => forall_congr' fun e => forall_congr' fun he => ?_
    refine ⟨fun hnot hwin => absurd hwin (of_decide_eq_true hnot), fun h => ?_⟩
    apply decide_eq_true
    intro hwin
    obtain ⟨rfl, hpers, -⟩ := h hwin
    apply hkps
    simp [he, hwin, hpers]

theorem removeWindows_eq_iff {ws ws' : List XId} (hws : ws.Nodup) (hws' : ws'.Nodup) (m : WindowMap) :
    removeWindows ws m = removeWindows ws' m ↔ ∀ w ∈ m, w ∈ ws ↔ w ∈ ws' := by
  refine ⟨fun h w hw => ?_, fun h => ?_⟩
  · obtain ⟨win, hwin⟩ := mem_iff.mp hw
    have hlook := congrArg (Finmap.lookup w) h
    rw [lookup_removeWindows hws, lookup_removeWindows hws', hwin] at hlook
    by_cases hin : w ∈ ws <;> by_cases hin' : w ∈ ws' <;> simp_all
  · apply ext_lookup
    intro a
    rw [lookup_removeWindows hws, lookup_removeWindows hws']
    cases ha : m.lookup a with
    | none => simp
    | some win =>
      have hgone : goneFrom ws m a = goneFrom ws' m a := by
        funext c
        apply decide_eq_decide.mpr
        refine and_congr_left fun hc => ?_
        obtain ⟨cwin, hcwin, -⟩ := map_eq_some_iff.mp hc
        exact h c (mem_of_lookup_eq_some hcwin)
      rw [hgone]
      simp only [h a (mem_of_lookup_eq_some ha)]

theorem eofTeardown_destroy (hmode : s.closeDownMode = 0) (hsave : s.saveSet = []) :
    ∃ focus, (eofTeardown order timestamp s).shared = { unsubscribeClient s.clientId s.shared with
      windows := removeWindows order.x11ToUuid s.shared.windows
      focus := focus
      selections := releaseSelections order.x11ToUuid timestamp s.shared.clipboardPersistent
        s.shared.selections
      serverGrab := ServerGrab.releaseGrab s.clientId s.serverGrabCount s.shared.serverGrab
      eventRoutes := eraseAll order.x11ToUuid s.shared.eventRoutes
      windowRoutes := eraseAll (uuidsOf s order.x11ToUuid) s.shared.windowRoutes
      windowIndex := eraseAll order.x11ToUuid s.shared.windowIndex
      recordContexts := retain (fun _ e => e.recordingClient != s.clientId) s.shared.recordContexts
      updates := s.shared.updates ++
        (uuidsOf s order.x11ToUuid).map (fun uuid => (s.clientId, .windowDestroyed uuid)) } := by
  have hsaved : processSaveSet (releaseServerGrab s) =
      ({ releaseServerGrab s with saveSet := [] }, []) := by
    have hemp : (releaseServerGrab s).saveSet = [] := hsave
    rw [processSaveSet, hemp]
    rfl
  obtain ⟨hid, hclosing, htable, hshd⟩ := dropFocus_fields (unsubscribe
    (dropSelections order.x11ToUuid timestamp { releaseServerGrab s with saveSet := [] }))
  have hfilter : order.x11ToUuid.filter (fun w => decide (w ∉ ([] : List XId))) =
      order.x11ToUuid := by simp
  refine ⟨(dropFocus (unsubscribe (dropSelections order.x11ToUuid timestamp
    { releaseServerGrab s with saveSet := [] }))).shared.focus, ?_⟩
  have hzero := hclosing.trans hmode
  simp only [eofTeardown, hsaved, closeDown, hzero, hfilter, dropRecords, destroyWindows,
    unregisterRoutes, uuidsOf, hid, htable]
  rw [hshd]
  rfl

theorem mem_uuidsOf {uuid : Uuid} (hord : order.Fits s) :
    uuid ∈ uuidsOf s order.x11ToUuid ↔ ∃ w, s.x11ToUuid.lookup w = some uuid := by
  rw [uuidsOf, mem_filterMap]
  refine exists_congr fun w => and_iff_right_of_imp fun hw => ?_
  exact (hord.x11ToUuid.2 w).mpr (mem_of_lookup_eq_some hw)

theorem releaseGrab_eq_self_iff {me : ClientId} {count : Nat} {holder : Option ClientId} :
    ServerGrab.releaseGrab me count holder = holder ↔ ¬ (count > 0 ∧ holder = some me) := by
  rw [ServerGrab.releaseGrab]
  split
  · next hmine => exact iff_of_false (by rw [hmine.2]; simp) (not_not_intro hmine)
  · next hmine => exact iff_of_true rfl hmine

theorem ownedBy_agrees_iff (hord : order.Fits s) (hgrd : guardOrder.Fits s.shared) :
    removeWindows order.x11ToUuid s.shared.windows =
        removeWindows (ownedBy s.clientId guardOrder.windows s.shared.windows) s.shared.windows ↔
      ∀ w win, s.shared.windows.lookup w = some win →
        (w ∈ s.x11ToUuid ↔ win.ownerClientId = some s.clientId) := by
  have hnd : (ownedBy s.clientId guardOrder.windows s.shared.windows).Nodup :=
    hgrd.windows.1.filter _
  rw [removeWindows_eq_iff hord.x11ToUuid.1 hnd]
  refine forall_congr' fun w => ?_
  have hmem : ∀ win, s.shared.windows.lookup w = some win →
      (w ∈ ownedBy s.clientId guardOrder.windows s.shared.windows ↔
        win.ownerClientId = some s.clientId) := by
    intro win hwin
    have hlstd := (hgrd.windows.2 w).mpr (mem_of_lookup_eq_some hwin)
    simp [ownedBy, hlstd, hwin]
  refine ⟨fun h win hwin => ?_, fun h hw => ?_⟩
  · rw [← hord.x11ToUuid.2 w, h (mem_of_lookup_eq_some hwin), hmem win hwin]
  · obtain ⟨win, hwin⟩ := mem_iff.mp hw
    rw [hord.x11ToUuid.2 w, h win hwin, hmem win hwin]

theorem mem_guard_uuids {uuid : Uuid} (hgrd : guardOrder.Fits s.shared) :
    uuid ∈ (indexedBy s.clientId guardOrder.windowIndex s.shared.windowIndex).filterMap
        (fun w => (s.shared.windowIndex.lookup w).map (·.uuid)) ↔
      ∃ w e, s.shared.windowIndex.lookup w = some e ∧ e.clientId = s.clientId ∧ e.uuid = uuid := by
  rw [mem_filterMap]
  refine exists_congr fun w => ⟨?_, ?_⟩
  · rintro ⟨hw, huuid⟩
    obtain ⟨e, he, rfl⟩ := map_eq_some_iff.mp huuid
    have hcl := (mem_filter.mp hw).2
    rw [he] at hcl
    exact ⟨e, he, by simpa using hcl, rfl⟩
  · rintro ⟨e, he, hcl, rfl⟩
    have hlstd := (hgrd.windowIndex.2 w).mpr (mem_of_lookup_eq_some he)
    exact ⟨mem_filter.mpr ⟨hlstd, by simp [he, hcl]⟩, by simp [he]⟩

theorem guardDrop_destroy (hmode : s.closeDownMode = 0) :
    guardDrop guardOrder s = { unsubscribeClient s.clientId s.shared with
      windows := removeWindows (ownedBy s.clientId guardOrder.windows s.shared.windows)
        s.shared.windows
      windowIndex := eraseAll (indexedBy s.clientId guardOrder.windowIndex s.shared.windowIndex)
        s.shared.windowIndex
      updates := s.shared.updates ++
        ((indexedBy s.clientId guardOrder.windowIndex s.shared.windowIndex).filterMap
          (fun w => (s.shared.windowIndex.lookup w).map (·.uuid))).map
          (fun uuid => (s.clientId, .windowDestroyed uuid)) } := by
  rw [guardDrop, if_neg (not_not_intro hmode)]
  rfl

theorem sameDestroyed_iff (me : ClientId) (uuids uuids' : List Uuid) :
    (∀ m, m ∈ uuids.map (fun uuid => (me, DisplayUpdate.windowDestroyed uuid)) ↔
      m ∈ uuids'.map (fun uuid => (me, DisplayUpdate.windowDestroyed uuid))) ↔
    ∀ uuid, uuid ∈ uuids ↔ uuid ∈ uuids' := by
  have hmem : ∀ (us : List Uuid) uuid, (me, DisplayUpdate.windowDestroyed uuid) ∈
      us.map (fun uuid => (me, DisplayUpdate.windowDestroyed uuid)) ↔ uuid ∈ us := by
    intro us uuid
    simp
  refine ⟨fun h uuid => ?_, fun h m => ?_⟩
  · rw [← hmem uuids, ← hmem uuids', h]
  · simp only [List.mem_map, h]

/-- Both ways out of a connection end in the same state exactly when the client
has nothing where the guard does not look. -/
theorem teardownPaths_agree_iff (order : IterationOrder) (guardOrder : GuardOrder) (timestamp : Nat)
    (s : ClientState) (hmode : s.closeDownMode = 0) (hsave : s.saveSet = [])
    (hord : order.Fits s) (hgrd : guardOrder.Fits s.shared) :
    SameServer s.shared (eofTeardown order timestamp s).shared (guardDrop guardOrder s) ↔
      Unentangled timestamp s := by
  obtain ⟨focus, heof⟩ := @eofTeardown_destroy order timestamp s hmode hsave
  rw [heof, guardDrop_destroy hmode]
  have htable := hord.x11ToUuid.2
  have hwins := ownedBy_agrees_iff hord hgrd
  have hsels := releaseSelections_eq_self_iff order.x11ToUuid timestamp
    s.shared.clipboardPersistent s.shared.selections
  have hrts := eraseAll_eq_self_iff order.x11ToUuid s.shared.eventRoutes
  have huuids := eraseAll_eq_self_iff (uuidsOf s order.x11ToUuid) s.shared.windowRoutes
  have hrecords := retain_eq_self_iff (fun _ e => e.recordingClient != s.clientId)
    s.shared.recordContexts
  have hdstd := sameDestroyed_iff s.clientId (uuidsOf s order.x11ToUuid)
    ((indexedBy s.clientId guardOrder.windowIndex s.shared.windowIndex).filterMap
      (fun w => (s.shared.windowIndex.lookup w).map (·.uuid)))
  simp only [mem_uuidsOf hord, mem_guard_uuids hgrd] at hdstd huuids
  simp only [htable] at hsels hrts
  refine ⟨fun h => ?_, fun h => ?_⟩
  · refine ⟨releaseGrab_eq_self_iff.mp h.serverGrab, hsels.mp h.selections,
      hrts.mp h.eventRoutes, ?_, ?_, hwins.mp h.windows, ?_⟩
    · exact fun w uuid hw => huuids.mp h.windowRoutes uuid ⟨w, hw⟩
    · exact fun id e he => by simpa using hrecords.mp h.recordContexts id e he
    · apply hdstd.mp
      intro m
      have hm := h.destroyed m
      rw [sentSince, sentSince, drop_left, drop_left] at hm
      exact hm
  · refine ⟨hwins.mpr h.owned, hsels.mpr h.noSelection,
      releaseGrab_eq_self_iff.mpr h.noGrab, hrts.mpr h.noEventRoute, ?_, ?_, rfl, rfl, ?_⟩
    · exact huuids.mpr fun uuid ⟨w, hw⟩ => h.noWindowRoute w uuid hw
    · exact hrecords.mpr fun id e he => by simpa using h.noRecord id e he
    · intro m
      rw [sentSince, sentSince, drop_left, drop_left]
      exact hdstd.mpr h.indexed m

def newcomer : ClientState := acceptClient 1 false 0 0 [] (initialShared (fun _ => ∅) ∅)

def newcomerOrder : IterationOrder := ⟨[], serverIds⟩

def newcomerGuardOrder : GuardOrder := ⟨[], serverIds⟩

theorem newcomer_unentangled : Unentangled 0 newcomer where
  noGrab := by simp [newcomer, acceptClient]
  noSelection a e he := by simp [newcomer, acceptClient, initialShared] at he
  noEventRoute w hw := absurd hw notMem_empty
  noWindowRoute w uuid hw := by simp [newcomer, acceptClient] at hw
  noRecord id e he := by simp [newcomer, acceptClient, initialShared] at he
  owned w win hwin := by
    refine iff_of_false notMem_empty ?_
    rw [initialWindows_owner (fun _ => ∅) w win hwin]
    simp
  indexed uuid := by simp [newcomer, acceptClient, initialShared]

theorem teardownPaths_agree_newcomer :
    SameServer newcomer.shared (eofTeardown newcomerOrder 0 newcomer).shared
      (guardDrop newcomerGuardOrder newcomer) :=
  (teardownPaths_agree_iff newcomerOrder newcomerGuardOrder 0 newcomer rfl rfl
    ⟨by decide +kernel, by decide +kernel⟩ ⟨by decide +kernel, by decide +kernel⟩).mpr
    newcomer_unentangled

def grabServer (s : ClientState) : ClientState :=
  let (holder, task) := ServerGrab.handleGrabServer s.clientId { count := s.serverGrabCount }
  { s with
    serverGrabCount := task.count
    shared := { s.shared with serverGrab := holder } }

/-- After an I/O error the server stays grabbed by a client that is gone. -/
theorem guardDrop_keeps_grab :
    ¬ SameServer (grabServer newcomer).shared
      (eofTeardown newcomerOrder 0 (grabServer newcomer)).shared
      (guardDrop newcomerGuardOrder (grabServer newcomer)) := by
  intro h
  have hgrab := h.serverGrab
  revert hgrab
  decide +kernel

end X11Web.TeardownPaths
