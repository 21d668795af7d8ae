import X11Web.Attributes
import X11Web.Runs

namespace X11Web.EventSelection

open HashMaps Windows WindowTree CreateDestroy SyncWindows Option Function Finmap
open Attributes Runs

def broadcast (sh : Shared) (w : XId) (mask : Nat) (event : Bytes) (source : ClientId) :
    List (ClientId × Bytes) :=
  ((sh.subscriptions.lookup w).getD []).filterMap (fun sub =>
    if sub.clientId ≠ source ∧ sub.eventMask &&& mask ≠ 0 then some (sub.clientId, event) else none)

/-- What the client puts into its own queue, and what goes to the others. -/
def deliverEvent (w : XId) (mask : Nat) (event : Bytes) (s : ClientState) :
    List Bytes × List (ClientId × Bytes) :=
  (if windowSelects s w mask then [event] else [], broadcast s.shared w mask event s.clientId)

/-- A session with what each client last selected on a window by a request of its
own. -/
structure Audience where
  session : Session
  selected : ClientId → XId → Nat

def record : Option (XId × Nat) → (XId → Nat) → XId → Nat
  | none, selected => selected
  | some (w, mask), selected => update selected w mask

def createMask (s : ClientState) (req : CreateWindowRequest) : Option (XId × Nat) :=
  if createWindowError s req = none then some (req.wid, req.eventMask.getD 0) else none

inductive SelectAction
  | connect (client : ClientId) (msb : Bool) (pid connIndex : Nat) (hostname : Bytes)
  | createWindow (client : ClientId) (req : CreateWindowRequest)
  | changeWindowAttributes (client : ClientId) (req : ChangeWindowAttributesRequest)
  | sync (client : ClientId) (order : List XId)

inductive SelectStep : Audience → SelectAction → Audience → Prop
  | connect {t : Audience} {client : ClientId} {msb : Bool} {pid connIndex : Nat} {hostname : Bytes}
      (hnew : t.session.connections client = none) :
      SelectStep t (.connect client msb pid connIndex hostname)
        ⟨t.session.put client (acceptClient client msb pid connIndex hostname t.session.shared),
          update t.selected client (fun _ => 0)⟩
  | createWindow {t : Audience} {client : ClientId} {conn : Connection} {req : CreateWindowRequest}
      (hconn : t.session.connections client = some conn) :
      SelectStep t (.createWindow client req)
        ⟨t.session.put client (handleCreateWindow req (t.session.view conn)).1,
          update t.selected client
            (record (createMask (t.session.view conn) req) (t.selected client))⟩
  | changeWindowAttributes {t : Audience} {client : ClientId} {conn : Connection}
      {req : ChangeWindowAttributesRequest} (hconn : t.session.connections client = some conn) :
      SelectStep t (.changeWindowAttributes client req)
        ⟨t.session.put client (handleChangeWindowAttributes req (t.session.view conn)).1,
          update t.selected client
            (record (changeSelection (t.session.view conn) req) (t.selected client))⟩
  | sync {t : Audience} {client : ClientId} {conn : Connection} {order : List XId}
      (hconn : t.session.connections client = some conn)
      (hord : Enumerates order t.session.shared.windows) :
      SelectStep t (.sync client order)
        ⟨t.session.put client (syncWindows order (t.session.view conn)), t.selected⟩

def Audience.start (props : XId → HashMap Atom PropertyValue)
    (selections : HashMap Atom SelectionOwner) : Audience :=
  ⟨Session.start props selections, fun _ _ => 0⟩

/-- A record that a client copies from the shared registry has no mask in it; one
that ChangeWindowAttributes copies may have its mask replaced at once. -/
def CopiesNoMask (t : Audience) : SelectAction → Prop
  | .connect .. => ∀ w win, t.session.shared.windows.lookup w = some win → win.eventMask = 0
  | .createWindow .. => True
  | .changeWindowAttributes client req => ∀ conn, t.session.connections client = some conn →
      ∀ win, req.window ∉ conn.windows →
        t.session.shared.windows.lookup req.window = some win →
        changeSelection (t.session.view conn) req = none → win.eventMask = 0
  | .sync client order => ∀ conn, t.session.connections client = some conn →
      needsStep1 order t.session.shared.windows conn.windows →
      ∀ w win, w ∉ conn.windows → t.session.shared.windows.lookup w = some win → win.eventMask = 0

def cachedMask (m : WindowMap) (w : XId) : Nat := (m.lookup w).elim 0 (·.eventMask)

def CachesOwn (t : Audience) : Prop :=
  ∀ c conn, t.session.connections c = some conn → ∀ w, cachedMask conn.windows w = t.selected c w

/-- A connection goes under its client's id, and what it caches of others is
shared. -/
structure Connected (t : Session) (c : ClientId) (conn : Connection) : Prop where
  clientId : conn.clientId = c
  alive : ∀ w o, (conn.windows.lookup w).map (·.ownerClientId) = some (some o) → o ≠ c →
    w ∈ t.shared.windows

def AllConnected (t : Session) : Prop := ∀ c conn, t.connections c = some conn → Connected t c conn

variable {t t' : Audience} {m shared : WindowMap} {w v : XId} {win : WindowState} {s s' : ClientState}
variable {c client : ClientId} {mask : Nat} {order : List XId}

theorem windowSelects_iff : windowSelects s w mask = true ↔ cachedMask s.windows w &&& mask ≠ 0 := by
  rw [windowSelects, cachedMask]
  cases s.windows.lookup w with
  | none => simp
  | some win => simp

theorem cachedMask_insert (m : WindowMap) (w v : XId) (win : WindowState) :
    cachedMask (m.insert w win) v = if v = w then win.eventMask else cachedMask m v := by
  rw [cachedMask, lookup_insert_eq]
  split
  · rfl
  · rfl

theorem cachedMask_modify (f : WindowState → WindowState) (h : ∀ win, (f win).eventMask = win.eventMask)
    (m : WindowMap) (w v : XId) : cachedMask (modify w f m) v = cachedMask m v := by
  rw [cachedMask, lookup_modify]
  split
  · next heq =>
    subst heq
    rw [cachedMask]
    cases m.lookup v with
    | none => rfl
    | some win => exact h win
  · rfl

theorem cachedMask_of_notMem (h : w ∉ m) : cachedMask m w = 0 := by
  rw [cachedMask, lookup_eq_none.mpr h]
  rfl

theorem setInitialProperties_eventMask (s : ClientState) (win : WindowState) :
    (setInitialProperties s win).eventMask = win.eventMask := by
  simp only [setInitialProperties, insertProperty]
  split
  · rfl
  · rfl

theorem createWindow_cachedMask (req : CreateWindowRequest) (s : ClientState) (v : XId) :
    cachedMask (createWindow req s).windows v =
      if v = req.wid then req.eventMask.getD 0 else cachedMask s.windows v := by
  rw [createWindow_windows, cachedMask_modify _ (setInitialProperties_eventMask s),
    cachedMask_modify (pushChild req.wid) (fun _ => rfl), cachedMask_insert]
  rfl

theorem createWindow_shared (req : CreateWindowRequest) (s : ClientState) :
    (createWindow req s).shared.windows = s.shared.windows := by
  refine (registerWindow_windows req.wid _).2.trans ?_
  change (if _ then _ else _ : Shared).windows = _
  split
  · rfl
  · rfl

variable (req : ChangeWindowAttributesRequest)

theorem storeAttributes_cachedMask (s : ClientState) (v : XId) :
    cachedMask (storeAttributes req s).windows v = cachedMask s.windows v :=
  cachedMask_modify (setOverrideRedirect req.overrideRedirect) (fun _ => rfl) s.windows req.window v

theorem changeAttributes_cachedMask (hw : req.window ∈ s.windows) (v : XId) :
    cachedMask (changeAttributes req s).windows v =
      if v = req.window then req.eventMask.getD (cachedMask s.windows v)
      else cachedMask s.windows v := by
  obtain ⟨win, hwin⟩ := mem_iff.mp hw
  rw [changeAttributes]
  cases req.eventMask with
  | none =>
    rw [getD_none, ite_self]
    exact storeAttributes_cachedMask req s v
  | some mask =>
    dsimp only [elim_some, markWindowSharedDirty]
    rw [(selectEvents_fields req.window mask _).2.1, cachedMask, lookup_modify]
    split
    · next heq =>
      subst heq
      simp [storeAttributes, updateWindow, hwin, setEventMask]
    · exact storeAttributes_cachedMask req s v

theorem changeAttributes_sharedWindows (s : ClientState) :
    (changeAttributes req s).shared.windows = s.shared.windows := by
  rw [changeAttributes]
  cases req.eventMask with
  | none => rfl
  | some mask =>
    dsimp only [elim_some, markWindowSharedDirty]
    rw [(selectEvents_fields req.window mask _).2.2]
    rfl

theorem handleCreateWindow_cachedMask (req : CreateWindowRequest) (s : ClientState) (v : XId) :
    cachedMask (handleCreateWindow req s).1.windows v =
      record (createMask s req) (cachedMask s.windows) v := by
  rw [handleCreateWindow, createMask]
  cases createWindowError s req with
  | some r => rfl
  | none => simp [record, createWindow_cachedMask, update_apply]

theorem cachedMask_insert_eq_iff {win : WindowState} {m : WindowMap} {w : XId} (hw : w ∉ m) :
    (∀ v, cachedMask (m.insert w win) v = cachedMask m v) ↔ win.eventMask = 0 := by
  constructor
  · intro h
    have hself := h w
    rwa [cachedMask_insert, if_pos rfl, cachedMask_of_notMem hw] at hself
  · intro h v
    rw [cachedMask_insert]
    split
    · next heq => rw [heq, h, cachedMask_of_notMem hw]
    · rfl

/-- ChangeWindowAttributes keeps to the client's own selections unless it leaves
the mask of a copied record in place. -/
theorem handleChangeWindowAttributes_cachedMask_iff (s : ClientState) :
    (∀ v, cachedMask (handleChangeWindowAttributes req s).1.windows v =
        record (changeSelection s req) (cachedMask s.windows) v) ↔
      ∀ win, req.window ∉ s.windows → s.shared.windows.lookup req.window = some win →
        changeSelection s req = none → win.eventMask = 0 := by
  rw [handleChangeWindowAttributes, changeSelection]
  cases hpull : pullWindowFor req.window s with
  | none =>
    refine iff_of_true (fun v => rfl) ?_
    intro win hw hwin
    simp [pullWindowFor, hw, hwin] at hpull
  | some s' =>
    simp only [bind_some]
    obtain ⟨hw, rfl⟩ | ⟨win, hw, hwin, hcopy⟩ := pullWindowFor_some hpull
    · refine iff_of_true ?_ (fun win hnot => absurd hw hnot)
      intro v
      cases changeAttributesError s' req with
      | some r => rfl
      | none =>
        simp only [if_true, changeAttributes_cachedMask req hw]
        cases req.eventMask with
        | none => simp [record]
        | some mask => simp [record, update_apply]
    · have hcopied : (∀ v, cachedMask s'.windows v = cachedMask s.windows v) ↔
          win.eventMask = 0 := by
        rw [hcopy]
        exact cachedMask_insert_eq_iff hw
      have hone : (∀ win', req.window ∉ s.windows →
          s.shared.windows.lookup req.window = some win' → win'.eventMask = 0) ↔
          win.eventMask = 0 := by
        constructor
        · intro h
          exact h win hw hwin
        · intro h win' _ hwin'
          rwa [← some.inj (hwin.symm.trans hwin')]
      cases changeAttributesError s' req with
      | some r => simpa [record] using hcopied.trans hone.symm
      | none =>
        have hmem : req.window ∈ s'.windows := by
          rw [hcopy]
          exact mem_insert.mpr (.inl rfl)
        simp only [if_true, changeAttributes_cachedMask req hmem]
        cases req.eventMask with
        | none => simpa [record] using hcopied.trans hone.symm
        | some mask =>
          refine iff_of_true ?_ ?_
          · intro v
            simp only [getD_some, map_some, record, update_apply, hcopy,
              cachedMask_insert]
            split
            · rfl
            · rfl
          · simp

theorem cachedMask_step1 (hord : Enumerates order shared)
    (halive : ∀ w win, m.lookup w = some win → ¬ isMine c win → w ∈ shared) (v : XId) :
    cachedMask (step1 c order shared m) v = if v ∈ m then cachedMask m v else cachedMask shared v := by
  rw [cachedMask, lookup_step1 shared m hord.1, lookup_dropForeign_of_alive halive]
  by_cases hv : v ∈ m
  · obtain ⟨win, hwin⟩ := mem_iff.mp hv
    rw [if_pos hv, cachedMask, hwin]
    split
    · cases shared.lookup v with
      | none => rfl
      | some sw =>
        simp only [elim_some, pullEntry]
        split
        · rfl
        · rfl
    · rfl
  · rw [if_neg hv, lookup_eq_none.mpr hv, cachedMask]
    split
    · cases shared.lookup v with
      | none => rfl
      | some sw => rfl
    · next hnot =>
      rw [lookup_eq_none.mpr (fun hmem => hnot ((hord.2 v).mpr hmem))]

theorem syncWindows_cachedMask_iff (hord : Enumerates order s.shared.windows)
    (halive : ∀ w win, s.windows.lookup w = some win → ¬ isMine s.clientId win →
      w ∈ s.shared.windows) :
    (∀ v, cachedMask (syncWindows order s).windows v = cachedMask s.windows v) ↔
      (needsStep1 order s.shared.windows s.windows →
        ∀ w win, w ∉ s.windows → s.shared.windows.lookup w = some win → win.eventMask = 0) := by
  rw [syncWindows, flushDirty]
  dsimp only
  split
  · next hneeds =>
    simp only [cachedMask_step1 hord halive, hneeds, true_implies]
    constructor
    · intro h w win hw hwin
      have hself := h w
      rwa [if_neg hw, cachedMask_of_notMem hw, cachedMask, hwin] at hself
    · intro h v
      by_cases hv : v ∈ s.windows
      · rw [if_pos hv]
      · rw [if_neg hv, cachedMask_of_notMem hv, cachedMask]
        cases hwin : s.shared.windows.lookup v with
        | none => rfl
        | some win => exact h v win hv hwin
  · next hneeds => exact iff_of_true (fun v => rfl) (fun h => absurd h hneeds)

theorem AllConnected.put {t : Session} (h : AllConnected t)
    (hgrows : ∀ w, w ∈ t.shared.windows → w ∈ s.shared.windows)
    (hself : Connected (t.put client s) client s.toConnection) : AllConnected (t.put client s) := by
  intro c conn hconn
  by_cases hc : c = client
  · subst hc
    obtain rfl := some.inj ((Session.put_connections t c s).symm.trans hconn)
    exact hself
  · have hold : t.connections c = some conn := (update_of_ne hc _ _).symm.trans hconn
    exact ⟨(h c conn hold).clientId, fun w o ho hne => hgrows w ((h c conn hold).alive w o ho hne)⟩

theorem handleCreateWindow_alive (req : CreateWindowRequest)
    (h : ∀ w o, (s.windows.lookup w).map (·.ownerClientId) = some (some o) → o ≠ s.clientId →
      w ∈ s.shared.windows) (w : XId) (o : ClientId)
    (ho : ((handleCreateWindow req s).1.windows.lookup w).map (·.ownerClientId) = some (some o))
    (hne : o ≠ s.clientId) : w ∈ (handleCreateWindow req s).1.shared.windows := by
  rw [handleCreateWindow] at ho ⊢
  cases herr : createWindowError s req with
  | some r =>
    simp only [herr] at ho
    exact h w o ho hne
  | none =>
    simp only [herr] at ho
    rw [createWindow_shared]
    rw [(createWindow_created herr).owner] at ho
    split at ho
    · exact absurd (some.inj (some.inj ho)).symm hne
    · exact h w o ho hne

theorem changeAttributes_owner (s : ClientState) (w : XId) :
    ((changeAttributes req s).windows.lookup w).map (·.ownerClientId) =
      (s.windows.lookup w).map (·.ownerClientId) := by
  have hsto : ((storeAttributes req s).windows.lookup w).map (·.ownerClientId) =
      (s.windows.lookup w).map (·.ownerClientId) :=
    owner_modify s.windows req.window w (setOverrideRedirect req.overrideRedirect) (fun _ => rfl)
  rw [changeAttributes]
  cases req.eventMask with
  | none => exact hsto
  | some mask =>
    dsimp only [elim_some, markWindowSharedDirty]
    rw [(selectEvents_fields req.window mask _).2.1]
    exact (owner_modify _ req.window w (setEventMask mask) (fun _ => rfl)).trans hsto

theorem handleChangeWindowAttributes_alive
    (h : ∀ w o, (s.windows.lookup w).map (·.ownerClientId) = some (some o) → o ≠ s.clientId →
      w ∈ s.shared.windows) (w : XId) (o : ClientId)
    (ho : ((handleChangeWindowAttributes req s).1.windows.lookup w).map (·.ownerClientId) =
      some (some o))
    (hne : o ≠ s.clientId) : w ∈ (handleChangeWindowAttributes req s).1.shared.windows := by
  rw [handleChangeWindowAttributes] at ho ⊢
  cases hpull : pullWindowFor req.window s with
  | none =>
    simp only [hpull] at ho
    exact h w o ho hne
  | some s' =>
    have hpulled : (s'.windows.lookup w).map (·.ownerClientId) = some (some o) →
        w ∈ s'.shared.windows := by
      obtain ⟨-, rfl⟩ | ⟨win, -, hwin, rfl⟩ := pullWindowFor_some hpull
      · exact fun ho => h w o ho hne
      · intro ho
        dsimp only at ho
        rw [lookup_insert_eq] at ho
        split at ho
        · next heq =>
          subst heq
          exact mem_of_lookup_eq_some hwin
        · exact h w o ho hne
    simp only [hpull] at ho
    cases herr : changeAttributesError s' req with
    | some r =>
      simp only [herr] at ho ⊢
      exact hpulled ho
    | none =>
      simp only [herr] at ho ⊢
      rw [changeAttributes_sharedWindows]
      rw [changeAttributes_owner] at ho
      exact hpulled ho

theorem syncWindows_alive (hord : Enumerates order s.shared.windows)
    (h : ∀ w o, (s.windows.lookup w).map (·.ownerClientId) = some (some o) → o ≠ s.clientId →
      w ∈ s.shared.windows) (w : XId) (o : ClientId)
    (ho : ((syncWindows order s).windows.lookup w).map (·.ownerClientId) = some (some o))
    (hne : o ≠ s.clientId) : w ∈ (syncWindows order s).shared.windows := by
  apply mem_step2_of_mem
  rw [syncWindows, flushDirty] at ho
  dsimp only at ho
  split at ho
  · by_contra hw
    rw [lookup_step1 _ _ hord.1, if_neg (fun hmem => hw ((hord.2 w).mp hmem)),
      lookup_dropForeign] at ho
    obtain ⟨win, hwin, howner⟩ := map_eq_some_iff.mp ho
    obtain ⟨hold, -⟩ := filter_eq_some_iff.mp hwin
    exact hw (h w o (by rw [hold, map_some, howner]) hne)
  · exact h w o ho hne

theorem handlers_clientId (s : ClientState) : (∀ req, (handleCreateWindow req s).1.clientId = s.clientId) ∧
    (∀ req, (handleChangeWindowAttributes req s).1.clientId = s.clientId) ∧
    ∀ order, (syncWindows order s).clientId = s.clientId := by
  refine ⟨?_, ?_, fun order => rfl⟩
  · intro req
    rw [handleCreateWindow]
    cases herr : createWindowError s req with
    | some r => rfl
    | none => exact (createWindow_created herr).clientId
  · intro req
    rw [handleChangeWindowAttributes]
    cases hpull : pullWindowFor req.window s with
    | none => rfl
    | some s' =>
      rw [← (pullWindowFor_fields hpull).1]
      dsimp only
      cases changeAttributesError s' req with
      | some r => rfl
      | none =>
        dsimp only
        rw [changeAttributes]
        cases req.eventMask with
        | none => rfl
        | some mask => exact (selectEvents_fields req.window mask _).1

theorem handleCreateWindow_sharedWindows (req : CreateWindowRequest) (s : ClientState) :
    (handleCreateWindow req s).1.shared.windows = s.shared.windows := by
  rw [handleCreateWindow]
  cases createWindowError s req with
  | some r => rfl
  | none => exact createWindow_shared req s

theorem handleChangeWindowAttributes_sharedWindows (s : ClientState) :
    (handleChangeWindowAttributes req s).1.shared.windows = s.shared.windows := by
  rw [handleChangeWindowAttributes]
  cases hpull : pullWindowFor req.window s with
  | none => rfl
  | some s' =>
    rw [← (pullWindowFor_fields hpull).2]
    dsimp only
    cases changeAttributesError s' req with
    | some r => rfl
    | none => exact changeAttributes_sharedWindows req s'

theorem selectStep_allConnected {a : SelectAction} (h : AllConnected t.session)
    (hstep : SelectStep t a t') : AllConnected t'.session := by
  cases hstep with
  | connect hnew =>
    exact h.put (fun w hw => hw)
      ⟨rfl, fun w o ho _ => by
        obtain ⟨win, hwin, -⟩ := map_eq_some_iff.mp ho
        exact mem_of_lookup_eq_some hwin⟩
  | @createWindow client conn req hconn =>
    obtain ⟨rfl, halive⟩ := h client conn hconn
    refine h.put (fun w hw => ?_) ⟨(handlers_clientId (t.session.view conn)).1 req, ?_⟩
    · rw [handleCreateWindow_sharedWindows]
      exact hw
    · exact handleCreateWindow_alive req halive
  | @changeWindowAttributes client conn req hconn =>
    obtain ⟨rfl, halive⟩ := h client conn hconn
    refine h.put (fun w hw => ?_) ⟨(handlers_clientId (t.session.view conn)).2.1 req, ?_⟩
    · rw [handleChangeWindowAttributes_sharedWindows]
      exact hw
    · exact handleChangeWindowAttributes_alive req halive
  | @sync client conn order hconn hord =>
    obtain ⟨rfl, halive⟩ := h client conn hconn
    exact h.put (fun w hw => mem_step2_of_mem hw)
      ⟨rfl, syncWindows_alive hord halive⟩

theorem CachesOwn.put_iff (h : CachesOwn t) (own : XId → Nat) :
    CachesOwn ⟨t.session.put client s, update t.selected client own⟩ ↔
      ∀ v, cachedMask s.windows v = own v := by
  constructor
  · intro h' v
    have hself := h' client s.toConnection (Session.put_connections _ _ _) v
    dsimp only at hself
    rwa [update_self] at hself
  · intro hown c conn hconn w
    by_cases hc : c = client
    · subst hc
      obtain rfl := some.inj ((Session.put_connections _ c s).symm.trans hconn)
      dsimp only
      rw [update_self]
      exact hown w
    · have hold : t.session.connections c = some conn :=
        (update_of_ne hc _ _).symm.trans hconn
      dsimp only
      rw [update_of_ne hc]
      exact h c conn hold w

theorem selectStep_cachesOwn_iff {a : SelectAction} (hconnected : AllConnected t.session)
    (h : CachesOwn t) (hstep : SelectStep t a t') : CachesOwn t' ↔ CopiesNoMask t a := by
  cases hstep with
  | connect hnew =>
    rw [h.put_iff]
    constructor
    · intro hzero w win hwin
      have hmask : cachedMask t.session.shared.windows w = 0 := hzero w
      rwa [cachedMask, hwin] at hmask
    · intro hzero w
      change cachedMask t.session.shared.windows w = 0
      rw [cachedMask]
      cases hwin : t.session.shared.windows.lookup w with
      | none => rfl
      | some win => exact hzero w win hwin
  | @createWindow client conn req hconn =>
    rw [h.put_iff, ← funext (h client conn hconn)]
    exact iff_of_true (handleCreateWindow_cachedMask req (t.session.view conn)) trivial
  | @changeWindowAttributes client conn req hconn =>
    rw [h.put_iff, ← funext (h client conn hconn)]
    refine (handleChangeWindowAttributes_cachedMask_iff req (t.session.view conn)).trans ?_
    constructor
    · intro hcopies conn' hconn'
      obtain rfl := some.inj (hconn.symm.trans hconn')
      exact hcopies
    · intro hcopies
      exact hcopies conn hconn
  | @sync client conn order hconn hord =>
    obtain ⟨rfl, halive⟩ := hconnected client conn hconn
    have halive' : ∀ w win, conn.windows.lookup w = some win → ¬ isMine conn.clientId win →
        w ∈ t.session.shared.windows := by
      intro w win hwin hfor
      cases howner : win.ownerClientId with
      | none => simp [isMine, howner] at hfor
      | some o =>
        simp only [isMine, howner, Bool.or_eq_true, beq_iff_eq, some.injEq, reduceCtorEq,
          false_or] at hfor
        exact halive w o (by rw [hwin, map_some, howner]) hfor
    have hown : CachesOwn ⟨t.session.put conn.clientId (syncWindows order (t.session.view conn)),
        update t.selected conn.clientId (t.selected conn.clientId)⟩ ↔ _ := h.put_iff _
    rw [update_eq_self] at hown
    rw [hown, ← funext (h conn.clientId conn hconn)]
    refine (syncWindows_cachedMask_iff (s := t.session.view conn) hord halive').trans ?_
    constructor
    · intro hcopies conn' hconn'
      obtain rfl := some.inj (hconn.symm.trans hconn')
      exact hcopies
    · intro hcopies
      exact hcopies conn hconn

theorem guardedRun_cachesOwn (props : XId → HashMap Atom PropertyValue)
    (selections : HashMap Atom SelectionOwner) {as : List SelectAction}
    (hrun : Run (guarded CopiesNoMask SelectStep) (Audience.start props selections) as t) :
    CachesOwn t := by
  have h : AllConnected t.session ∧ CachesOwn t := by
    refine Run.invariant (I := fun t => AllConnected t.session ∧ CachesOwn t) ?_ ⟨?_, ?_⟩ hrun
    · intro t a t' ⟨hconnected, h⟩ ⟨hgrd, hstep⟩
      exact ⟨selectStep_allConnected hconnected hstep,
        (selectStep_cachesOwn_iff hconnected h hstep).mpr hgrd⟩
    · intro c conn hconn
      simp [Audience.start, Session.start] at hconn
    · intro c conn hconn
      simp [Audience.start, Session.start] at hconn
  exact h.2

theorem CachesOwn.deliverEvent (h : CachesOwn t) {conn : Connection}
    (hconn : t.session.connections c = some conn) (w : XId) (mask : Nat) (event : Bytes) :
    (EventSelection.deliverEvent w mask event (t.session.view conn)).1 =
      if t.selected c w &&& mask ≠ 0 then [event] else [] := by
  rw [EventSelection.deliverEvent, ← h c conn hconn w]
  dsimp only
  congr 1
  exact propext windowSelects_iff

/-- A client's own queue gets an event only for a selection of its own, and what
it gets depends on nothing else. -/
theorem guardedRun_deliverEvent (props : XId → HashMap Atom PropertyValue)
    (selections : HashMap Atom SelectionOwner) (as : List SelectAction) (t : Audience)
    (hrun : Run (guarded CopiesNoMask SelectStep) (Audience.start props selections) as t)
    (c : ClientId) (conn : Connection) (hconn : t.session.connections c = some conn) (w : XId)
    (mask : Nat) (event : Bytes) :
    ((deliverEvent w mask event (t.session.view conn)).1 ≠ [] → t.selected c w &&& mask ≠ 0) ∧
      ∀ (as' : List SelectAction) (t' : Audience) (conn' : Connection),
        Run (guarded CopiesNoMask SelectStep) (Audience.start props selections) as' t' →
        t'.session.connections c = some conn' → t'.selected c w = t.selected c w →
        (deliverEvent w mask event (t'.session.view conn')).1 =
          (deliverEvent w mask event (t.session.view conn)).1 := by
  rw [(guardedRun_cachesOwn props selections hrun).deliverEvent hconn]
  constructor
  · intro hpushed
    by_contra hzero
    exact hpushed (if_neg (not_not.mpr hzero))
  · intro as' t' conn' hrun' hconn' hsame
    rw [(guardedRun_cachesOwn props selections hrun').deliverEvent hconn', hsame]

def structureNotify : Nat := 2 ^ 17

def firstClient : ClientState := acceptClient 1 false 0 0 [] (initialShared (fun _ => ∅) ∅)

def watchRoot : ChangeWindowAttributesRequest :=
  { window := rootWindow, eventMask := some structureNotify }

def watcher : ClientState := (handleChangeWindowAttributes watchRoot firstClient).1

def watched : Audience :=
  ⟨((Session.start (fun _ => ∅) ∅).put 1 firstClient).put 1 watcher,
    update (update (fun _ _ => 0) 1 (fun _ => 0)) 1
      (record (changeSelection firstClient watchRoot)
        (update (fun _ _ => 0) 1 (fun _ => 0) 1))⟩

theorem guardedRun_deliverEvent_root :
    (deliverEvent rootWindow structureNotify [22] watcher).1 = [[22]] ∧
      watched.selected 1 rootWindow &&& structureNotify ≠ 0 := by
  have hpushed : (deliverEvent rootWindow structureNotify [22] watcher).1 = [[22]] := by
    decide +kernel
  refine ⟨hpushed, ?_⟩
  refine (guardedRun_deliverEvent (fun _ => ∅) ∅
    [.connect 1 false 0 0 [], .changeWindowAttributes 1 watchRoot] watched
    (.cons ⟨?_, .connect rfl⟩
      (.cons ⟨?_, .changeWindowAttributes (Session.put_connections _ _ _)⟩ (.nil _)))
    1 watcher.toConnection (Session.put_connections _ _ _) rootWindow structureNotify [22]).1 ?_
  · have hmasks : ∀ w ∈ (initialWindows (fun _ => ∅)).keys,
        ((initialWindows (fun _ => ∅)).lookup w).all (fun win => win.eventMask == 0) = true := by
      decide +kernel
    intro w win hwin
    have hmask := hmasks w (mem_keys.mpr (mem_of_lookup_eq_some hwin))
    rw [show (initialWindows (fun _ => ∅)).lookup w = some win from hwin] at hmask
    simpa using hmask
  · intro conn hconn win hw
    obtain rfl := some.inj ((Session.put_connections _ _ _).symm.trans hconn)
    exact absurd (by decide +kernel : rootWindow ∈ firstClient.windows) hw
  · rw [show (deliverEvent rootWindow structureNotify [22]
      (watched.session.view watcher.toConnection)).1 = [[22]] from hpushed]
    simp

def createWatched : CreateWindowRequest :=
  { depth := 0, wid := 0x400001, parent := rootWindow, x := 0, y := 0, width := 1, height := 1,
    borderWidth := 0, winClass := 0, visual := 0, eventMask := some structureNotify }

def serverOrder : List XId :=
  [rootWindow, wmCheckWindow, xsettingsWindow, systemTrayWindow, ximWindow]

def owner : ClientState := (handleCreateWindow createWatched firstClient).1

def published : ClientState := syncWindows serverOrder owner

def stranger : ClientState := acceptClient 2 false 0 1 [] published.shared

/-- The newcomer has the owner's mask in its copy of the window and takes it for
its own. -/
theorem stranger_gets_event :
    ¬ ∀ (props : XId → HashMap Atom PropertyValue) (selections : HashMap Atom SelectionOwner)
      (as : List SelectAction) (t : Audience),
      Run SelectStep (Audience.start props selections) as t →
      ∀ (c : ClientId) (conn : Connection), t.session.connections c = some conn →
      ∀ (w : XId) (mask : Nat) (event : Bytes),
        ((deliverEvent w mask event (t.session.view conn)).1 ≠ [] → t.selected c w &&& mask ≠ 0) ∧
          ∀ (as' : List SelectAction) (t' : Audience) (conn' : Connection),
            Run SelectStep (Audience.start props selections) as' t' →
            t'.session.connections c = some conn' → t'.selected c w = t.selected c w →
            (deliverEvent w mask event (t'.session.view conn')).1 =
              (deliverEvent w mask event (t.session.view conn)).1 := by
  intro h
  have hrun := h (fun _ => ∅) ∅ [.connect 1 false 0 0 [], .createWindow 1 createWatched,
    .sync 1 serverOrder, .connect 2 false 0 1 []] _
    (.cons (.connect rfl) (.cons (.createWindow (Session.put_connections _ _ _))
      (.cons (.sync (Session.put_connections _ _ _)
        (by decide +kernel : Enumerates serverOrder owner.shared.windows))
        (.cons (.connect rfl) (.nil _)))))
    2 stranger.toConnection (Session.put_connections _ _ _) 0x400001 structureNotify [22]
  have hpushed : (deliverEvent 0x400001 structureNotify [22] stranger).1 = [[22]] := by
    decide +kernel
  apply hrun.1
  · intro hemp
    have hnone : (deliverEvent 0x400001 structureNotify [22] stranger).1 = [] := hemp
    rw [hpushed] at hnone
    simp at hnone
  · dsimp only
    rw [update_self]
    exact Nat.zero_and _

end X11Web.EventSelection
