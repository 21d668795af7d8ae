import X11Web.Links
import X11Web.SelectionOwners

namespace X11Web.SelectionClears

open HashMaps Windows Selections SelectionOwners Runs List Option Function

structure OwnerRequest where
  client : ClientId
  env : Surroundings
  req : SetSelectionOwnerRequest

def setOwner (t : SelectionWorld) (r : OwnerRequest) : SelectionWorld × Deliveries :=
  match t.connections r.client with
  | none => (t, [])
  | some conn =>
    let (s, sent, _) := handleSetSelectionOwner r.env r.req (t.view conn)
    (t.put r.client s, sent)

def ownerWindow (t : SelectionWorld) (a : Atom) : Option XId := (t.shared.selections.lookup a).map (·.window)

def Owns (t : SelectionWorld) (c : ClientId) (w : XId) : Prop :=
  ∃ conn, t.connections c = some conn ∧ w ∈ conn.connection.x11ToUuid

def isClearOf (a : Atom) : SelectionEvent → Bool
  | .selectionClear _ _ b => b == a
  | _ => false

def clearsOf (a : Atom) (sent : Deliveries) : Deliveries := sent.filter (fun d => isClearOf a d.2)

/-- For every selection: one SelectionClear to the client whose window loses it, and none
if no client's window does. -/
def Exact (t : SelectionWorld) (r : OwnerRequest) : Prop :=
  ∀ a, (∀ w c, ownerWindow t a = some w → Owns t c w → ownerWindow (setOwner t r).1 a ≠ some w →
      clearsOf a (setOwner t r).2 = [(.connection c, .selectionClear r.env.now w a)]) ∧
    ((∀ w c, ownerWindow t a = some w → Owns t c w → ownerWindow (setOwner t r).1 a = some w) →
      clearsOf a (setOwner t r).2 = [])

/-- The connection remembers no owner, or the one there is, or nobody owns the selection
and it remembers the window that it sets again. -/
def UpToDate (t : SelectionWorld) (r : OwnerRequest) : Prop :=
  ∀ conn, t.connections r.client = some conn → Properties.unknownAtom r.env.atoms r.req.selection = false →
    conn.selection.owners.lookup r.req.selection = none ∨
      conn.selection.owners.lookup r.req.selection = ownerWindow t r.req.selection ∨
      (ownerWindow t r.req.selection = none ∧ conn.selection.owners.lookup r.req.selection = some r.req.owner)

/-- The windows of the clients are routed to them, what a connection remembers is one of
its own windows, and a selection is a client's or the server's own. -/
structure Settled (t : SelectionWorld) : Prop where
  clientId : ∀ c conn, t.connections c = some conn → conn.connection.clientId = c
  routed : ∀ c w, Owns t c w → t.shared.eventRoutes.lookup w = some c
  clientWindow : ∀ c w, Owns t c w → w ≠ 0 ∧ w ≠ clipboardManagerWindow
  remembered : ∀ c conn a w, t.connections c = some conn → conn.selection.owners.lookup a = some w →
    w ∈ conn.connection.x11ToUuid ∧ ∀ v, ownerWindow t a = some v → ∃ d, Owns t d v
  owned : ∀ a w, ownerWindow t a = some w →
    (∃ c, Owns t c w) ∨ w = clipboardManagerWindow ∨ t.shared.eventRoutes.lookup w = none

variable {t : SelectionWorld} {r : OwnerRequest} {conn : SelectionConnection} {a : Atom} {v w : XId} {c : ClientId}

theorem setOwner_connected (hconn : t.connections r.client = some conn) :
    setOwner t r = (t.put r.client (handleSetSelectionOwner r.env r.req (t.view conn)).1,
      (handleSetSelectionOwner r.env r.req (t.view conn)).2.1) := by
  rw [setOwner, hconn]

theorem handleSetSelectionOwner_frame (env : Surroundings) (req : SetSelectionOwnerRequest) (s : Selector) :
    (handleSetSelectionOwner env req s).1.client.toConnection = s.client.toConnection ∧
      (handleSetSelectionOwner env req s).1.client.shared.eventRoutes = s.client.shared.eventRoutes := by
  rw [handleSetSelectionOwner]
  split
  · exact ⟨rfl, rfl⟩
  · dsimp only
    split
    · exact ⟨rfl, rfl⟩
    · exact ⟨rfl, rfl⟩

theorem owns_setOwner_iff (t : SelectionWorld) (r : OwnerRequest) (c : ClientId) (w : XId) :
    Owns (setOwner t r).1 c w ↔ Owns t c w := by
  cases hconn : t.connections r.client with
  | none => rw [setOwner, hconn]
  | some conn =>
    rw [setOwner_connected hconn]
    obtain ⟨hsame, -⟩ := handleSetSelectionOwner_frame r.env r.req (t.view conn)
    by_cases hc : c = r.client
    · subst hc
      simp only [Owns, put_connections, hconn, some.injEq, exists_eq_left', hsame]
      rfl
    · simp [Owns, SelectionWorld.put, update_of_ne hc]

theorem routes_setOwner (t : SelectionWorld) (r : OwnerRequest) :
    (setOwner t r).1.shared.eventRoutes = t.shared.eventRoutes := by
  cases hconn : t.connections r.client with
  | none => rw [setOwner, hconn]
  | some conn =>
    rw [setOwner_connected hconn]
    exact (handleSetSelectionOwner_frame r.env r.req (t.view conn)).2

/-- What becomes of the owners: those of the other selections stay, and the request's own
is the new window or none. -/
theorem ownerWindow_setOwner (hconn : t.connections r.client = some conn)
    (hkn : Properties.unknownAtom r.env.atoms r.req.selection = false) (a : Atom) :
    ownerWindow (setOwner t r).1 a =
      if a = r.req.selection then (if r.req.owner = 0 then none else some r.req.owner) else ownerWindow t a := by
  rw [setOwner_connected hconn]
  simp only [handleSetSelectionOwner, hkn, Bool.false_eq_true, if_false]
  by_cases hzero : r.req.owner = 0
  · simp only [hzero, if_true]
    change ((t.shared.selections.erase r.req.selection).lookup a).map (·.window) = _
    rw [lookup_erase_eq]
    split
    · rfl
    · rfl
  · simp only [hzero, if_false]
    change ((t.shared.selections.insert r.req.selection _).lookup a).map (·.window) = _
    rw [lookup_insert_eq]
    split
    · rfl
    · rfl

theorem setOwner_unknown (hkn : Properties.unknownAtom r.env.atoms r.req.selection = true) (a : Atom) :
    ownerWindow (setOwner t r).1 a = ownerWindow t a ∧ (setOwner t r).2 = [] := by
  cases hconn : t.connections r.client with
  | none =>
    rw [setOwner, hconn]
    exact ⟨rfl, rfl⟩
  | some conn =>
    rw [setOwner_connected hconn, handleSetSelectionOwner, if_pos hkn]
    exact ⟨rfl, rfl⟩

def recipient (s : Selector) (w : XId) : Option ClientId :=
  if w ∈ s.client.x11ToUuid then some s.client.clientId else s.client.shared.eventRoutes.lookup w

theorem clearPrevious_eq (env : Surroundings) (req : SetSelectionOwnerRequest) (s : Selector) :
    clearPrevious env req s =
      if s.knownOwner req.selection ≠ 0 ∧ s.knownOwner req.selection ≠ req.owner ∧
          s.knownOwner req.selection ≠ clipboardManagerWindow then
        ((recipient s (s.knownOwner req.selection)).map fun c =>
          (SelectionTx.connection c, SelectionEvent.selectionClear env.now (s.knownOwner req.selection) req.selection)).toList
      else [] := by
  simp only [clearPrevious, recipient]
  split
  · split
    · rfl
    · rfl
  · rfl

theorem clearsOf_setOwner (hconn : t.connections r.client = some conn)
    (hkn : Properties.unknownAtom r.env.atoms r.req.selection = false) (a : Atom) :
    clearsOf a (setOwner t r).2 =
      if a = r.req.selection then clearPrevious r.env r.req (t.view conn) else [] := by
  have hrep : (reportOwner r.env r.req (t.view conn)).filter (fun d => isClearOf a d.2) = [] := by
    rw [reportOwner]
    split
    · rfl
    · rfl
  have hsent : (setOwner t r).2 = clearPrevious r.env r.req (t.view conn) ++ reportOwner r.env r.req (t.view conn) := by
    rw [setOwner_connected hconn, handleSetSelectionOwner, hkn]
    rfl
  rw [hsent, clearsOf, filter_append, hrep, append_nil, clearPrevious_eq]
  split
  · cases recipient (t.view conn) ((t.view conn).knownOwner r.req.selection) with
    | none => simp
    | some d =>
      by_cases ha : a = r.req.selection
      · simp [ha, isClearOf]
      · simp [ha, isClearOf, Ne.symm ha]
  · simp

theorem Settled.recipient_eq (h : Settled t) (hconn : t.connections c = some conn) {d : ClientId} (hd : Owns t d w) :
    recipient (t.view conn) w = some d := by
  have hrt := h.routed d w hd
  rw [recipient]
  split
  · next hmem =>
    have hrt' := h.routed c w ⟨conn, hconn, hmem⟩
    have hid : (t.view conn).client.clientId = c := h.clientId c conn hconn
    rw [hid, ← hrt', hrt]
  · exact hrt

theorem Settled.recipient_none (h : Settled t) (hconn : t.connections c = some conn)
    (hw : t.shared.eventRoutes.lookup w = none) : recipient (t.view conn) w = none := by
  rw [recipient, if_neg]
  · exact hw
  · intro hmem
    have hrt := h.routed c w ⟨conn, hconn, hmem⟩
    rw [hw] at hrt
    cases hrt

theorem Settled.clearPrevious_client (h : Settled t) (hconn : t.connections r.client = some conn) {d : ClientId}
    (hd : Owns t d w) (hprev : (t.view conn).knownOwner r.req.selection = w) :
    clearPrevious r.env r.req (t.view conn) =
      if w = r.req.owner then [] else [(.connection d, .selectionClear r.env.now w r.req.selection)] := by
  obtain ⟨hzero, hmanager⟩ := h.clientWindow d w hd
  rw [clearPrevious_eq, hprev, h.recipient_eq hconn hd]
  by_cases hsame : w = r.req.owner
  · simp [hsame]
  · simp [hsame, hzero, hmanager]

theorem clearPrevious_none (hprev : (t.view conn).knownOwner r.req.selection = 0) :
    clearPrevious r.env r.req (t.view conn) = [] := by
  rw [clearPrevious_eq, hprev]
  simp

theorem knownOwner_view (t : SelectionWorld) (conn : SelectionConnection) (a : Atom) :
    (t.view conn).knownOwner a = ((conn.selection.owners.lookup a).or (ownerWindow t a)).getD 0 := rfl

theorem exact_iff (hconn : t.connections r.client = some conn)
    (hkn : Properties.unknownAtom r.env.atoms r.req.selection = false) :
    Exact t r ↔
      (∀ w c, ownerWindow t r.req.selection = some w → Owns t c w →
        (if r.req.owner = 0 then none else some r.req.owner) ≠ some w →
        clearPrevious r.env r.req (t.view conn) =
          [(.connection c, .selectionClear r.env.now w r.req.selection)]) ∧
      ((∀ w c, ownerWindow t r.req.selection = some w → Owns t c w →
        (if r.req.owner = 0 then none else some r.req.owner) = some w) →
        clearPrevious r.env r.req (t.view conn) = []) := by
  simp only [Exact, ownerWindow_setOwner hconn hkn, clearsOf_setOwner hconn hkn]
  constructor
  · intro h
    simpa using h r.req.selection
  · intro h a
    by_cases ha : a = r.req.selection
    · subst ha
      simpa using h
    · simp only [ha, if_false]
      exact ⟨fun w c hw _ hmvd => absurd hw hmvd, fun _ => trivial⟩

theorem Settled.owner_unique (h : Settled t) {d : ClientId} (hc : Owns t c w) (hd : Owns t d w) : c = d :=
  some.inj ((h.routed c w hc).symm.trans (h.routed d w hd))

theorem Settled.exact_of_known (h : Settled t) (hconn : t.connections r.client = some conn)
    (hkn : Properties.unknownAtom r.env.atoms r.req.selection = false)
    (hprev : (t.view conn).knownOwner r.req.selection = (ownerWindow t r.req.selection).getD 0) : Exact t r := by
  rw [exact_iff hconn hkn]
  cases hcur : ownerWindow t r.req.selection with
  | none =>
    rw [hcur] at hprev
    exact ⟨fun w c hw => (by cases hw), fun _ => clearPrevious_none hprev⟩
  | some w =>
    rw [hcur, getD_some] at hprev
    by_cases hcl : ∃ d, Owns t d w
    · obtain ⟨d, hd⟩ := hcl
      rw [h.clearPrevious_client hconn hd hprev]
      have hmvd : (if r.req.owner = 0 then none else some r.req.owner) ≠ some w ↔ w ≠ r.req.owner := by
        have hzero := (h.clientWindow d w hd).1
        split
        · next howner => simp [howner, hzero]
        · simp [eq_comm]
      constructor
      · intro w' c hw' hc hmove
        obtain rfl := some.inj hw'
        rw [if_neg (hmvd.mp hmove), h.owner_unique hc hd]
      · intro hstay
        rw [if_pos]
        by_contra hne
        exact hmvd.mpr hne (hstay w d rfl hd)
    · have hnothing : clearPrevious r.env r.req (t.view conn) = [] := by
        rw [clearPrevious_eq, hprev]
        rcases (h.owned r.req.selection w hcur).resolve_left hcl with rfl | hrt
        · simp
        · simp [h.recipient_none hconn hrt]
      refine ⟨fun w' c hw' hc => ?_, fun _ => hnothing⟩
      obtain rfl := some.inj hw'
      exact absurd ⟨c, hc⟩ hcl

theorem exact_of_disconnected (hconn : t.connections r.client = none) : Exact t r := by
  intro a
  rw [setOwner, hconn]
  exact ⟨fun w c hw _ hmvd => absurd hw hmvd, fun _ => rfl⟩

theorem exact_of_unknown (hkn : Properties.unknownAtom r.env.atoms r.req.selection = true) : Exact t r := by
  intro a
  obtain ⟨hsame, hsent⟩ := setOwner_unknown hkn a (t := t)
  rw [hsame, hsent]
  exact ⟨fun w c hw _ hmvd => absurd hw hmvd, fun _ => rfl⟩

/-- A remembered window that is another's no longer decides, and the one that loses the selection is not told. -/
theorem Settled.not_exact_of_stale (h : Settled t) (hconn : t.connections r.client = some conn)
    (hkn : Properties.unknownAtom r.env.atoms r.req.selection = false)
    (hcache : conn.selection.owners.lookup r.req.selection = some v)
    (hcur : ownerWindow t r.req.selection = some w) (hvw : v ≠ w) : ¬ Exact t r := by
  intro hexact
  obtain ⟨hv, hcls⟩ := h.remembered r.client conn r.req.selection v hconn hcache
  obtain ⟨d, hd⟩ := hcls w hcur
  have hvOwn : Owns t r.client v := ⟨conn, hconn, hv⟩
  have hprev : (t.view conn).knownOwner r.req.selection = v := by
    rw [knownOwner_view, hcache, some_or, getD_some]
  have hsent := h.clearPrevious_client hconn hvOwn hprev
  obtain ⟨hlost, hkept⟩ := (exact_iff hconn hkn).mp hexact
  by_cases hstay : (if r.req.owner = 0 then none else some r.req.owner) = some w
  · have hnone := hkept (fun w' c hw' _ => hcur.symm.trans hw' ▸ hstay)
    rw [hsent] at hnone
    split at hnone
    · next howner =>
      rw [← howner, if_neg (h.clientWindow r.client v hvOwn).1] at hstay
      exact hvw (some.inj hstay)
    · cases hnone
  · have hone := hlost w d hcur hd hstay
    rw [hsent] at hone
    split at hone
    · cases hone
    · simp only [List.cons.injEq, Prod.mk.injEq, SelectionEvent.selectionClear.injEq] at hone
      exact hvw hone.1.2.2.1

theorem Settled.exact_iff_of_unowned (h : Settled t) (hconn : t.connections r.client = some conn)
    (hkn : Properties.unknownAtom r.env.atoms r.req.selection = false)
    (hcache : conn.selection.owners.lookup r.req.selection = some v)
    (hcur : ownerWindow t r.req.selection = none) : Exact t r ↔ v = r.req.owner := by
  obtain ⟨hv, -⟩ := h.remembered r.client conn r.req.selection v hconn hcache
  have hprev : (t.view conn).knownOwner r.req.selection = v := by
    rw [knownOwner_view, hcache, some_or, getD_some]
  have hsent := h.clearPrevious_client hconn ⟨conn, hconn, hv⟩ hprev
  have hunowned : ∀ w, ownerWindow t r.req.selection ≠ some w := by simp [hcur]
  rw [exact_iff hconn hkn, hsent]
  constructor
  · intro hexact
    have hnone := hexact.2 (fun w _ hw => absurd hw (hunowned w))
    by_contra howner
    rw [if_neg howner] at hnone
    cases hnone
  · intro howner
    exact ⟨fun w _ hw => absurd hw (hunowned w), fun _ => if_pos howner⟩

theorem Settled.exact_iff_upToDate (h : Settled t) : Exact t r ↔ UpToDate t r := by
  cases hconn : t.connections r.client with
  | none => exact iff_of_true (exact_of_disconnected hconn) (fun conn hconn' => by rw [hconn] at hconn'; cases hconn')
  | some conn =>
    cases hkn : Properties.unknownAtom r.env.atoms r.req.selection with
    | true => exact iff_of_true (exact_of_unknown hkn) (fun conn _ hkn' => by rw [hkn] at hkn'; cases hkn')
    | false =>
      have hdate : UpToDate t r ↔ conn.selection.owners.lookup r.req.selection = none ∨
          conn.selection.owners.lookup r.req.selection = ownerWindow t r.req.selection ∨
          (ownerWindow t r.req.selection = none ∧
            conn.selection.owners.lookup r.req.selection = some r.req.owner) := by
        simp [UpToDate, hconn, hkn]
      have hprev := knownOwner_view t conn r.req.selection
      rw [hdate]
      cases hcache : conn.selection.owners.lookup r.req.selection with
      | none =>
        rw [hcache, none_or] at hprev
        exact iff_of_true (h.exact_of_known hconn hkn hprev) (.inl rfl)
      | some v =>
        rw [hcache, some_or, getD_some] at hprev
        cases hcur : ownerWindow t r.req.selection with
        | some w =>
          by_cases hvw : v = w
          · subst hvw
            exact iff_of_true (h.exact_of_known hconn hkn (by rw [hprev, hcur]; rfl)) (.inr (.inl rfl))
          · exact iff_of_false (h.not_exact_of_stale hconn hkn hcache hcur hvw) (by simp [hvw])
        | none =>
          rw [h.exact_iff_of_unowned hconn hkn hcache hcur]
          simp

def OwnWindow (t : SelectionWorld) (r : OwnerRequest) : Prop := r.req.owner = 0 ∨ Owns t r.client r.req.owner

variable {conn' : SelectionConnection}

theorem remembered_setOwner (hconn : t.connections r.client = some conn)
    (hkn : Properties.unknownAtom r.env.atoms r.req.selection = false)
    (hconn' : (setOwner t r).1.connections c = some conn') (a : Atom) (hw : conn'.selection.owners.lookup a = some w) :
    (a = r.req.selection ∧ c = r.client ∧ w = r.req.owner ∧ w ≠ 0) ∨
      ∃ conn, t.connections c = some conn ∧ conn.selection.owners.lookup a = some w := by
  rw [setOwner_connected hconn, handleSetSelectionOwner, hkn] at hconn'
  by_cases hc : c = r.client
  · subst hc
    obtain rfl := some.inj ((put_connections t r.client _).symm.trans hconn')
    by_cases hzero : r.req.owner = 0
    · simp only [hzero, Bool.false_eq_true, if_false, if_true] at hw
      change (conn.selection.owners.erase r.req.selection).lookup a = some w at hw
      rw [lookup_erase_eq] at hw
      split at hw
      · cases hw
      · exact .inr ⟨conn, hconn, hw⟩
    · simp only [hzero, Bool.false_eq_true, if_false] at hw
      change (conn.selection.owners.insert r.req.selection r.req.owner).lookup a = some w at hw
      rw [lookup_insert_eq] at hw
      split at hw
      · next ha =>
        obtain rfl := some.inj hw
        exact .inl ⟨ha, rfl, rfl, hzero⟩
      · exact .inr ⟨conn, hconn, hw⟩
  · refine .inr ⟨conn', ?_, hw⟩
    simpa [SelectionWorld.put, update_of_ne hc] using hconn'

theorem setOwner_eq_of_unknown (hconn : t.connections r.client = some conn)
    (hkn : Properties.unknownAtom r.env.atoms r.req.selection = true) : (setOwner t r).1 = t := by
  rw [setOwner_connected hconn, handleSetSelectionOwner, if_pos hkn]
  have hupdate : update t.connections r.client (some conn) = t.connections := by
    rw [← hconn, update_eq_self]
  change { t with connections := update t.connections r.client (some conn) } = t
  rw [hupdate]

theorem Settled.clientId_setOwner (h : Settled t) (hconn : t.connections r.client = some conn)
    (hconn' : (setOwner t r).1.connections c = some conn') :
    conn'.connection.clientId = c := by
  rw [setOwner_connected hconn] at hconn'
  by_cases hc : c = r.client
  · subst hc
    obtain rfl := some.inj ((put_connections t r.client _).symm.trans hconn')
    have hfrm := (handleSetSelectionOwner_frame r.env r.req (t.view conn)).1
    exact (congrArg Connection.clientId hfrm).trans (h.clientId r.client conn hconn)
  · exact h.clientId c conn' (by simpa [SelectionWorld.put, update_of_ne hc] using hconn')

theorem OwnWindow.owns (hown : OwnWindow t r)
    (hv : (if r.req.owner = 0 then none else some r.req.owner) = some v) : Owns t r.client v := by
  split at hv
  · cases hv
  · next hzero => exact some.inj hv ▸ hown.resolve_left hzero

theorem Settled.remembered_setOwner (h : Settled t) (hown : OwnWindow t r)
    (hconn : t.connections r.client = some conn) (hkn : Properties.unknownAtom r.env.atoms r.req.selection = false)
    {a : Atom} (hconn' : (setOwner t r).1.connections c = some conn')
    (hw : conn'.selection.owners.lookup a = some w) :
    Owns t c w ∧ ∀ v, ownerWindow (setOwner t r).1 a = some v → ∃ d, Owns t d v := by
  obtain ⟨rfl, rfl, rfl, hzero⟩ | ⟨conn₀, hconn₀, hcache⟩ :=
    SelectionClears.remembered_setOwner hconn hkn hconn' a hw
  · refine ⟨hown.resolve_left hzero, fun v hv => ?_⟩
    rw [ownerWindow_setOwner hconn hkn, if_pos rfl] at hv
    exact ⟨r.client, hown.owns hv⟩
  · obtain ⟨hmem, hcls⟩ := h.remembered c conn₀ a w hconn₀ hcache
    refine ⟨⟨conn₀, hconn₀, hmem⟩, fun v hv => ?_⟩
    rw [ownerWindow_setOwner hconn hkn] at hv
    split at hv
    · exact ⟨r.client, hown.owns hv⟩
    · exact hcls v hv

theorem Settled.setOwner (h : Settled t) (hown : OwnWindow t r) : Settled (setOwner t r).1 := by
  cases hconn : t.connections r.client with
  | none =>
    rw [SelectionClears.setOwner, hconn]
    exact h
  | some conn =>
    cases hkn : Properties.unknownAtom r.env.atoms r.req.selection with
    | true =>
      rw [setOwner_eq_of_unknown hconn hkn]
      exact h
    | false =>
      refine ⟨fun c conn' hconn' => h.clientId_setOwner hconn hconn', ?_, ?_, ?_, ?_⟩
      · intro c w hw
        rw [routes_setOwner]
        exact h.routed c w ((owns_setOwner_iff t r c w).mp hw)
      · intro c w hw
        exact h.clientWindow c w ((owns_setOwner_iff t r c w).mp hw)
      · intro c conn' a w hconn' hw
        obtain ⟨hwOwn, hcls⟩ := h.remembered_setOwner hown hconn hkn hconn' hw
        obtain ⟨conn₁, hconn₁, hmem⟩ := (owns_setOwner_iff t r c w).mpr hwOwn
        obtain rfl := some.inj (hconn'.symm.trans hconn₁)
        refine ⟨hmem, fun v hv => ?_⟩
        obtain ⟨d, hd⟩ := hcls v hv
        exact ⟨d, (owns_setOwner_iff t r d v).mpr hd⟩
      · intro a w hw
        rw [ownerWindow_setOwner hconn hkn] at hw
        rw [routes_setOwner]
        simp only [owns_setOwner_iff]
        split at hw
        · exact .inl ⟨r.client, hown.owns hw⟩
        · exact h.owned a w hw

/-- The clients have their windows, and none of them has set a selection. -/
structure Fresh (t : SelectionWorld) : Prop where
  clientId : ∀ c conn, t.connections c = some conn → conn.connection.clientId = c
  routed : ∀ c w, Owns t c w → t.shared.eventRoutes.lookup w = some c
  clientWindow : ∀ c w, Owns t c w → w ≠ 0 ∧ w ≠ clipboardManagerWindow
  empty : ∀ c conn a, t.connections c = some conn → conn.selection.owners.lookup a = none
  server : ∀ a w, ownerWindow t a = some w → w = clipboardManagerWindow ∨ t.shared.eventRoutes.lookup w = none

theorem Fresh.settled (h : Fresh t) : Settled t where
  clientId := h.clientId
  routed := h.routed
  clientWindow := h.clientWindow
  remembered := by
    intro c conn a w hconn hw
    rw [h.empty c conn a hconn] at hw
    cases hw
  owned := fun a w hw => .inr (h.server a w hw)

def afterRequests (t : SelectionWorld) (rs : List OwnerRequest) : SelectionWorld :=
  rs.foldl (fun t r => (setOwner t r).1) t

theorem owns_afterRequests_iff (t : SelectionWorld) (rs : List OwnerRequest) (c : ClientId) (w : XId) :
    Owns (afterRequests t rs) c w ↔ Owns t c w := by
  induction rs generalizing t with
  | nil => exact Iff.rfl
  | cons r rs ih => exact (ih (setOwner t r).1).trans (owns_setOwner_iff t r c w)

/-- In a run of the clients' requests the clears are exact exactly if no request is made
on an outdated memory of the owner. -/
theorem selectionClear_exact_iff (t : SelectionWorld) (hfresh : Fresh t) (rs : List OwnerRequest)
    (hown : ∀ r ∈ rs, OwnWindow t r) :
    (∀ before r, before ++ [r] <+: rs → Exact (afterRequests t before) r) ↔
      ∀ before r, before ++ [r] <+: rs → UpToDate (afterRequests t before) r := by
  have hsettled : ∀ before, before <+: rs → Settled (afterRequests t before) := by
    intro before
    induction before using List.reverseRecOn with
    | nil => exact fun _ => hfresh.settled
    | append_singleton before r ih =>
      intro hbef
      have hmem : r ∈ rs := hbef.subset (by simp)
      rw [afterRequests, foldl_concat]
      refine (ih ((prefix_append before [r]).trans hbef)).setOwner ?_
      exact (hown r hmem).imp id (owns_afterRequests_iff t before _ _).mpr
  refine forall_congr' fun before => forall_congr' fun r => ?_
  refine imp_congr_right fun hpre => ?_
  exact (hsettled before ((prefix_append before [r]).trans hpre)).exact_iff_upToDate

section Neighbours

def firstClient : ClientState :=
  (CreateDestroy.handleCreateWindow (Links.createPlain 0x400001 rootWindow) Links.loneClient).1

def secondClient : ClientState :=
  (CreateDestroy.handleCreateWindow (Links.createPlain 0x800001 rootWindow)
    (acceptClient 2 false 0 1 [] firstClient.shared)).1

def neighbours : SelectionWorld :=
  ((SelectionWorld.start (fun _ => ∅) ∅ ∅).put 1 ⟨firstClient, {}, ∅⟩).put 2 ⟨secondClient, {}, ∅⟩

theorem neighbours_connections (hconn : neighbours.connections c = some conn) :
    (c = 1 ∧ conn = ⟨firstClient.toConnection, {}⟩) ∨ (c = 2 ∧ conn = ⟨secondClient.toConnection, {}⟩) := by
  by_cases h2 : c = 2
  · subst h2
    exact .inr ⟨rfl, (some.inj ((put_connections _ 2 _).symm.trans hconn)).symm⟩
  · by_cases h1 : c = 1
    · subst h1
      have hfst := put_connections (SelectionWorld.start (fun _ => ∅) ∅ ∅) 1 ⟨firstClient, {}, ∅⟩
      exact .inl ⟨rfl, (some.inj (hfst.symm.trans hconn)).symm⟩
    · simp [neighbours, SelectionWorld.put, SelectionWorld.start, update_of_ne, h1, h2] at hconn

theorem neighbours_owns_iff : Owns neighbours c w ↔ (c = 1 ∧ w = 0x400001) ∨ (c = 2 ∧ w = 0x800001) := by
  have hfst : firstClient.x11ToUuid.keys = {0x400001} := by decide +kernel
  have hsnd : secondClient.x11ToUuid.keys = {0x800001} := by decide +kernel
  have hmemFst : w ∈ firstClient.x11ToUuid ↔ w = 0x400001 := by
    rw [← Finmap.mem_keys, hfst, Finset.mem_singleton]
  have hmemSnd : w ∈ secondClient.x11ToUuid ↔ w = 0x800001 := by
    rw [← Finmap.mem_keys, hsnd, Finset.mem_singleton]
  constructor
  · rintro ⟨conn, hconn, hmem⟩
    obtain ⟨rfl, rfl⟩ | ⟨rfl, rfl⟩ := neighbours_connections hconn
    · exact .inl ⟨rfl, hmemFst.mp hmem⟩
    · exact .inr ⟨rfl, hmemSnd.mp hmem⟩
  · rintro (⟨rfl, hw⟩ | ⟨rfl, hw⟩)
    · exact ⟨⟨firstClient.toConnection, {}⟩, by simp [neighbours, SelectionWorld.put], hmemFst.mpr hw⟩
    · exact ⟨⟨secondClient.toConnection, {}⟩, by simp [neighbours, SelectionWorld.put], hmemSnd.mpr hw⟩

theorem neighbours_fresh : Fresh neighbours where
  clientId := by
    intro c conn hconn
    obtain ⟨rfl, rfl⟩ | ⟨rfl, rfl⟩ := neighbours_connections hconn
    · decide +kernel
    · decide +kernel
  routed := by
    intro c w hw
    obtain ⟨rfl, rfl⟩ | ⟨rfl, rfl⟩ := neighbours_owns_iff.mp hw
    · decide +kernel
    · decide +kernel
  clientWindow := by
    intro c w hw
    obtain ⟨rfl, rfl⟩ | ⟨rfl, rfl⟩ := neighbours_owns_iff.mp hw
    · decide
    · decide
  empty := by
    intro c conn a hconn
    obtain ⟨rfl, rfl⟩ | ⟨rfl, rfl⟩ := neighbours_connections hconn
    · rfl
    · rfl
  server := by
    intro a w hw
    have hnone : neighbours.shared.selections.keys = ∅ := by decide +kernel
    have hlook : neighbours.shared.selections.lookup a = none := by
      rw [Finmap.lookup_eq_none, ← Finmap.mem_keys, hnone]
      exact Finset.notMem_empty a
    rw [ownerWindow, hlook] at hw
    cases hw

def takePrimary (client : ClientId) (w : XId) : OwnerRequest := ⟨client, quiet, ⟨w, 1⟩⟩

/-- The second client takes the selection from the first one, which is told. -/
theorem selectionClear_exact_taken :
    Fresh neighbours ∧ ∀ before r, before ++ [r] <+: [takePrimary 1 0x400001, takePrimary 2 0x800001] →
      Exact (afterRequests neighbours before) r := by
  refine ⟨neighbours_fresh, ?_⟩
  refine (selectionClear_exact_iff neighbours neighbours_fresh
    [takePrimary 1 0x400001, takePrimary 2 0x800001] ?_).mpr ?_
  · intro r hr
    have hcases : r = takePrimary 1 0x400001 ∨ r = takePrimary 2 0x800001 := by simpa using hr
    rcases hcases with rfl | rfl
    · exact .inr (neighbours_owns_iff.mpr (.inl ⟨rfl, rfl⟩))
    · exact .inr (neighbours_owns_iff.mpr (.inr ⟨rfl, rfl⟩))
  · rw [forall_prefix_cons, forall_prefix_cons]
    refine ⟨?_, ?_, forall_prefix_nil⟩
    · intro conn hconn _
      exact .inl (neighbours_fresh.empty 1 conn 1 hconn)
    · intro conn hconn _
      refine .inl (neighbours_fresh.empty 2 conn 1 ?_)
      simpa [afterRequests, setOwner, SelectionWorld.put, takePrimary, neighbours] using hconn

/-- The first client takes it back, and the second one is not told. -/
theorem selectionClear_lost :
    Fresh neighbours ∧ (∀ r ∈ [takePrimary 1 0x400001, takePrimary 2 0x800001, takePrimary 1 0x400001],
        OwnWindow neighbours r) ∧
      ¬ ∀ before r, before ++ [r] <+: [takePrimary 1 0x400001, takePrimary 2 0x800001, takePrimary 1 0x400001] →
        Exact (afterRequests neighbours before) r := by
  refine ⟨neighbours_fresh, fun r hr => ?_, fun h => ?_⟩
  · have hcases : r = takePrimary 1 0x400001 ∨ r = takePrimary 2 0x800001 := by
      simpa [or_comm] using hr
    rcases hcases with rfl | rfl
    · exact .inr (neighbours_owns_iff.mpr (.inl ⟨rfl, rfl⟩))
    · exact .inr (neighbours_owns_iff.mpr (.inr ⟨rfl, rfl⟩))
  · have hexact := h [takePrimary 1 0x400001, takePrimary 2 0x800001] (takePrimary 1 0x400001) prefix_rfl
    have hbef : ownerWindow (afterRequests neighbours [takePrimary 1 0x400001, takePrimary 2 0x800001]) 1 =
        some 0x800001 := by decide +kernel
    have haft : ownerWindow (setOwner (afterRequests neighbours
        [takePrimary 1 0x400001, takePrimary 2 0x800001]) (takePrimary 1 0x400001)).1 1 ≠ some 0x800001 := by
      decide +kernel
    have hsil : (clearsOf 1 (setOwner (afterRequests neighbours
        [takePrimary 1 0x400001, takePrimary 2 0x800001]) (takePrimary 1 0x400001)).2).length = 0 := by
      decide +kernel
    have howns : Owns (afterRequests neighbours [takePrimary 1 0x400001, takePrimary 2 0x800001]) 2 0x800001 :=
      (owns_afterRequests_iff _ _ _ _).mpr (neighbours_owns_iff.mpr (.inr ⟨rfl, rfl⟩))
    rw [(hexact 1).1 0x800001 2 hbef howns haft] at hsil
    cases hsil

end Neighbours

end X11Web.SelectionClears
