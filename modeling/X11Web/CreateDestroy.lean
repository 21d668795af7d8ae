import X11Web.Ewmh

namespace X11Web.CreateDestroy

open HashMaps LinkedForest Windows WindowTree Ewmh

variable {s s' : ClientState}

/-- The request's value list is kept as far as a check or a stored field reads it. -/
structure CreateWindowRequest where
  depth : Nat
  wid : XId
  parent : XId
  x : Int
  y : Int
  width : Nat
  height : Nat
  borderWidth : Nat
  winClass : Nat
  visual : Nat
  bitGravity : Option Nat := none
  winGravity : Option Nat := none
  backingStore : Option Nat := none
  overrideRedirect : Option Nat := none
  eventMask : Option Nat := none
  cursor : Option XId := none

def resolveClass (s : ClientState) (req : CreateWindowRequest) : Nat :=
  if req.winClass = 0 then ((s.windows.lookup req.parent).map (·.winClass)).getD inputOutput
  else req.winClass

/-- The checks of CreateWindow in their order; the first that fails answers. -/
def createWindowError (s : ClientState) (req : CreateWindowRequest) : Option Response :=
  if ¬ validateResourceId s req.wid then some (.error .idChoice req.wid 1)
  else if req.wid ∈ s.windows ∨ req.wid ∈ s.shared.windows then
    some (.error .idChoice req.wid 1)
  else if ¬ canCreateWindow s then some (.error .alloc req.wid 1)
  else if req.parent ≠ rootWindow ∧ req.parent ∉ s.windows ∧ req.parent ∉ s.shared.windows then
    some (.error .window req.parent 1)
  else if req.width = 0 ∨ req.height = 0 ∨ req.width > 32767 ∨ req.height > 32767 then
    some (.error .value req.width 1)
  else if req.depth ≠ 0 ∧ resolveClass s req ≠ inputOnly ∧
      req.depth ≠ depthForVisual (if req.visual = 0 then rootVisual else req.visual) then
    some (.error .match_ 0 1)
  else if req.bitGravity.getD 0 > 10 then some (.error .value (req.bitGravity.getD 0) 1)
  else if req.winGravity.getD 1 > 10 then some (.error .value (req.winGravity.getD 1) 1)
  else if req.backingStore.getD 0 > 2 then some (.error .value (req.backingStore.getD 0) 1)
  else if req.cursor.getD 0 ≠ 0 ∧ req.cursor.getD 0 ∉ s.cursors then
    some (.error .cursor (req.cursor.getD 0) 1)
  else if req.eventMask.getD 0 ≠ 0 ∧
      checkRedirectConflict s.shared req.parent (req.eventMask.getD 0) s.clientId then
    some (.error .access 0 1)
  else none

def createVisual (s : ClientState) (req : CreateWindowRequest) : Nat :=
  if req.visual ≠ 0 then req.visual
  else ((s.windows.lookup req.parent).map (·.visual)).elim rootVisual
    (fun v => if v ≠ 0 then v else rootVisual)

def newWindow (s : ClientState) (req : CreateWindowRequest) : WindowState :=
  let input := resolveClass s req == inputOnly
  { id := req.wid
    parent := req.parent
    x := req.x
    y := req.y
    width := req.width
    height := req.height
    borderWidth := if input then 0 else req.borderWidth
    visual := createVisual s req
    depth := if input then 0 else depthForVisual (createVisual s req)
    winClass := resolveClass s req
    mapped := false
    eventMask := req.eventMask.getD 0
    overrideRedirect := req.overrideRedirect.getD 0 != 0
    redirected := false
    properties := ∅
    ownerClientId := some s.clientId
    childrenOrder := []
    retainedTemporary := false
    wmHintsInitialState := none
    transientFor := none
    windowType := .normal
    strut := none
    wmHintsInput := none }

def setInitialProperties (s : ClientState) (win : WindowState) : WindowState :=
  let framed := insertProperty Predef.netFrameExtents
    ⟨Predef.cardinal, 32, List.replicate 16 0⟩ win
  let identified := if s.peerPid > 0 then
      insertProperty Predef.netWmPid ⟨Predef.cardinal, 32, toLeBytes32 s.peerPid⟩ framed
    else framed
  insertProperty Predef.wmClientMachine ⟨Predef.string, 8, s.hostname⟩ identified

def registerWindow (w : XId) (s : ClientState) : ClientState :=
  let (s', uuid) := getOrCreateWindowUuid w s
  sendUpdate (.windowCreated uuid) s'

def createWindow (req : CreateWindowRequest) (s : ClientState) : ClientState :=
  let mask := req.eventMask.getD 0
  let inserted := { s with
    windows := s.windows.insert req.wid (newWindow s req)
    shared := if mask ≠ 0 then subscribe req.wid s.clientId mask s.shared else s.shared
    bitGravity := s.bitGravity.insert req.wid (req.bitGravity.getD 0)
    winGravity := s.winGravity.insert req.wid (req.winGravity.getD 1) }
  let linked := updateWindow req.parent (pushChild req.wid) inserted
  markWindowSharedDirty req.wid (registerWindow req.wid
    (updateWindow req.wid (setInitialProperties s) linked))

def handleCreateWindow (req : CreateWindowRequest) (s : ClientState) : ClientState × Response :=
  match createWindowError s req with
  | some r => (s, r)
  | none => (createWindow req s, .ok)

/-- Forget the UUID of a destroyed window and tell the frontend. -/
def detachUuid (w : XId) (s : ClientState) : ClientState :=
  match s.x11ToUuid.lookup w with
  | none => s
  | some uuid => sendUpdate (.windowDestroyed uuid) { s with
      x11ToUuid := s.x11ToUuid.erase w
      shared := { s.shared with windowRoutes := s.shared.windowRoutes.erase uuid } }

def removeLocalWindow (w : XId) (s : ClientState) : ClientState :=
  { s with
    windows := s.windows.erase w
    shared := { s.shared with windowIndex := s.shared.windowIndex.erase w } }

def removeSharedWindow (w : XId) (s : ClientState) : ClientState :=
  { s with shared := { s.shared with windows := s.shared.windows.erase w } }

def destroyOne (s : ClientState) (w : XId) : ClientState :=
  detachUuid w (removeSharedWindow w (recycleXid w (removeLocalWindow w s)))

def childrenOf (m : HashMap XId WindowState) (w : XId) : List XId :=
  (m.lookup w).elim [] (·.childrenOrder)

/-- DestroyWindow. The fuel bounds how many windows the descendant loop pops;
`none` means that it is still running. -/
def handleDestroyWindow (fuel : Nat) (wid : XId) (s : ClientState) :
    Option (ClientState × Response) :=
  match s.windows.lookup wid with
  | none => some (s, .error .window wid 4)
  | some win =>
    let s₁ := revertFocusFrom wid s
    match collect (childrenOf s₁.windows) fuel (childrenOf s₁.windows wid).reverse [] with
    | none => none
    | some descendants =>
      let s₂ := descendants.foldl (fun s d => revertFocusFrom d s) s₁
      let s₃ := descendants.reverse.foldl destroyOne s₂
      let s₄ := updateWindow win.parent (unlistChild wid) s₃
      let s₅ := updateNetClientList (destroyOne s₄ wid)
      some (if win.strut.isSome then recalculateWorkarea s₅ else s₅, .ok)

/-- The ids of the windows whose parent is `p`, in the order in which the map
iterates over its keys. -/
def childrenByScan (order : List XId) (m : HashMap XId WindowState) (p : XId) : List XId :=
  order.filterMap (fun k => (m.lookup k).bind (fun w => if w.parent = p then some w.id else none))

def dropDescendant (s : ClientState) (w : XId) : ClientState :=
  detachUuid w (removeLocalWindow w s)

def handleDestroySubwindows (order : List XId) (fuel : Nat) (parent : XId) (s : ClientState) :
    Option (ClientState × Response) :=
  match s.windows.lookup parent with
  | none => some (s, .error .window parent 5)
  | some _ =>
    let scan := childrenByScan order s.windows
    match collect scan fuel (scan parent).reverse [] with
    | none => none
    | some descendants =>
      let s₁ := if s.focusWindow ∈ descendants then revertFocusFrom s.focusWindow s else s
      let s₂ := descendants.foldl (fun s d => removeSharedWindow d s) s₁
      some (descendants.foldl dropDescendant s₂, .ok)

variable (w : XId)

theorem registerWindow_sameTree (s : ClientState) : SameTree s (registerWindow w s) := by
  rw [registerWindow, getOrCreateWindowUuid]
  cases s.x11ToUuid.lookup w with
  | none => exact .of_eq rfl rfl rfl
  | some uuid => exact .of_eq rfl rfl rfl

theorem registerWindow_windows (s : ClientState) : (registerWindow w s).windows = s.windows ∧
      (registerWindow w s).shared.windows = s.shared.windows := by
  rw [registerWindow, getOrCreateWindowUuid]
  cases s.x11ToUuid.lookup w with
  | none => exact ⟨rfl, rfl⟩
  | some uuid => exact ⟨rfl, rfl⟩

variable (req : CreateWindowRequest)

theorem createWindow_windows (s : ClientState) :
    (createWindow req s).windows = modify req.wid (setInitialProperties s)
      (modify req.parent (pushChild req.wid) (s.windows.insert req.wid (newWindow s req))) :=
  (registerWindow_windows req.wid _).1

theorem outline_setInitialProperties (s : ClientState) (win : WindowState) :
    outline (setInitialProperties s win) = outline win := by
  unfold setInitialProperties
  dsimp only
  split
  · rfl
  · rfl

theorem subscribe_windows (client : ClientId) (mask : Nat) (sh : Shared) :
    (subscribe w client mask sh).windows = sh.windows := rfl

/-- An accepted CreateWindow hangs a fresh leaf of the client under its parent. -/
structure Created (req : CreateWindowRequest) (s s' : ClientState) : Prop where
  fresh : req.wid ∉ s.windows
  parent : req.parent ∈ s.windows ∨ req.parent ∈ s.shared.windows ∨ req.parent = rootWindow
  links : links s'.windows = edit req.parent (addChild req.wid)
    (Function.update (links s.windows) req.wid (some ⟨req.parent, []⟩))
  owner : ∀ v, (s'.windows.lookup v).map (·.ownerClientId) =
    if v = req.wid then some (some s.clientId) else (s.windows.lookup v).map (·.ownerClientId)
  shared : ∀ v, v ∈ s'.shared.windows → v ∈ s.shared.windows
  clientId : s'.clientId = s.clientId

theorem ite_some_eq_none {α : Type} {c : Prop} [Decidable c] {a : α} {b : Option α} :
    (if c then some a else b) = none ↔ ¬ c ∧ b = none := by
  by_cases h : c
  · simp [h]
  · simp [h]

theorem createWindowError_none {req : CreateWindowRequest} (h : createWindowError s req = none) :
    req.wid ∉ s.windows ∧
      (req.parent ∈ s.windows ∨ req.parent ∈ s.shared.windows ∨ req.parent = rootWindow) := by
  simp only [createWindowError, ite_some_eq_none] at h
  obtain ⟨-, hused, -, hpar, -⟩ := h
  refine ⟨fun hw => hused (.inl hw), ?_⟩
  by_contra hno
  push Not at hno
  exact hpar ⟨hno.2.2, hno.1, hno.2.1⟩

theorem createWindow_created {req : CreateWindowRequest} (h : createWindowError s req = none) :
    Created req s (createWindow req s) := by
  obtain ⟨hfresh, hpar⟩ := createWindowError_none h
  set inserted : ClientState := { s with
    windows := s.windows.insert req.wid (newWindow s req)
    shared := if req.eventMask.getD 0 ≠ 0 then
      subscribe req.wid s.clientId (req.eventMask.getD 0) s.shared else s.shared
    bitGravity := s.bitGravity.insert req.wid (req.bitGravity.getD 0)
    winGravity := s.winGravity.insert req.wid (req.winGravity.getD 1) } with hinsd
  set linked := updateWindow req.parent (pushChild req.wid) inserted
  have hsame : SameTree linked (createWindow req s) := by
    apply SameTree.markWindowSharedDirty
    refine SameTree.trans ?_ (registerWindow_sameTree req.wid _)
    exact (SameTree.refl linked).updateWindow _ _ (outline_setInitialProperties s)
  have hshd : inserted.shared.windows = s.shared.windows := by
    simp only [hinsd]
    split
    · exact subscribe_windows _ _ _ _
    · rfl
  have hown : ∀ v, (linked.windows.lookup v).map (·.ownerClientId) =
      if v = req.wid then some (some s.clientId)
      else (s.windows.lookup v).map (·.ownerClientId) := by
    intro v
    have hpar := owner_modify inserted.windows req.parent v (pushChild req.wid) (fun _ => rfl)
    refine hpar.trans ?_
    rw [hinsd]
    simp only [lookup_insert_eq]
    split
    · rfl
    · rfl
  refine ⟨hfresh, hpar, ?_, ?_, ?_, hsame.clientId⟩
  · rw [hsame.links]
    refine (links_pushChild inserted.windows req.parent req.wid).trans ?_
    rw [hinsd, links_insert]
    rfl
  · intro v
    rw [hsame.owner]
    exact hown v
  · intro v hv
    have hv' := hsame.shared v hv
    rw [← hshd]
    exact hv'

theorem createWindow_registries (s : ClientState) :
    (createWindow req s).shared.subscriptions = (if req.eventMask.getD 0 ≠ 0 then
        subscribe req.wid s.clientId (req.eventMask.getD 0) s.shared else s.shared).subscriptions ∧
      (createWindow req s).shared.wmClientId = s.shared.wmClientId := by
  have hreg : ∀ s' : ClientState,
      (registerWindow req.wid s').shared.subscriptions = s'.shared.subscriptions ∧
        (registerWindow req.wid s').shared.wmClientId = s'.shared.wmClientId := by
    intro s'
    rw [registerWindow, getOrCreateWindowUuid]
    cases s'.x11ToUuid.lookup req.wid with
    | none => exact ⟨rfl, rfl⟩
    | some uuid => exact ⟨rfl, rfl⟩
  obtain ⟨hsubs, hwm⟩ := hreg _
  refine ⟨hsubs, hwm.trans ?_⟩
  change (if _ then _ else _ : Shared).wmClientId = _
  split
  · rfl
  · rfl

theorem handleCreateWindow_cases (s : ClientState) : (handleCreateWindow req s).1 = s ∨
      createWindowError s req = none ∧ Created req s (handleCreateWindow req s).1 := by
  rw [handleCreateWindow]
  cases h : createWindowError s req with
  | some r => exact .inl rfl
  | none => exact .inr ⟨rfl, createWindow_created h⟩

theorem detachUuid_fields (s : ClientState) :
    (detachUuid w s).windows = s.windows ∧ (detachUuid w s).shared.windows = s.shared.windows ∧
      (detachUuid w s).clientId = s.clientId := by
  rw [detachUuid]
  cases s.x11ToUuid.lookup w with
  | none => exact ⟨rfl, rfl, rfl⟩
  | some uuid => exact ⟨rfl, rfl, rfl⟩

theorem recycleXid_fields (s : ClientState) :
    (recycleXid w s).windows = s.windows ∧ (recycleXid w s).shared.windows = s.shared.windows ∧
      (recycleXid w s).clientId = s.clientId := by
  rw [recycleXid]
  split
  · exact ⟨rfl, rfl, rfl⟩
  · exact ⟨rfl, rfl, rfl⟩

theorem destroyOne_fields (s : ClientState) (w : XId) :
    (destroyOne s w).windows = s.windows.erase w ∧
      (destroyOne s w).shared.windows = s.shared.windows.erase w ∧
      (destroyOne s w).clientId = s.clientId := by
  obtain ⟨hw, hs, hc⟩ := detachUuid_fields w (removeSharedWindow w (recycleXid w (removeLocalWindow w s)))
  obtain ⟨hw', hs', hc'⟩ := recycleXid_fields w (removeLocalWindow w s)
  refine ⟨hw.trans ?_, hs.trans ?_, hc.trans ?_⟩
  · exact hw'
  · change (recycleXid w (removeLocalWindow w s)).shared.windows.erase w = _
    rw [hs']
    rfl
  · exact hc'

theorem foldl_destroyOne_fields (ds : List XId) (s : ClientState) :
    (ds.foldl destroyOne s).windows = eraseAll ds s.windows ∧
      (ds.foldl destroyOne s).shared.windows = eraseAll ds s.shared.windows ∧
      (ds.foldl destroyOne s).clientId = s.clientId := by
  induction ds generalizing s with
  | nil => exact ⟨rfl, rfl, rfl⟩
  | cons d ds ih =>
    obtain ⟨hw, hs, hc⟩ := ih (destroyOne s d)
    obtain ⟨hw', hs', hc'⟩ := destroyOne_fields s d
    rw [List.foldl_cons, hw, hs, hc, hw', hs', hc']
    exact ⟨rfl, rfl, rfl⟩

theorem foldl_sameTree {α : Type} (step : ClientState → α → ClientState)
    (hstep : ∀ s a, SameTree s (step s a)) (as : List α) (s : ClientState) :
    SameTree s (as.foldl step s) := by
  induction as generalizing s with
  | nil => exact .refl s
  | cons a as ih => exact (hstep s a).trans (ih (step s a))

/-- A DestroyWindow that comes to its end takes the collected subtree out of
both window maps and out of the parent's list. -/
structure Destroyed (wid : XId) (s s' : ClientState) : Prop where
  pruned : ∃ p r fuel, parentOf (links s.windows) wid = some p ∧
    collect (childrenIn (links s.windows)) fuel (childrenIn (links s.windows) wid).reverse [] =
      some r ∧
    links s'.windows = prune wid p r (links s.windows) ∧
    ∀ v, v ∈ s'.shared.windows → v ∈ s.shared.windows ∧ v ∉ r ∧ v ≠ wid
  owner : ∀ v o, (s'.windows.lookup v).map (·.ownerClientId) = some o →
    (s.windows.lookup v).map (·.ownerClientId) = some o
  clientId : s'.clientId = s.clientId

theorem childrenOf_eq (m : HashMap XId WindowState) : childrenOf m = childrenIn (links m) := by
  funext w
  rw [childrenIn_links]
  rfl

theorem handleDestroyWindow_destroyed {fuel : Nat} {wid : XId} {win : WindowState} {r : Response}
    (hwin : s.windows.lookup wid = some win) (h : handleDestroyWindow fuel wid s = some (s', r)) :
    Destroyed wid s s' := by
  rw [handleDestroyWindow] at h
  simp only [hwin] at h
  have hfoc := revertFocusFrom_sameTree wid s
  rw [childrenOf_eq, hfoc.links] at h
  cases hcol : collect (childrenIn (links s.windows)) fuel
      (childrenIn (links s.windows) wid).reverse [] with
  | none => simp [hcol] at h
  | some ds =>
    simp only [hcol, Option.some.injEq, Prod.mk.injEq] at h
    set s₂ := ds.foldl (fun s d => revertFocusFrom d s) (revertFocusFrom wid s) with hs₂
    set s₃ := ds.reverse.foldl destroyOne s₂ with hs₃
    set s₄ := updateWindow win.parent (unlistChild wid) s₃ with hs₄
    set s₅ := destroyOne s₄ wid with hs₅
    have hbef : SameTree s s₂ :=
      hfoc.trans (foldl_sameTree _ (fun s d => revertFocusFrom_sameTree d s) ds _)
    have haft : SameTree s₅ s' := by
      rw [← h.1]
      split
      · exact (updateNetClientList_sameTree s₅).trans (recalculateWorkarea_sameTree _)
      · exact updateNetClientList_sameTree s₅
    obtain ⟨hw₃, hsh₃, hc₃⟩ := foldl_destroyOne_fields ds.reverse s₂
    obtain ⟨hw₅, hsh₅, hc₅⟩ := destroyOne_fields s₄ wid
    have hpar : parentOf (links s.windows) wid = some win.parent := by
      simp [parentOf_links, hwin]
    have hlinks₄ : links s₄.windows = edit win.parent (dropChild wid)
        (fun v => if v ∈ ds then none else links s.windows v) := by
      refine (links_unlistChild s₃.windows win.parent wid).trans ?_
      rw [hw₃, links_eraseAll, hbef.links]
      simp only [List.mem_reverse]
    refine ⟨⟨win.parent, ds, fuel, hpar, hcol, ?_, ?_⟩, ?_, ?_⟩
    · rw [haft.links, hw₅, links_erase, hlinks₄]
      rfl
    · intro v hv
      have hv₅ := haft.shared v hv
      rw [hsh₅] at hv₅
      obtain ⟨hvw, hv₄⟩ := Finmap.mem_erase.mp hv₅
      change v ∈ s₃.shared.windows at hv₄
      rw [hsh₃, mem_eraseAll, List.mem_reverse] at hv₄
      exact ⟨hbef.shared v hv₄.2, hv₄.1, hvw⟩
    · intro v o ho
      rw [haft.owner, hw₅, lookup_erase_eq] at ho
      split at ho
      · simp at ho
      · have hkeep := owner_modify s₃.windows win.parent v (unlistChild wid) (fun _ => rfl)
        replace ho := hkeep.symm.trans ho
        rw [hw₃, lookup_eraseAll] at ho
        split at ho
        · simp at ho
        · rwa [hbef.owner] at ho
    · rw [haft.clientId, hc₅]
      change s₃.clientId = s.clientId
      rw [hc₃, hbef.clientId]

theorem handleDestroyWindow_cases {fuel : Nat} {wid : XId} {r : Response}
    (h : handleDestroyWindow fuel wid s = some (s', r)) : s' = s ∨ Destroyed wid s s' := by
  cases hwin : s.windows.lookup wid with
  | none =>
    simp only [handleDestroyWindow, hwin, Option.some.injEq, Prod.mk.injEq] at h
    exact .inl h.1.symm
  | some win => exact .inr (handleDestroyWindow_destroyed hwin h)

end X11Web.CreateDestroy
