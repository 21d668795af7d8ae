import X11Web.Stacking

namespace X11Web.MapReparent

open HashMaps LinkedForest Windows WindowTree Ewmh
  X11Web.Stacking

variable {s s' : ClientState}

/-- The request goes to a window manager or redirector instead of being done. -/
def substructureRedirected (s : ClientState) (win : WindowState) : Bool :=
  !win.overrideRedirect && win.parent != 0 &&
    (s.shared.wmClientId.any (· != s.clientId) || windowSelects s win.parent substructureRedirect)

def isTopLevel (win : WindowState) : Bool :=
  win.parent == rootWindow && win.winClass == inputOutput && !win.overrideRedirect

def wmStateValue (win : WindowState) : PropertyValue :=
  let state := if isTopLevel win ∧ win.wmHintsInitialState.getD 1 = 3 then 3 else 1
  ⟨Predef.wmState, 32, toLeBytes32 state ++ [0, 0, 0, 0]⟩

def placeByHints (hint : Option (Int × Int)) (win : WindowState) : WindowState :=
  match hint with
  | some (hx, hy) => if isTopLevel win then { win with x := hx, y := hy } else win
  | none => win

def setMapped (win : WindowState) : WindowState :=
  let mapped := insertProperty Predef.wmState (wmStateValue win) { win with mapped := true }
  if (win.properties.lookup Predef.netWmState).isSome then mapped
  else insertProperty Predef.netWmState ⟨Predef.atom, 32, []⟩ mapped

/-- Put a transient window right above the window it belongs to, where both are
children of the root. -/
def raiseTransient (w : XId) (s : ClientState) : ClientState :=
  match (s.windows.lookup w).bind (·.transientFor) with
  | none => s
  | some owner =>
    let order := ((s.windows.lookup rootWindow).map (·.childrenOrder)).getD []
    if owner ∈ order ∧ w ∈ order then restackChild rootWindow w (aboveSibling owner) s else s

def mapWindow (w : XId) (win : WindowState) (s : ClientState) : ClientState :=
  let hint := getSizeHintsPosition s w
  let s₁ := updateWindow w (fun win => setMapped (placeByHints hint win)) s
  let s₂ := if isTopLevel win then setAllowedActions w s₁ else s₁
  let s₃ := restackByWindowType w win.parent (markWindowSharedDirty w s₂)
  let s₄ := updateNetClientList (raiseTransient w s₃)
  if isTopLevel win && win.wmHintsInput.getD true then setFocusWindow w s₄ else s₄

def handleMapWindow (w : XId) (s : ClientState) : ClientState × Response :=
  match s.windows.lookup w with
  | none => (s, .error .window w 8)
  | some win =>
    if substructureRedirected s win then (s, .ok)
    else if win.mapped then (s, .ok)
    else if !uuidKnown s w then (s, .ok)
    else (mapWindow w win s, .ok)

structure ReparentWindowRequest where
  window : XId
  parent : XId
  x : Int
  y : Int

def relinkWindow (req : ReparentWindowRequest) (oldParent : XId) (s : ClientState) : ClientState :=
  let s₁ := updateWindow oldParent (unlistChild req.window) s
  let s₂ := updateWindow req.window (placeUnder req.parent req.x req.y) s₁
  updateWindow req.parent (pushChild req.window) (markWindowSharedDirty req.window s₂)

def handleReparentWindow (req : ReparentWindowRequest) (s : ClientState) :
    ClientState × Response :=
  match s.windows.lookup req.window with
  | none => (s, .error .window req.window 7)
  | some win =>
    if req.parent ∉ s.windows then (s, .error .window req.parent 7)
    else if req.window = req.parent ∨ isDescendantOf s.windows req.parent req.window then
      (s, .error .match_ req.window 7)
    else
      let unmapped := if win.mapped then
        updateWindow req.window (fun w => { w with mapped := false }) s else s
      let relinked := relinkWindow req win.parent unmapped
      if win.mapped then ((handleMapWindow req.window relinked).1, .ok) else (relinked, .ok)

theorem outline_setMapped (win : WindowState) : outline (setMapped win) = outline win := by
  unfold setMapped
  dsimp only
  split
  · rfl
  · rfl

theorem outline_placeByHints (hint : Option (Int × Int)) (win : WindowState) :
    outline (placeByHints hint win) = outline win := by
  unfold placeByHints
  cases hint with
  | none => rfl
  | some p =>
    dsimp only
    split
    · rfl
    · rfl

theorem raiseTransient_rearranged (w : XId) (s : ClientState) :
    Rearranged s (raiseTransient w s) := by
  rw [raiseTransient]
  split
  · exact .same (.refl s)
  · next owner _ =>
    dsimp only
    split
    · next h =>
      refine .restack (.inr ?_) (restackChild_restack rootWindow w _ s (aboveSibling_le owner))
      rw [childrenIn_links]
      cases hr : s.windows.lookup rootWindow with
      | none => simp [hr] at h
      | some root => simpa [hr] using h.2
    · exact .same (.refl s)

theorem mapWindow_rearranged {w : XId} {win : WindowState} (h : s.windows.lookup w = some win) :
    Rearranged s (mapWindow w win s) := by
  unfold mapWindow
  set s₁ := updateWindow w (fun win => setMapped (placeByHints (getSizeHintsPosition s w) win)) s
  set s₂ := if isTopLevel win then setAllowedActions w s₁ else s₁
  have h₁ : SameTree s s₁ := by
    apply (SameTree.refl s).updateWindow
    intro win
    rw [outline_setMapped, outline_placeByHints]
  have h₂ : SameTree s (markWindowSharedDirty w s₂) := by
    apply SameTree.markWindowSharedDirty
    simp only [s₂]
    split
    · exact h₁.trans (setAllowedActions_sameTree w s₁)
    · exact h₁
  have hpar : parentOf (links (markWindowSharedDirty w s₂).windows) w = some win.parent := by
    rw [h₂.links]
    simp [parentOf_links, h]
  have h₃ := (Rearranged.same h₂).trans
    (.restack (.inl hpar) (restackByWindowType_restack w win.parent _))
  have h₄ := (h₃.trans (raiseTransient_rearranged w _)).trans
    (.same (updateNetClientList_sameTree _))
  dsimp only
  split
  · exact h₄.trans (.same (setFocusWindow_sameTree w _))
  · exact h₄

theorem handleMapWindow_rearranged (w : XId) (s : ClientState) :
    Rearranged s (handleMapWindow w s).1 := by
  rw [handleMapWindow]
  cases h : s.windows.lookup w with
  | none => exact .same (.refl s)
  | some win =>
    dsimp only
    split
    · exact .same (.refl s)
    · split
      · exact .same (.refl s)
      · split
        · exact .same (.refl s)
        · exact mapWindow_rearranged h

/-- An accepted ReparentWindow relinks the window; if it was mapped, mapping it
again may restack it. -/
structure Reparented (window parent : XId) (s s' : ClientState) : Prop where
  present : parent ∈ s.windows
  apart : window ≠ parent
  checked : isDescendantOf s.windows parent window = false
  relinked : ∃ p mid, parentOf (links s.windows) window = some p ∧
    links mid.windows = edit parent (addChild window) (edit window (setParent parent)
      (edit p (dropChild window) (links s.windows))) ∧
    (∀ v, (mid.windows.lookup v).map (·.ownerClientId) =
      (s.windows.lookup v).map (·.ownerClientId)) ∧
    mid.shared = s.shared ∧ mid.clientId = s.clientId ∧ Rearranged mid s'

variable (req : ReparentWindowRequest)

theorem relinkWindow_links (p : XId) (s : ClientState) :
    links (relinkWindow req p s).windows = edit req.parent (addChild req.window)
      (edit req.window (setParent req.parent) (edit p (dropChild req.window)
        (links s.windows))) := by
  rw [← links_unlistChild, ← links_placeUnder _ _ _ req.x req.y, ← links_pushChild]
  rfl

theorem relinkWindow_rest (p : XId) (s : ClientState) :
    (relinkWindow req p s).shared = s.shared ∧ (relinkWindow req p s).clientId = s.clientId :=
  ⟨rfl, rfl⟩

theorem relinkWindow_owner (p : XId) (s : ClientState) (v : XId) :
    ((relinkWindow req p s).windows.lookup v).map (·.ownerClientId) =
      (s.windows.lookup v).map (·.ownerClientId) := by
  have h₁ := owner_modify s.windows p v (unlistChild req.window) (fun _ => rfl)
  have h₂ := owner_modify (modify p (unlistChild req.window) s.windows) req.window v
    (placeUnder req.parent req.x req.y) (fun _ => rfl)
  exact (owner_modify _ req.parent v (pushChild req.window) (fun _ => rfl)).trans (h₂.trans h₁)

theorem handleReparentWindow_reparented {req : ReparentWindowRequest} {win : WindowState}
    (hwin : s.windows.lookup req.window = some win) (hpar : req.parent ∈ s.windows)
    (hne : req.window ≠ req.parent)
    (hcheck : isDescendantOf s.windows req.parent req.window = false) :
    Reparented req.window req.parent s (handleReparentWindow req s).1 := by
  set unmapped := if win.mapped then
    updateWindow req.window (fun w => { w with mapped := false }) s else s with hu
  have hsame : SameTree s unmapped := by
    simp only [hu]
    split
    · apply (SameTree.refl s).updateWindow
      intro win
      rfl
    · exact .refl s
  have hshd : unmapped.shared = s.shared := by
    simp only [hu]
    split <;> rfl
  have hrest := relinkWindow_rest req win.parent unmapped
  refine ⟨hpar, hne, hcheck, win.parent, relinkWindow req win.parent unmapped, ?_, ?_, ?_,
    hrest.1.trans hshd, hrest.2.trans hsame.clientId, ?_⟩
  · simp [parentOf_links, hwin]
  · rw [relinkWindow_links, hsame.links]
  · intro v
    rw [relinkWindow_owner, hsame.owner]
  · rw [handleReparentWindow]
    simp only [hwin, hpar, hne, hcheck, not_true_eq_false, if_false, false_or,
      Bool.false_eq_true, ← hu]
    split
    · exact handleMapWindow_rearranged req.window _
    · exact .same (.refl _)

theorem handleReparentWindow_cases (s : ClientState) : (handleReparentWindow req s).1 = s ∨
      Reparented req.window req.parent s (handleReparentWindow req s).1 := by
  cases hwin : s.windows.lookup req.window with
  | none => exact .inl (by simp [handleReparentWindow, hwin])
  | some win =>
    by_cases hpar : req.parent ∈ s.windows
    · by_cases hdesc : req.window = req.parent ∨ isDescendantOf s.windows req.parent req.window
      · exact .inl (by simp [handleReparentWindow, hwin, hpar, hdesc])
      · obtain ⟨hne, hcheck⟩ := not_or.mp hdesc
        exact .inr (handleReparentWindow_reparented hwin hpar hne (by simpa using hcheck))
    · exact .inl (by simp [handleReparentWindow, hwin, hpar])

end X11Web.MapReparent
