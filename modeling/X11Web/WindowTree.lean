import X11Web.RootedForest
import X11Web.Windows

namespace X11Web.WindowTree

open HashMaps LinkedForest RootedForest Windows

variable {m : HashMap XId WindowState}

def maxTreeDepth : Nat := 128

def isDescendantOfLoop (m : HashMap XId WindowState) (target : XId) : Nat → XId → Bool
  | 0, _ => false
  | n + 1, current =>
    match m.lookup current with
    | none => false
    | some w =>
      if w.parent = target then true
      else if w.parent = 0 then false
      else isDescendantOfLoop m target n w.parent

def isDescendantOf (m : HashMap XId WindowState) (child target : XId) : Bool :=
  isDescendantOfLoop m target maxTreeDepth child

theorem isDescendantOfLoop_of_ancestor (h0 : 0 ∉ m) {target : XId} {n d : Nat} {current : XId}
    (hd : d < n) (h : ancestor (links m) (d + 1) current = some target) :
    isDescendantOfLoop m target n current = true := by
  induction n generalizing d current with
  | zero => omega
  | succ n ih =>
    obtain ⟨p, hp, ht⟩ := ancestor_succ.mp h
    rw [parentOf_links, Option.map_eq_some_iff] at hp
    obtain ⟨w, hw, rfl⟩ := hp
    simp only [isDescendantOfLoop, hw]
    split
    · rfl
    · next hne =>
      cases d with
      | zero => exact absurd (Option.some.inj ht) hne
      | succ d =>
        split
        · next hz =>
          have hs := ancestor_present ht
          rw [links_isSome, hz] at hs
          exact absurd hs h0
        · exact ih (by omega) ht

theorem isDescendantOf_of_ancestor (h0 : 0 ∉ m) {child target : XId} {d : Nat}
    (hd : d < maxTreeDepth) (h : ancestor (links m) (d + 1) child = some target) :
    isDescendantOf m child target = true :=
  isDescendantOfLoop_of_ancestor h0 hd h

theorem ancestor_of_isDescendantOfLoop {target : XId} {n : Nat} {current : XId}
    (h : isDescendantOfLoop m target n current = true) :
    ∃ d < n, ancestor (links m) (d + 1) current = some target := by
  induction n generalizing current with
  | zero => simp [isDescendantOfLoop] at h
  | succ n ih =>
    cases hw : m.lookup current with
    | none => simp [isDescendantOfLoop, hw] at h
    | some w =>
      have hp : parentOf (links m) current = some w.parent := by simp [parentOf_links, hw]
      simp only [isDescendantOfLoop, hw] at h
      split at h
      · next he => exact ⟨0, by omega, ancestor_succ.mpr ⟨w.parent, hp, by simp [ancestor, he]⟩⟩
      · split at h
        · simp at h
        · obtain ⟨d, hd, hk⟩ := ih h
          exact ⟨d + 1, by omega, ancestor_succ.mpr ⟨w.parent, hp, hk⟩⟩

/-- The part of a window record that the tree is made of. -/
def outline (win : WindowState) : XId × List XId × Option ClientId :=
  (win.parent, win.childrenOrder, win.ownerClientId)

/-- Nothing the tree is made of changed on the way from `s` to `s'`, and the
shared registry gained no window. -/
structure SameTree (s s' : ClientState) : Prop where
  outline : ∀ w, (s'.windows.lookup w).map outline = (s.windows.lookup w).map outline
  shared : ∀ w, w ∈ s'.shared.windows → w ∈ s.shared.windows
  clientId : s'.clientId = s.clientId

variable {s s' s'' : ClientState}

theorem SameTree.refl (s : ClientState) : SameTree s s := ⟨fun _ => rfl, fun _ h => h, rfl⟩

theorem SameTree.trans (h : SameTree s s') (h' : SameTree s' s'') : SameTree s s'' :=
  ⟨fun w => (h'.outline w).trans (h.outline w), fun w hw => h.shared w (h'.shared w hw),
    h'.clientId.trans h.clientId⟩

theorem SameTree.of_eq (hw : s'.windows = s.windows)
    (hs : s'.shared.windows = s.shared.windows) (hc : s'.clientId = s.clientId) :
    SameTree s s' :=
  ⟨fun w => by rw [hw], fun w h => hs ▸ h, hc⟩

theorem SameTree.updateWindow (h : SameTree s s') (w : XId) (f : WindowState → WindowState)
    (hf : ∀ win, WindowTree.outline (f win) = WindowTree.outline win) :
    SameTree s (updateWindow w f s') :=
  h.trans ⟨fun v => lookup_modify_map WindowTree.outline w v f s'.windows hf, fun _ h => h, rfl⟩

theorem SameTree.updateSharedWindow (h : SameTree s s') (w : XId)
    (f : WindowState → WindowState) : SameTree s (updateSharedWindow w f s') :=
  h.trans ⟨fun _ => rfl, fun v h => (mem_modify w v f s'.shared.windows).mp h, rfl⟩

theorem SameTree.markWindowSharedDirty (h : SameTree s s') (w : XId) :
    SameTree s (markWindowSharedDirty w s') :=
  h.trans (.of_eq rfl rfl rfl)

theorem SameTree.links (h : SameTree s s') : links s'.windows = links s.windows := by
  funext w
  have hw := congrArg (Option.map fun o => (⟨o.1, o.2.1⟩ : Node XId)) (h.outline w)
  simpa [Windows.links, WindowTree.outline, Function.comp_def] using hw

theorem SameTree.owner (h : SameTree s s') (v : XId) :
    (s'.windows.lookup v).map (·.ownerClientId) = (s.windows.lookup v).map (·.ownerClientId) := by
  simpa [WindowTree.outline, Function.comp_def] using congrArg (Option.map fun o => o.2.2) (h.outline v)

end X11Web.WindowTree
