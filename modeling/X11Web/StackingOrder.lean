import X11Web.Links

namespace X11Web.StackingOrder

open List Option

open HashMaps Windows WindowTree Ewmh Stacking
  X11Web.MapReparent X11Web.Configure X11Web.Links

variable {s s' : ClientState} {w p sibling : XId} {cs cs' : List XId}

structure Moved (w : XId) (cs cs' : List XId) : Prop where
  perm : cs'.Perm cs
  others : without w cs' = without w cs

theorem Moved.refl (w : XId) (cs : List XId) : Moved w cs cs := ⟨.refl cs, rfl⟩

theorem without_of_notMem (h : w ∉ cs) : without w cs = cs := by
  rw [without, filter_eq_self]
  intro c hc
  exact decide_eq_true (ne_of_mem_of_not_mem hc h)

theorem notMem_without (w : XId) (cs : List XId) : w ∉ without w cs := by
  simp [without]

theorem perm_cons_without (hnd : cs.Nodup) (hw : w ∈ cs) : (w :: without w cs).Perm cs := by
  have hfilter : without w cs = cs.erase w := by
    rw [hnd.erase_eq_filter, without]
    apply filter_congr
    intro c _
    by_cases hc : c = w <;> simp [hc]
  rw [hfilter]
  exact (perm_cons_erase hw).symm

theorem insertIdx_eq_take_append_drop (cs : List XId) (w : XId) {i : Nat} (hi : i ≤ cs.length) :
    cs.insertIdx i w = cs.take i ++ w :: cs.drop i := by
  induction cs generalizing i with
  | nil =>
    obtain rfl := Nat.le_zero.mp hi
    rfl
  | cons c cs ih =>
    cases i with
    | zero => rfl
    | succ i =>
      rw [insertIdx_succ_cons, ih (Nat.le_of_succ_le_succ hi)]
      rfl

variable {pos : List XId → Nat}

theorem restack_eq (w : XId) (cs : List XId) (hpos : pos (without w cs) ≤ (without w cs).length) :
    restack w pos cs = (without w cs).take (pos (without w cs)) ++
      w :: (without w cs).drop (pos (without w cs)) :=
  insertIdx_eq_take_append_drop _ w hpos

theorem restack_moved (hpos : ∀ cs, pos cs ≤ cs.length)
    (hnd : cs.Nodup) (hw : w ∈ cs) : Moved w cs (restack w pos cs) := by
  constructor
  · rw [restack]
    exact (perm_insertIdx w _ (hpos _)).trans (perm_cons_without hnd hw)
  · have htake : w ∉ (without w cs).take (pos (without w cs)) :=
      fun h => notMem_without w cs (mem_of_mem_take h)
    have hdrop : w ∉ (without w cs).drop (pos (without w cs)) :=
      fun h => notMem_without w cs (mem_of_mem_drop h)
    rw [restack_eq w cs (hpos _), without, filter_append, filter_cons_of_neg (by simp),
      ← without, ← without, without_of_notMem htake, without_of_notMem hdrop,
      take_append_drop]

theorem findIdx?_of_mem (h : sibling ∈ cs) :
    ∃ i, ∃ hi : i < cs.length, cs.findIdx? (· == sibling) = some i ∧ cs[i] = sibling := by
  cases hi : cs.findIdx? (· == sibling) with
  | none =>
    have hnone := List.findIdx?_eq_none_iff.mp hi sibling h
    simp at hnone
  | some i =>
    obtain ⟨hlt, hget, -⟩ := List.findIdx?_eq_some_iff_getElem.mp hi
    exact ⟨i, hlt, rfl, by simpa using hget⟩

theorem restack_aboveSibling (hsib : sibling ∈ cs) (hne : sibling ≠ w) :
    [sibling, w] <:+: restack w (aboveSibling sibling) cs := by
  have hmem : sibling ∈ without w cs := by simp [without, hsib, hne]
  obtain ⟨i, hlt, hi, hat⟩ := findIdx?_of_mem hmem
  rw [restack_eq w cs (aboveSibling_le _ _), aboveSibling, hi, map_some, getD_some,
    take_add_one, List.getElem?_eq_getElem hlt, hat]
  exact ⟨(without w cs).take i, (without w cs).drop (i + 1), by simp⟩

theorem restack_belowSibling (hsib : sibling ∈ cs) (hne : sibling ≠ w) :
    [w, sibling] <:+: restack w (belowSibling sibling) cs := by
  have hmem : sibling ∈ without w cs := by simp [without, hsib, hne]
  obtain ⟨i, hlt, hi, hat⟩ := findIdx?_of_mem hmem
  rw [restack_eq w cs (belowSibling_le _ _), belowSibling, hi, getD_some,
    drop_eq_getElem_cons hlt, hat]
  exact ⟨(without w cs).take i, (without w cs).drop (i + 1), by simp⟩

def childrenOf (s : ClientState) (v : XId) : Option (List XId) :=
  (s.windows.lookup v).map (·.childrenOrder)

theorem childrenOf_restackChild (p w v : XId) (pos : List XId → Nat) (s : ClientState) :
    childrenOf (restackChild p w pos s) v =
      if v = p then (childrenOf s p).map (restack w pos) else childrenOf s v := by
  rw [childrenOf, restackChild, updateWindow, lookup_modify]
  split
  · rw [childrenOf, Option.map_map, Option.map_map]
    rfl
  · rfl

theorem childrenOf_sameTree (h : SameTree s s') (v : XId) : childrenOf s' v = childrenOf s v := by
  simpa [childrenOf, outline, Function.comp_def] using
    congrArg (Option.map fun o => o.2.1) (h.outline v)

theorem restackByOcclusion_eq (mode : Nat) (w p : XId) (occluded occludes : Bool)
    (s : ClientState) :
    restackByOcclusion mode w p occluded occludes s = s ∨
      ∃ pos, (∀ cs, pos cs ≤ cs.length) ∧
        restackByOcclusion mode w p occluded occludes s = restackChild p w pos s := by
  have htop : ∃ pos, (∀ cs : List XId, pos cs ≤ cs.length) ∧
      restackChild p w List.length s = restackChild p w pos s := ⟨_, fun _ => le_rfl, rfl⟩
  have hbot : ∃ pos, (∀ cs : List XId, pos cs ≤ cs.length) ∧
      restackChild p w (fun _ => 0) s = restackChild p w pos s := ⟨_, fun _ => Nat.zero_le _, rfl⟩
  rw [restackByOcclusion]
  by_cases h2 : mode = 2
  · cases occluded <;> simp [h2, htop]
  · by_cases h3 : mode = 3
    · cases occludes <;> simp [h3, hbot]
    · cases occluded <;> cases occludes <;> simp [h2, h3, htop, hbot]

/-- Whatever the mode, the window is taken out of one list and put back into
it, or nothing happens. -/
theorem applyStackMode_eq (mode : Nat) (w p sibling : XId) (s : ClientState) :
    applyStackMode mode w p sibling s = s ∨
      ∃ pos, (∀ cs, pos cs ≤ cs.length) ∧
        applyStackMode mode w p sibling s = restackChild p w pos s := by
  rw [applyStackMode]
  by_cases h0 : mode = 0
  · rw [if_pos h0]
    split
    · exact .inr ⟨_, aboveSibling_le sibling, rfl⟩
    · exact .inr ⟨_, topOfLayer_le _ _, rfl⟩
  · rw [if_neg h0]
    by_cases h1 : mode = 1
    · rw [if_pos h1]
      split
      · exact .inr ⟨_, belowSibling_le sibling, rfl⟩
      · exact .inr ⟨_, bottomOfLayer_le _ _, rfl⟩
    · rw [if_neg h1]
      dsimp only
      split
      · exact restackByOcclusion_eq mode w p _ _ s
      · exact .inl rfl

/-- The child list `cs'` of `p` after a step that moved at most `w` in it, with
all other child lists as before. -/
structure MovedIn (w p : XId) (cs : List XId) (s s' : ClientState) (cs' : List XId) : Prop where
  lookup : childrenOf s' p = some cs'
  moved : Moved w cs cs'
  frame : ∀ v, v ≠ p → childrenOf s' v = childrenOf s v

theorem MovedIn.refl (hp : childrenOf s p = some cs) (w : XId) : MovedIn w p cs s s cs :=
  ⟨hp, .refl w cs, fun _ _ => rfl⟩

theorem restackChild_movedIn (hpos : ∀ cs, pos cs ≤ cs.length)
    (hp : childrenOf s p = some cs) (hnd : cs.Nodup) (hw : w ∈ cs) :
    MovedIn w p cs s (restackChild p w pos s) (restack w pos cs) := by
  refine ⟨?_, restack_moved hpos hnd hw, ?_⟩
  · rw [childrenOf_restackChild, if_pos rfl, hp, map_some]
  · intro v hv
    rw [childrenOf_restackChild, if_neg hv]

theorem applyStackMode_movedIn (mode : Nat) (sibling : XId) (hp : childrenOf s p = some cs)
    (hnd : cs.Nodup) (hw : w ∈ cs) :
    ∃ cs', MovedIn w p cs s (applyStackMode mode w p sibling s) cs' := by
  obtain heq | ⟨pos, hpos, heq⟩ := applyStackMode_eq mode w p sibling s
  · rw [heq]
    exact ⟨cs, .refl hp w⟩
  · rw [heq]
    exact ⟨_, restackChild_movedIn hpos hp hnd hw⟩

structure Beside (mode : Nat) (w sibling : XId) (cs : List XId) : Prop where
  above : mode = 0 → [sibling, w] <:+: cs
  below : mode = 1 → [w, sibling] <:+: cs

theorem applyStackMode_beside {mode : Nat} (hp : childrenOf s p = some cs) (h0 : sibling ≠ 0)
    (hne : sibling ≠ w) (hsib : sibling ∈ cs)
    (hcs' : childrenOf (applyStackMode mode w p sibling s) p = some cs') :
    Beside mode w sibling cs' := by
  constructor
  · rintro rfl
    rw [applyStackMode, if_pos rfl, if_pos h0, childrenOf_restackChild, if_pos rfl, hp] at hcs'
    rw [← some.inj hcs']
    exact restack_aboveSibling hsib hne
  · rintro rfl
    rw [applyStackMode, if_neg (by decide), if_pos rfl, if_pos h0, childrenOf_restackChild,
      if_pos rfl, hp] at hcs'
    rw [← some.inj hcs']
    exact restack_belowSibling hsib hne

/-- What a ConfigureWindow request does to the child lists: it stops with all of
them alone, or it restacks its window after changes that leave them alone. -/
def Stacks (req : ConfigureWindowRequest) (win : WindowState) (s : ClientState)
    (r : ClientState × Response) : Prop :=
  SameTree s r.1 ∧ (r.2 = .ok → req.stackMode = none) ∨
    ∃ mode s₁, req.stackMode = some mode ∧ SameTree s s₁ ∧
      r.1 = applyStackMode mode req.window win.parent (req.sibling.getD 0) s₁

variable (req : ConfigureWindowRequest)

theorem stackWindow_stacks (win : WindowState)
    (h : SameTree s s') : Stacks req win s (stackWindow req win s') := by
  rw [Stacks, stackWindow]
  cases req.stackMode with
  | none => exact .inl ⟨h, fun _ => rfl⟩
  | some mode =>
    dsimp only
    split
    · exact .inl ⟨h, fun hok => by cases hok⟩
    · exact .inr ⟨mode, s', rfl, h, rfl⟩

variable {win : WindowState}

theorem applyGeometry_ne_ok {req : ConfigureWindowRequest} {width height : Option Nat}
    {hints : Option SizeHints} {r : Response}
    (h : (applyGeometry req width height hints win).2 = some r) : r ≠ .ok := by
  rintro rfl
  rw [applyGeometry] at h
  dsimp only at h
  split at h
  · simp at h
  · split at h
    · simp at h
    · split at h
      · simp at h
      · simp at h

theorem configureWindow_stacks (width height : Option Nat) (win : WindowState) (s : ClientState) :
    Stacks req win s (configureWindow req width height win s) := by
  have hgeo : SameTree s (updateWindow req.window
      (fun w => (applyGeometry req width height (getSizeHints s req.window) w).1) s) :=
    (SameTree.refl s).updateWindow _ _ (outline_applyGeometry req width height _)
  rw [configureWindow]
  dsimp only
  split
  · next r hr => exact .inl ⟨hgeo, fun hok => absurd hok (applyGeometry_ne_ok hr)⟩
  · apply stackWindow_stacks
    split
    · exact (hgeo.markWindowSharedDirty _).trans (resizeChildren_sameTree _ _ _ _)
    · exact hgeo

theorem handleConfigureWindow_stacks (hwin : s.windows.lookup req.window = some win) :
    substructureRedirected s win = true ∧ (handleConfigureWindow req s).1 = s ∨
      Stacks req win s (handleConfigureWindow req s) := by
  rw [handleConfigureWindow, hwin]
  dsimp only
  split
  · next h => exact .inl ⟨h, rfl⟩
  · split
    · exact .inr (configureWindow_stacks req none none win s)
    · exact .inr (configureWindow_stacks req req.width req.height win s)

theorem movedIn_of_sameTree (h : SameTree s s') (hp : childrenOf s p = some cs) (w : XId) :
    MovedIn w p cs s s' cs := by
  refine ⟨?_, .refl w cs, fun v _ => childrenOf_sameTree h v⟩
  rw [childrenOf_sameTree h, hp]

theorem handleConfigureWindow_movedIn {req : ConfigureWindowRequest}
    (hwin : s.windows.lookup req.window = some win) (hp : childrenOf s win.parent = some cs)
    (hnd : cs.Nodup) (hw : req.window ∈ cs) :
    ∃ cs', MovedIn req.window win.parent cs s (handleConfigureWindow req s).1 cs' := by
  obtain ⟨-, heq⟩ | ⟨hsame, -⟩ | ⟨mode, s₁, -, h₁, heq⟩ := handleConfigureWindow_stacks req hwin
  · rw [heq]
    exact ⟨cs, .refl hp _⟩
  · exact ⟨cs, movedIn_of_sameTree hsame hp _⟩
  · rw [heq]
    have hp₁ : childrenOf s₁ win.parent = some cs := by rw [childrenOf_sameTree h₁, hp]
    obtain ⟨cs', h⟩ := applyStackMode_movedIn mode (req.sibling.getD 0) hp₁ hnd hw
    refine ⟨cs', h.lookup, h.moved, fun v hv => ?_⟩
    rw [h.frame v hv, childrenOf_sameTree h₁]

theorem handleConfigureWindow_beside {req : ConfigureWindowRequest}
    {mode : Nat} (hwin : s.windows.lookup req.window = some win)
    (hp : childrenOf s win.parent = some cs) (hmode : req.stackMode = some mode)
    (hsibling : req.sibling = some sibling) (h0 : sibling ≠ 0) (hne : sibling ≠ req.window)
    (hsib : sibling ∈ cs) (hdone : substructureRedirected s win = false)
    (hok : (handleConfigureWindow req s).2 = .ok)
    (hcs' : childrenOf (handleConfigureWindow req s).1 win.parent = some cs') :
    Beside mode req.window sibling cs' := by
  obtain ⟨hredirected, -⟩ | ⟨-, hnone⟩ | ⟨mode', s₁, hmode', h₁, heq⟩ :=
    handleConfigureWindow_stacks req hwin
  · simp [hredirected] at hdone
  · simp [hnone hok] at hmode
  · obtain rfl := some.inj (hmode.symm.trans hmode')
    rw [heq, hsibling, getD_some] at hcs'
    exact applyStackMode_beside ((childrenOf_sameTree h₁ _).trans hp) h0 hne hsib hcs'

theorem handleCirculateWindow_movedIn (direction : Nat) (hp : childrenOf s p = some cs)
    (hnd : cs.Nodup) :
    ∃ w cs', MovedIn w p cs s (handleCirculateWindow direction p s).1 cs' := by
  obtain ⟨win, hwin, rfl⟩ := map_eq_some_iff.mp hp
  rw [handleCirculateWindow, hwin]
  dsimp only
  split
  · exact ⟨0, _, .refl hp 0⟩
  · split
    · exact ⟨0, _, .refl hp 0⟩
    · split
      · exact ⟨0, _, .refl hp 0⟩
      · next target htgt =>
        have hmem : target ∈ win.childrenOrder := by
          split at htgt
          · exact (mem_filter.mp (mem_of_mem_head? htgt)).1
          · exact (mem_filter.mp (mem_of_getLast? htgt)).1
        split
        · exact ⟨target, _, restackChild_movedIn (fun _ => le_rfl) hp hnd hmem⟩
        · exact ⟨target, _, restackChild_movedIn (fun _ => Nat.zero_le _) hp hnd hmem⟩

/-- The XSETTINGS window of the root, put above the window of the input method. -/
def raiseXsettings : ConfigureWindowRequest where
  window := xsettingsWindow
  sibling := some ximWindow
  stackMode := some 0

section Layered

variable {layer : XId → Nat} {target : Nat}

def Layered (layer : XId → Nat) (cs : List XId) : Prop := cs.Pairwise (fun a b => layer a ≤ layer b)

theorem topOfLayer_concat (layer : XId → Nat) (target : Nat) (cs : List XId) (c : XId) :
    topOfLayer layer target (cs ++ [c]) =
      if layer c ≤ target then cs.length + 1 else topOfLayer layer target cs := by
  rw [topOfLayer, topOfLayer, reverse_append, reverse_singleton,
    singleton_append, List.findIdx?_cons]
  by_cases h : layer c ≤ target
  · simp [h]
  · cases hcs : cs.reverse.findIdx? (fun c => decide (layer c ≤ target)) with
    | none => simp [h]
    | some k => simp [h]

theorem lt_of_mem_drop_topOfLayer (layer : XId → Nat) (target : Nat) (cs : List XId) :
    ∀ c ∈ cs.drop (topOfLayer layer target cs), target < layer c := by
  induction cs using List.reverseRecOn with
  | nil => simp
  | append_singleton cs a ih =>
    rw [topOfLayer_concat]
    split
    · simp
    · next h =>
      rw [drop_append_of_le_length (topOfLayer_le _ _ _)]
      intro c hc
      obtain hc | hc := mem_append.mp hc
      · exact ih c hc
      · rw [mem_singleton.mp hc]
        exact Nat.lt_of_not_le h

theorem le_of_mem_take_topOfLayer (h : Layered layer cs) :
    ∀ c ∈ cs.take (topOfLayer layer target cs), layer c ≤ target := by
  induction cs using List.reverseRecOn with
  | nil => simp
  | append_singleton cs a ih =>
    obtain ⟨hcs, -, hlast⟩ := pairwise_append.mp h
    rw [topOfLayer_concat]
    split
    · next ha =>
      intro c hc
      obtain hc | hc := mem_append.mp (mem_of_mem_take hc)
      · exact (hlast c hc a (mem_singleton_self a)).trans ha
      · rwa [mem_singleton.mp hc]
    · rw [take_append_of_le_length (topOfLayer_le _ _ _)]
      exact ih hcs

theorem bottomOfLayer_cons (layer : XId → Nat) (target : Nat) (c : XId) (cs : List XId) :
    bottomOfLayer layer target (c :: cs) =
      if target ≤ layer c then 0 else bottomOfLayer layer target cs + 1 := by
  rw [bottomOfLayer, List.findIdx?_cons, bottomOfLayer]
  by_cases h : target ≤ layer c
  · simp [h]
  · cases hcs : cs.findIdx? (fun c => decide (target ≤ layer c)) with
    | none => simp [h]
    | some k => simp [h]

theorem lt_of_mem_take_bottomOfLayer (layer : XId → Nat) (target : Nat) (cs : List XId) :
    ∀ c ∈ cs.take (bottomOfLayer layer target cs), layer c < target := by
  induction cs with
  | nil => simp
  | cons a cs ih =>
    rw [bottomOfLayer_cons]
    split
    · simp
    · next h =>
      intro c hc
      obtain rfl | hc := mem_cons.mp hc
      · exact Nat.lt_of_not_le h
      · exact ih c hc

theorem le_of_mem_drop_bottomOfLayer (h : Layered layer cs) :
    ∀ c ∈ cs.drop (bottomOfLayer layer target cs), target ≤ layer c := by
  induction cs with
  | nil => simp
  | cons a cs ih =>
    obtain ⟨hfst, hcs⟩ := pairwise_cons.mp h
    rw [bottomOfLayer_cons]
    split
    · next ha =>
      intro c hc
      obtain rfl | hc := mem_cons.mp hc
      · exact ha
      · exact ha.trans (hfst c hc)
    · exact ih hcs

/-- The list is `below`, then `w`, then `above`; `w` is in neither part. -/
structure Split (w : XId) (cs below above : List XId) : Prop where
  eq : cs = below ++ w :: above
  notMem : w ∉ below ++ above

/-- The list is layered, and nothing above `w` is in the layer of `w`. -/
def Topmost (layer : XId → Nat) (w : XId) (cs : List XId) : Prop :=
  Layered layer cs ∧ ∃ below above, Split w cs below above ∧ ∀ c ∈ above, layer w < layer c

/-- The list is layered, and nothing below `w` is in the layer of `w`. -/
def Bottommost (layer : XId → Nat) (w : XId) (cs : List XId) : Prop :=
  Layered layer cs ∧ ∃ below above, Split w cs below above ∧ ∀ c ∈ below, layer c < layer w

theorem restack_split (hpos : ∀ cs, pos cs ≤ cs.length) (w : XId) (cs : List XId) :
    Split w (restack w pos cs) ((without w cs).take (pos (without w cs)))
      ((without w cs).drop (pos (without w cs))) := by
  refine ⟨restack_eq w cs (hpos _), ?_⟩
  rw [take_append_drop]
  exact notMem_without w cs

theorem Split.layered {below above : List XId} (h : Split w cs below above)
    (hrest : Layered layer (below ++ above)) (hbel : ∀ c ∈ below, layer c ≤ layer w)
    (habove : ∀ c ∈ above, layer w ≤ layer c) : Layered layer cs := by
  obtain ⟨hb, ha, hba⟩ := pairwise_append.mp hrest
  rw [h.eq]
  refine pairwise_append.mpr ⟨hb, pairwise_cons.mpr ⟨habove, ha⟩, ?_⟩
  intro c hc d hd
  obtain rfl | hd := mem_cons.mp hd
  · exact hbel c hc
  · exact hba c hc d hd

theorem restack_topmost (h : Layered layer (without w cs)) :
    Topmost layer w (restack w (topOfLayer layer (layer w)) cs) := by
  have hspl := restack_split (topOfLayer_le layer (layer w)) w cs
  have habove := lt_of_mem_drop_topOfLayer layer (layer w) (without w cs)
  refine ⟨hspl.layered ?_ (le_of_mem_take_topOfLayer h) (fun c hc => (habove c hc).le),
    _, _, hspl, habove⟩
  rwa [take_append_drop]

theorem restack_bottommost (h : Layered layer (without w cs)) :
    Bottommost layer w (restack w (bottomOfLayer layer (layer w)) cs) := by
  have hspl := restack_split (bottomOfLayer_le layer (layer w)) w cs
  have hbel := lt_of_mem_take_bottomOfLayer layer (layer w) (without w cs)
  refine ⟨hspl.layered ?_ (fun c hc => (hbel c hc).le) (le_of_mem_drop_bottomOfLayer h),
    _, _, hspl, hbel⟩
  rwa [take_append_drop]

end Layered

theorem layerOf_restackChild (p w : XId) (pos : List XId → Nat) (s : ClientState) :
    layerOf (restackChild p w pos s) = layerOf s := by
  funext c
  rw [layerOf, restackChild, updateWindow, lookup_modify_map, ← layerOf]
  intro win
  rfl

/-- Over children that are layered apart from `w`, raising `w` by its window
type and lowering it without a sibling keep the whole list layered, with `w` at
the top and at the bottom of its own layer. -/
theorem restacking_layered (s : ClientState) (w p : XId) (cs : List XId)
    (hp : childrenOf s p = some cs) (hcs : Layered (layerOf s) (without w cs)) :
    (∃ cs', childrenOf (restackByWindowType w p s) p = some cs' ∧
      Topmost (layerOf (restackByWindowType w p s)) w cs') ∧
    ∃ cs', childrenOf (applyStackMode 1 w p 0 s) p = some cs' ∧
      Bottommost (layerOf (applyStackMode 1 w p 0 s)) w cs' := by
  constructor
  · rw [restackByWindowType, layerOf_restackChild]
    refine ⟨_, ?_, restack_topmost hcs⟩
    rw [childrenOf_restackChild, if_pos rfl, hp, map_some]
  · have heq : applyStackMode 1 w p 0 s =
        restackChild p w (bottomOfLayer (layerOf s) (layerOf s w)) s := rfl
    rw [heq, layerOf_restackChild]
    refine ⟨_, ?_, restack_bottommost hcs⟩
    rw [childrenOf_restackChild, if_pos rfl, hp, map_some]

theorem restacking_layered_xsettings :
    Layered (layerOf loneClient) [wmCheckWindow, systemTrayWindow, ximWindow] ∧
      ∃ cs', childrenOf (applyStackMode 1 xsettingsWindow rootWindow 0 loneClient) rootWindow =
          some cs' ∧
        Bottommost (layerOf (applyStackMode 1 xsettingsWindow rootWindow 0 loneClient))
          xsettingsWindow cs' := by
  have hcs : Layered (layerOf loneClient) [wmCheckWindow, systemTrayWindow, ximWindow] := by
    unfold Layered
    decide
  exact ⟨hcs, (restacking_layered loneClient xsettingsWindow rootWindow
    [wmCheckWindow, xsettingsWindow, systemTrayWindow, ximWindow] rfl hcs).2⟩

end X11Web.StackingOrder
