import X11Web.TeardownFrame

namespace X11Web.SaveSet

open HashMaps Windows WindowTree SyncWindows CreateDestroy List Finmap
open Links Teardown TeardownFrame

/-- Every window but the root is listed once by a parent that is there, and no
window of the save-set has got lost. -/
structure TreeSaved (saveSet : List XId) (before after : WindowMap) : Prop where
  listed : ∀ w win, after.lookup w = some win → w ≠ rootWindow →
    ∃ p, after.lookup win.parent = some p ∧ p.childrenOrder.count w = 1
  kept : ∀ w ∈ saveSet, w ∈ before → w ∈ after

def moveWindow (w old p : XId) (m : WindowMap) : WindowMap :=
  modify p (pushChild w) (modify w (setParentTo p) (modify old (unlistChild w) m))

/-- The windows of the save-set that are below a window of the client, each
with its closest ancestor that is not the client's. A window that has been moved
is met at its new place by those after it. -/
def savePlan (me : ClientId) : List XId → WindowMap → List (XId × XId)
  | [], _ => []
  | w :: ws, m =>
    match m.lookup w with
    | none => savePlan me ws m
    | some win =>
      if isInferior me m w maxTreeDepth win.parent then
        let p := closestForeign me m maxTreeDepth win.parent
        (w, p) :: savePlan me ws (moveWindow w win.parent p m)
      else savePlan me ws m

def plan (s : ClientState) : List (XId × XId) := savePlan s.clientId s.saveSet s.windows

/-- The windows of the client's UUID table that the save-set does not save. -/
def Doomed (s : ClientState) (w : XId) : Prop := w ∈ s.x11ToUuid ∧ w ∉ (plan s).map Prod.fst

/-- The shared tree needs no edit but the removal of leaves: the windows that are
moved are there already, and what is destroyed has no survivor below it. -/
structure SavedInPlace (s : ClientState) : Prop where
  inPlace : ∀ w p win, (w, p) ∈ plan s → s.shared.windows.lookup w = some win → w ≠ rootWindow →
    win.parent = p
  parents : ∀ w win, s.shared.windows.lookup w = some win → w ≠ rootWindow → ¬ Doomed s w →
    ¬ Doomed s win.parent
  spared : ∀ w ∈ s.saveSet, w ∈ s.shared.windows → ¬ Doomed s w

variable {me : ClientId} {s s' : ClientState} {ws saved : List XId} {m : WindowMap}
variable {moves : List (XId × XId)} {order : IterationOrder} {w p : XId} {win : WindowState}

def setParents (moves : List (XId × XId)) (m : WindowMap) : WindowMap :=
  moves.foldl (fun m move => modify move.1 (setParentTo move.2) m) m

def movedTo (moves : List (XId × XId)) (w old : XId) : XId := (moves.lookup w).getD old

theorem savePlan_sublist (me : ClientId) (ws : List XId) (m : WindowMap) :
    ((savePlan me ws m).map Prod.fst).Sublist ws := by
  induction ws generalizing m with
  | nil => exact .slnil
  | cons w ws ih =>
    rw [savePlan]
    split
    · exact (ih m).cons w
    · split
      · exact (ih _).cons_cons w
      · exact (ih m).cons w

theorem foldl_saveWindow (ws : List XId) (s : ClientState) (saved : List XId) :
    (ws.foldl saveWindow (s, saved)).2 = saved ++ (savePlan s.clientId ws s.windows).map Prod.fst ∧
      (ws.foldl saveWindow (s, saved)).1.shared.windows =
        setParents (savePlan s.clientId ws s.windows) s.shared.windows := by
  induction ws generalizing s saved with
  | nil => exact ⟨(append_nil saved).symm, rfl⟩
  | cons w ws ih =>
    rw [foldl_cons, saveWindow, savePlan]
    dsimp only
    cases s.windows.lookup w with
    | none => exact ih s saved
    | some win =>
      dsimp only
      split
      · obtain ⟨hsaved, hshd⟩ := ih _ (saved ++ [w])
        refine ⟨hsaved.trans ?_, hshd⟩
        rw [append_assoc]
        rfl
      · exact ih s saved

theorem processSaveSet_plan (s : ClientState) :
    (processSaveSet (releaseServerGrab s)).2 = (plan s).map Prod.fst ∧
      (processSaveSet (releaseServerGrab s)).1.shared.windows =
        setParents (plan s) s.shared.windows :=
  foldl_saveWindow s.saveSet { releaseServerGrab s with saveSet := [] } []

theorem lookup_of_notMem (h : w ∉ moves.map Prod.fst) : moves.lookup w = none := by
  rw [lookup_eq_none_iff]
  intro move hmove
  rw [bne_iff_ne]
  rintro rfl
  exact h (mem_map_of_mem hmove)

theorem lookup_of_mem (hnd : (moves.map Prod.fst).Nodup) (h : (w, p) ∈ moves) :
    moves.lookup w = some p := by
  induction moves with
  | nil => simp at h
  | cons move moves ih =>
    obtain ⟨v, q⟩ := move
    obtain ⟨hmove, hmvs⟩ := nodup_cons.mp hnd
    obtain heq | hmem := mem_cons.mp h
    · obtain ⟨rfl, rfl⟩ := Prod.mk.inj heq
      simp
    · have hne : w ≠ v := by
        rintro rfl
        exact hmove (mem_map.mpr ⟨(w, p), hmem, rfl⟩)
      rw [lookup_cons, beq_false_of_ne hne]
      exact ih hmvs hmem

theorem lookup_setParents (hnd : (moves.map Prod.fst).Nodup) (m : WindowMap) (w : XId) :
    (setParents moves m).lookup w =
      (m.lookup w).map (fun win => setParentTo (movedTo moves w win.parent) win) := by
  induction moves generalizing m with
  | nil =>
    change m.lookup w = (m.lookup w).map _
    cases m.lookup w <;> rfl
  | cons move moves ih =>
    obtain ⟨v, q⟩ := move
    obtain ⟨hmove, hmvs⟩ := nodup_cons.mp hnd
    change (setParents moves (modify v (setParentTo q) m)).lookup w = _
    rw [ih hmvs, lookup_modify]
    split
    · next heq =>
      subst heq
      rw [Option.map_map]
      congr 1
      funext win
      simp [movedTo, lookup_of_notMem hmove, setParentTo]
    · next hne =>
      congr 1
      funext win
      simp [movedTo, lookup_cons, beq_false_of_ne hne]

theorem eofTeardown_windows (order : IterationOrder) (timestamp : Nat) (s : ClientState)
    (hmode : s.closeDownMode = 0) :
    (eofTeardown order timestamp s).shared.windows =
      removeWindows (order.x11ToUuid.filter (fun w => decide (w ∉ (plan s).map Prod.fst)))
        (setParents (plan s) s.shared.windows) := by
  obtain ⟨hsaved, hwins⟩ := processSaveSet_plan s
  have hclosing : (closing order timestamp s).shared.windows =
      setParents (plan s) s.shared.windows := by
    rw [closing, (dropFocus_fields _).2.2.2]
    exact hwins
  change (closeDown order (processSaveSet (releaseServerGrab s)).2
    (closing order timestamp s)).shared.windows = _
  rw [closeDown, (closing_relinks order timestamp s).closeDownMode, hmode, hsaved, ← hclosing]
  rfl

theorem lookup_eofTeardown (timestamp : Nat) (hord : order.Fits s) (hmode : s.closeDownMode = 0)
    (hnd : s.saveSet.Nodup) (w : XId) :
    (Doomed s w → (eofTeardown order timestamp s).shared.windows.lookup w = none) ∧
      (¬ Doomed s w → (eofTeardown order timestamp s).shared.windows.lookup w =
        (s.shared.windows.lookup w).map (fun win =>
          dropChildren (goneFrom
            (order.x11ToUuid.filter (fun v => decide (v ∉ (plan s).map Prod.fst)))
            (setParents (plan s) s.shared.windows) w)
            (setParentTo (movedTo (plan s) w win.parent) win))) := by
  have hplan : ((plan s).map Prod.fst).Nodup := (savePlan_sublist _ _ _).nodup hnd
  have hmem : w ∈ order.x11ToUuid.filter (fun v => decide (v ∉ (plan s).map Prod.fst)) ↔
      Doomed s w := by
    rw [mem_filter, decide_eq_true_iff, hord.x11ToUuid.2, Doomed]
  rw [eofTeardown_windows order timestamp s hmode,
    lookup_removeWindows (hord.x11ToUuid.1.filter _), lookup_setParents hplan, Option.map_map]
  constructor
  · intro h
    rw [if_pos (hmem.mpr h)]
  · intro h
    rw [if_neg (fun hw => h (hmem.mp hw))]
    rfl

theorem listed_iff (hagr : LinksAgree m) (hwin : m.lookup w = some win) (hroot : w ≠ rootWindow)
    (p : XId) :
    (∃ pwin, m.lookup p = some pwin ∧ pwin.childrenOrder.count w = 1) ↔ win.parent = p := by
  constructor
  · rintro ⟨pwin, hp, hcnt⟩
    obtain ⟨child, hch, hpar⟩ := hagr.down p pwin hp w
      (count_pos_iff.mp (by omega))
    rw [hwin] at hch
    rw [Option.some.inj hch, hpar]
  · rintro rfl
    exact hagr.up w win hwin hroot

theorem count_dropChildren {gone : XId → Bool} (h : gone w = false) (win : WindowState) :
    (dropChildren gone win).childrenOrder.count w = win.childrenOrder.count w := by
  rw [dropChildren]
  exact count_filter (by simp [h])

theorem survivor_listed_iff (timestamp : Nat) (hord : order.Fits s)
    (hmode : s.closeDownMode = 0) (hnd : s.saveSet.Nodup) (hagr : LinksAgree s.shared.windows)
    (hwin : s.shared.windows.lookup w = some win) (hroot : w ≠ rootWindow) (hw : ¬ Doomed s w) :
    (∃ p, (eofTeardown order timestamp s).shared.windows.lookup (movedTo (plan s) w win.parent) =
        some p ∧ p.childrenOrder.count w = 1) ↔
      win.parent = movedTo (plan s) w win.parent ∧ ¬ Doomed s win.parent := by
  have hgone : ∀ p, goneFrom (order.x11ToUuid.filter (fun v => decide (v ∉ (plan s).map Prod.fst)))
      (setParents (plan s) s.shared.windows) p w = false := by
    intro p
    rw [goneFrom, decide_eq_false_iff_not]
    rintro ⟨hmem, -⟩
    rw [mem_filter, decide_eq_true_iff, hord.x11ToUuid.2] at hmem
    exact hw hmem
  generalize movedTo (plan s) w win.parent = q
  obtain ⟨hdoomed, hstays⟩ := lookup_eofTeardown timestamp hord hmode hnd q
  rw [← listed_iff hagr hwin hroot q]
  constructor
  · rintro ⟨p, hp, hcnt⟩
    have hq : ¬ Doomed s q := by
      intro h
      simp [hdoomed h] at hp
    rw [hstays hq, Option.map_eq_some_iff] at hp
    obtain ⟨old, hold, rfl⟩ := hp
    rw [count_dropChildren (hgone q)] at hcnt
    have hlstd : ∃ pwin, s.shared.windows.lookup q = some pwin ∧
        pwin.childrenOrder.count w = 1 := ⟨old, hold, hcnt⟩
    refine ⟨hlstd, ?_⟩
    rwa [(listed_iff hagr hwin hroot q).mp hlstd]
  · rintro ⟨hlstd, hpar⟩
    rw [(listed_iff hagr hwin hroot q).mp hlstd] at hpar
    obtain ⟨old, hold, hcnt⟩ := hlstd
    rw [hstays hpar, hold]
    refine ⟨_, rfl, ?_⟩
    rw [count_dropChildren (hgone q)]
    exact hcnt

theorem movedTo_eq_self_iff (hnd : s.saveSet.Nodup) (w old : XId) :
    old = movedTo (plan s) w old ↔ ∀ p, (w, p) ∈ plan s → old = p := by
  have hplan : ((plan s).map Prod.fst).Nodup := (savePlan_sublist _ _ _).nodup hnd
  constructor
  · intro h p hp
    rw [movedTo, lookup_of_mem hplan hp] at h
    exact h
  · intro h
    by_cases hw : w ∈ (plan s).map Prod.fst
    · obtain ⟨⟨v, p⟩, hmove, rfl⟩ := mem_map.mp hw
      rw [movedTo, lookup_of_mem hplan hmove]
      exact h p hmove
    · rw [movedTo, lookup_of_notMem hw]
      rfl

/-- The teardown keeps an agreeing shared tree whole exactly when the save-set
asks for no move in it and no survivor hangs below a destroyed window. -/
theorem eofTeardown_treeSaved_iff (order : IterationOrder) (timestamp : Nat) (s : ClientState)
    (hord : order.Fits s) (hmode : s.closeDownMode = 0) (hnd : s.saveSet.Nodup)
    (hagr : LinksAgree s.shared.windows) :
    TreeSaved s.saveSet s.shared.windows (eofTeardown order timestamp s).shared.windows ↔
      SavedInPlace s := by
  have hlook := lookup_eofTeardown timestamp hord hmode hnd
  have hlstd := @survivor_listed_iff s order
  constructor
  · intro h
    have hsurvivor : ∀ w win, s.shared.windows.lookup w = some win → w ≠ rootWindow →
        ¬ Doomed s w → win.parent = movedTo (plan s) w win.parent ∧ ¬ Doomed s win.parent := by
      intro w win hwin hroot hw
      apply (hlstd timestamp hord hmode hnd hagr hwin hroot hw).mp
      have haft := (hlook w).2 hw
      rw [hwin] at haft
      exact h.listed w _ haft hroot
    refine ⟨?_, ?_, ?_⟩
    · intro w p win hmove hwin hroot
      have hw : ¬ Doomed s w := fun hw => hw.2 (mem_map.mpr ⟨(w, p), hmove, rfl⟩)
      exact (movedTo_eq_self_iff hnd w win.parent).mp (hsurvivor w win hwin hroot hw).1 p hmove
    · intro w win hwin hroot hw
      exact (hsurvivor w win hwin hroot hw).2
    · intro w hsave hmem hw
      have hkept := h.kept w hsave hmem
      rw [← lookup_isSome, (hlook w).1 hw] at hkept
      simp at hkept
  · intro h
    constructor
    · intro w win hwin hroot
      have hw : ¬ Doomed s w := by
        intro hw
        rw [(hlook w).1 hw] at hwin
        simp at hwin
      rw [(hlook w).2 hw, Option.map_eq_some_iff] at hwin
      obtain ⟨old, hold, rfl⟩ := hwin
      apply (hlstd timestamp hord hmode hnd hagr hold hroot hw).mpr
      refine ⟨(movedTo_eq_self_iff hnd w old.parent).mpr ?_, h.parents w old hold hroot hw⟩
      intro p hmove
      exact h.inPlace w p old hmove hold hroot
    · intro w hsave hmem
      rw [← lookup_isSome, (hlook w).2 (h.spared w hsave hmem), Option.isSome_map,
        lookup_isSome]
      exact hmem

theorem linksAgree_iff_keys (m : WindowMap) :
    LinksAgree m ↔ ∀ w ∈ m.keys, (m.lookup w).any (fun win =>
      (w == rootWindow || (m.lookup win.parent).any (fun p => p.childrenOrder.count w == 1)) &&
      win.childrenOrder.all (fun c => (m.lookup c).any (fun child => child.parent == w))) = true := by
  simp only [Finmap.mem_keys, Option.any_eq_true, Bool.and_eq_true, Bool.or_eq_true, beq_iff_eq,
    List.all_eq_true]
  constructor
  · intro h w hw
    obtain ⟨win, hwin⟩ := mem_iff.mp hw
    refine ⟨win, hwin, ?_, fun c hc => h.down w win hwin c hc⟩
    by_cases hroot : w = rootWindow
    · exact .inl hroot
    · exact .inr (h.up w win hwin hroot)
  · intro h
    refine ⟨fun w win hwin hroot => ?_, fun p win hwin c hc => ?_⟩
    · obtain ⟨win', hwin', hup, -⟩ := h w (mem_of_lookup_eq_some hwin)
      obtain rfl : win = win' := Option.some.inj (hwin.symm.trans hwin')
      exact hup.resolve_left hroot
    · obtain ⟨win', hwin', -, hdown⟩ := h p (mem_of_lookup_eq_some hwin)
      obtain rfl : win = win' := Option.some.inj (hwin.symm.trans hwin')
      exact hdown c hc

instance (m : WindowMap) : Decidable (LinksAgree m) :=
  decidable_of_iff _ (linksAgree_iff_keys m).symm

/-- The root, the frame of client 1 and the window of client 2 that the frame is
for, with the given parent and child lists. -/
def framedWindows (parent : XId) (ofRoot ofFrame : List XId) : WindowMap :=
  ((Finmap.singleton rootWindow { rootRecord ∅ with childrenOrder := ofRoot }).insert 0x400001
    { serverWindow 0x400001 ∅ with ownerClientId := some 1, childrenOrder := ofFrame }).insert
    0x800001 { serverWindow 0x800001 ∅ with ownerClientId := some 2, parent := parent }

/-- Client 1 has the window of client 2 in its frame and in its save-set. -/
def framer (shared : WindowMap) : ClientState :=
  { acceptClient 1 false 0 0 [] { initialShared (fun _ => ∅) ∅ with windows := shared } with
    windows := framedWindows 0x400001 [0x400001] [0x800001]
    x11ToUuid := Finmap.singleton 0x400001 0
    saveSet := [0x800001] }

def framerOrder : IterationOrder := ⟨[0x400001], [rootWindow, 0x400001, 0x800001]⟩

def framerLocal : ClientState := framer (framedWindows rootWindow [0x400001, 0x800001] [])

theorem framer_fits (shared : WindowMap) : framerOrder.Fits (framer shared) := by
  constructor
  · change Enumerates [0x400001] (Finmap.singleton 0x400001 0 : HashMap XId Uuid)
    decide +kernel
  · change Enumerates [rootWindow, 0x400001, 0x800001]
      (framedWindows 0x400001 [0x400001] [0x800001])
    decide +kernel

theorem framerLocal_savedInPlace : SavedInPlace framerLocal := by
  have hplan : plan framerLocal = [(0x800001, rootWindow)] := by decide +kernel
  have hdoomed : ∀ w, Doomed framerLocal w → w = 0x400001 := by
    intro w hw
    exact List.mem_singleton.mp (((framer_fits _).x11ToUuid.2 w).mpr hw.1)
  have hparents : ∀ w ∈ framerLocal.shared.windows.keys,
      (framerLocal.shared.windows.lookup w).all (fun win => win.parent != 0x400001) = true := by
    decide +kernel
  refine ⟨?_, ?_, ?_⟩
  · intro w p win hmove hwin _
    rw [hplan, List.mem_singleton] at hmove
    obtain ⟨rfl, rfl⟩ := Prod.mk.inj hmove
    have hpar : (framerLocal.shared.windows.lookup 0x800001).map (·.parent) =
        some rootWindow := by decide +kernel
    rw [hwin] at hpar
    exact Option.some.inj hpar
  · intro w win hwin _ _ hw
    have hpar := hparents w (Finmap.mem_keys.mpr (mem_of_lookup_eq_some hwin))
    rw [hwin] at hpar
    simp [hdoomed _ hw] at hpar
  · intro w hsave _ hw
    rw [hdoomed w hw] at hsave
    revert hsave
    decide +kernel

/-- A frame that only its client knows of goes without a trace. -/
theorem eofTeardown_treeSaved_frame :
    TreeSaved [0x800001] framerLocal.shared.windows
      (eofTeardown framerOrder 0 framerLocal).shared.windows :=
  (eofTeardown_treeSaved_iff framerOrder 0 framerLocal (framer_fits _) rfl (by decide +kernel)
    (by decide +kernel)).mpr framerLocal_savedInPlace

/-- A window that the shared tree has in the frame gets the root for its parent,
and the root does not list it. -/
theorem saveSet_leaves_unlisted :
    ¬ ∀ (order : IterationOrder) (timestamp : Nat) (s : ClientState), order.Fits s →
      s.closeDownMode = 0 → s.saveSet.Nodup → LinksAgree s.shared.windows →
      TreeSaved s.saveSet s.shared.windows (eofTeardown order timestamp s).shared.windows := by
  intro h
  have hsaved := h framerOrder 0 (framer (framedWindows 0x400001 [0x400001] [0x800001]))
    (framer_fits _) rfl (by decide +kernel) (by decide +kernel)
  generalize haft : (eofTeardown framerOrder 0
    (framer (framedWindows 0x400001 [0x400001] [0x800001]))).shared.windows = after at hsaved
  have hpar : (after.lookup 0x800001).map (·.parent) = some rootWindow := by
    rw [← haft]
    decide +kernel
  have hlist : (after.lookup rootWindow).map (·.childrenOrder.count 0x800001) = some 0 := by
    rw [← haft]
    decide +kernel
  obtain ⟨win, hwin, hp⟩ := Option.map_eq_some_iff.mp hpar
  obtain ⟨p, hlook, hcnt⟩ := hsaved.listed 0x800001 win hwin (by decide)
  rw [hp] at hlook
  simp [hlook, hcnt] at hlist

end X11Web.SaveSet
