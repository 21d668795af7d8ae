import X11Web.FocusEvents
import X11Web.CrossingEvents

namespace X11Web.FocusPaths

open HashMaps LinkedForest RootedForest Windows WindowTree List Option
open Descents AncestorPaths CrossingEvents FocusEvents Ewmh

variable {m : HashMap XId WindowState} {w v c : XId}

theorem ancestorChainLoop_succ (hacyc : NoCycle (links m)) {p : XId} (hp : parentOf (links m) w = some p)
    (hp0 : p ≠ 0) (n : Nat) : ancestorChainLoop m (n + 1) w = p :: ancestorChainLoop m n p := by
  have hself : p ≠ w := by
    rintro rfl
    exact hacyc p 0 (by rw [← parentOf_eq_ancestor, hp])
  rw [parentOf_links, map_eq_some_iff] at hp
  obtain ⟨win, hwin, rfl⟩ := hp
  simp [ancestorChainLoop, hwin, hp0, hself]

theorem properAncestor_of_mem {n : Nat} (h : v ∈ ancestorChainLoop m n w) : ProperAncestor (links m) v w := by
  induction n generalizing w with
  | zero => cases h
  | succ n ih =>
    rw [ancestorChainLoop] at h
    cases hwin : m.lookup w with
    | none => simp [hwin] at h
    | some win =>
      have hp : parentOf (links m) w = some win.parent := by rw [parentOf_links, hwin, map_some]
      simp only [hwin] at h
      split at h
      · rcases mem_cons.mp h with rfl | h
        · exact ⟨0, by rw [← parentOf_eq_ancestor, hp]⟩
        · obtain ⟨k, hk⟩ := ih h
          exact ⟨k + 1, ancestor_succ.mpr ⟨_, hp, hk⟩⟩
      · cases h

def Climbs (m : HashMap XId WindowState) (v : XId) : Prop := ∃ k, ancestor (links m) k v = some rootWindow

theorem Climbs.below (hv : Climbs m v) {k : Nat} (h : ancestor (links m) k w = some v) : Climbs m w := by
  obtain ⟨i, hi⟩ := hv
  exact ⟨k + i, (ancestor_add i h).trans hi⟩

theorem Climbs.ne_zero (h0 : 0 ∉ m) (hv : Climbs m v) : v ≠ 0 := by
  rintro rfl
  obtain ⟨k, hk⟩ := hv
  cases k with
  | zero => exact absurd (some.inj hk) (by decide)
  | succ k => exact h0 ((links_isSome m 0).mp (ancestor_present hk))

theorem mem_ancestorChainLoop (hacyc : NoCycle (links m)) (h0 : 0 ∉ m) (hv : Climbs m v) {k n : Nat}
    (hk : k < n)
    (h : ancestor (links m) (k + 1) w = some v) : v ∈ ancestorChainLoop m n w := by
  induction n generalizing k w with
  | zero => exact absurd hk (Nat.not_lt_zero k)
  | succ n ih =>
    obtain ⟨p, hp, h⟩ := ancestor_succ.mp h
    rw [ancestorChainLoop_succ hacyc hp ((hv.below h).ne_zero h0)]
    cases k with
    | zero => exact some.inj h ▸ mem_cons_self
    | succ k => exact mem_cons_of_mem p (ih (Nat.lt_of_succ_lt_succ hk) h)

variable {inner : List XId}

theorem ancestorChainLoop_split (hacyc : NoCycle (links m)) (h0 : 0 ∉ m) (hc : Climbs m c) {n : Nat}
    (hn : inner.length < n) (h : PathTo (links m) w (w :: inner ++ [c]) c) :
    ∃ above, ancestorChainLoop m n w = inner ++ c :: above := by
  induction n generalizing w inner with
  | zero => exact absurd hn (Nat.not_lt_zero _)
  | succ n ih =>
    obtain ⟨p, hp, hrest⟩ := h.tail (by simp)
    obtain ⟨k, hk⟩ := hrest.climbs
    rw [ancestorChainLoop_succ hacyc hp ((hc.below hk).ne_zero h0)]
    cases inner with
    | nil =>
      obtain rfl := hrest.head_eq
      exact ⟨ancestorChainLoop m n c, rfl⟩
    | cons d inner =>
      obtain rfl := hrest.head_eq
      obtain ⟨above, habove⟩ := ih (Nat.lt_of_succ_lt_succ hn) hrest
      exact ⟨above, by rw [habove, cons_append]⟩

theorem climb_le (h : Shallow m) (hw : w ∈ m) (hv : Climbs m v) {k : Nat}
    (hk : ancestor (links m) k w = some v) : k ≤ maxTreeDepth := by
  obtain ⟨j, hj, hroot⟩ := h.climbs w hw
  obtain ⟨i, hi⟩ := hv
  refine Nat.le_trans (Nat.not_lt.mp fun hlt => ?_) hj
  -- the window would be above the root, which is above it
  obtain ⟨l, rfl⟩ := Nat.exists_eq_add_of_lt hlt
  rw [Nat.add_assoc, ancestor_add _ hroot] at hk
  refine absurd ?_ (h.acyclic rootWindow (l + i))
  rw [Nat.add_right_comm, ancestor_add _ hk, hi]

theorem mem_ancestorChain_iff (h : Shallow m) (hw : w ∈ m) (hv : Climbs m v) :
    v ∈ ancestorChain m w ↔ ProperAncestor (links m) v w := by
  constructor
  · exact properAncestor_of_mem
  · rintro ⟨k, hk⟩
    exact mem_ancestorChainLoop h.acyclic h.absent hv (climb_le h hw hv hk) hk

theorem ancestorChain_split (h : Shallow m) (hw : w ∈ m) (hc : Climbs m c)
    (hinner : Inner (links m) w inner c) (hne : w ≠ c) : ∃ above, ancestorChain m w = inner ++ c :: above := by
  have hpath := hinner.resolve_left (fun hand => hne hand.1)
  have hclimb := PathTo.climbs_length hpath
  have hlen : inner.length < maxTreeDepth := by
    have hle : inner.length + 1 ≤ maxTreeDepth := by simpa using climb_le h hw hc hclimb
    exact hle
  exact ancestorChainLoop_split h.acyclic h.absent hc hlen hpath

theorem inner_notMem (hacyc : NoCycle (links m)) (hinner : Inner (links m) w inner c) : c ∉ inner := by
  obtain ⟨rfl, rfl⟩ | hpath := hinner
  · exact not_mem_nil
  · intro hmem
    have hnd := hpath.nodup hacyc
    rw [nodup_append] at hnd
    exact hnd.2.2 c (mem_cons_of_mem w hmem) c (mem_singleton_self c) rfl

theorem takeWhile_ne (inner above : List XId) (h : c ∉ inner) :
    (inner ++ c :: above).takeWhile (fun v => v != c) = inner := by
  rw [takeWhile_append_of_pos]
  · simp
  · intro v hv
    simpa using ne_of_mem_of_not_mem hv h

def sharedPath (up : List XId) (lca : XId) (down : List XId) : Kinship → List XId
  | .inward => down
  | .outward => up
  | .nonlinear => up ++ [lca] ++ down.reverse

variable {oldFocus newFocus lca : XId} {up down : List XId} {kinship : Kinship}

theorem Shallow.mem_climbs (h : Shallow m) (hw : w ∈ m) : Climbs m w := by
  obtain ⟨k, -, hk⟩ := h.climbs w hw
  exact ⟨k, hk⟩

theorem lca_climbs (h : Shallow m) (hold : oldFocus ∈ m) (hnew : newFocus ∈ m)
    (hlca : IsLca (links m) oldFocus newFocus lca) : Climbs m lca := by
  obtain ⟨i, -, hi⟩ := h.climbs oldFocus hold
  obtain ⟨j, -, hj⟩ := h.climbs newFocus hnew
  exact hlca.lowest rootWindow i j hi hj

theorem inner_not_above (hacyc : NoCycle (links m)) {b : XId} (hlca : IsLca (links m) w b c)
    (hinner : Inner (links m) w inner c) (hv : v ∈ inner) : ¬ ProperAncestor (links m) v b := by
  rintro ⟨j, hj⟩
  obtain ⟨⟨i, hi⟩, ⟨k, hk⟩⟩ := (hinner.mem_iff hacyc).mpr (.inr (.inr hv))
  obtain ⟨l, hl⟩ := hlca.lowest v k (j + 1) hk hj
  exact inner_notMem hacyc hinner (ancestor_antisymm hacyc hi hl ▸ hv)

theorem nonlinearPath_eq (h : Shallow m) (hold : oldFocus ∈ m) (hnew : newFocus ∈ m)
    (holdLca : oldFocus ≠ lca) (hnewLca : newFocus ≠ lca) (hrt : Route (links m) oldFocus newFocus lca up down) :
    nonlinearPath (ancestorChain m oldFocus) (ancestorChain m newFocus) = up ++ [lca] ++ down.reverse := by
  have hclimbs := lca_climbs h hold hnew hrt.isLca
  have hupFree := inner_notMem h.acyclic hrt.leaving
  obtain ⟨above, hspl⟩ := ancestorChain_split h hold hclimbs hrt.leaving holdLca
  obtain ⟨above', hspl'⟩ := ancestorChain_split h hnew hclimbs hrt.entering hnewLca
  have hup : ∀ d ∈ up, ¬ ((ancestorChain m newFocus).contains d || d == rootWindow) = true := by
    intro d hd hstop
    rw [Bool.or_eq_true, contains_iff_mem, beq_iff_eq] at hstop
    rcases hstop with hmem | rfl
    · exact inner_not_above h.acyclic hrt.isLca hrt.leaving hd (properAncestor_of_mem hmem)
    · obtain ⟨⟨i, hi⟩, -⟩ := (hrt.leaving.mem_iff h.acyclic).mpr (.inr (.inr hd))
      obtain ⟨j, hj⟩ := hclimbs
      exact hupFree (ancestor_antisymm h.acyclic hi hj ▸ hd)
  have hlca : ((ancestorChain m newFocus).contains lca || lca == rootWindow) = true := by
    rw [hspl']
    simp
  have hfind : (ancestorChain m oldFocus).find? (fun d => (ancestorChain m newFocus).contains d || d == rootWindow) =
      some lca := by
    rw [hspl, List.find?_append, List.find?_eq_none.mpr hup, none_or, List.find?_cons_of_pos]
    exact hlca
  simp only [nonlinearPath, hfind]
  rw [hspl, hspl', takeWhile_ne up above hupFree,
    takeWhile_ne down above' (inner_notMem h.acyclic hrt.entering)]

theorem inner_self (hacyc : NoCycle (links m)) (h : Inner (links m) w inner w) : inner = [] := by
  obtain ⟨-, hnil⟩ | hpath := h
  · exact hnil
  · have hnd := hpath.nodup hacyc
    simp at hnd

theorem lca_cases (hacyc : NoCycle (links m)) (hne : oldFocus ≠ newFocus)
    (hkin : kinship.Holds (links m) oldFocus newFocus) (hrt : Route (links m) oldFocus newFocus lca up down) :
    (kinship = .inward ∧ lca = oldFocus ∧ up = []) ∨ (kinship = .outward ∧ lca = newFocus ∧ down = []) ∨
      (kinship = .nonlinear ∧ oldFocus ≠ lca ∧ newFocus ≠ lca) := by
  cases kinship with
  | inward =>
    obtain ⟨k, hk⟩ := hkin
    obtain rfl := (IsLca.of_above ⟨k + 1, hk⟩).unique hacyc hrt.isLca
    exact .inl ⟨rfl, rfl, inner_self hacyc hrt.leaving⟩
  | outward =>
    obtain ⟨k, hk⟩ := hkin
    obtain rfl := ((IsLca.of_above ⟨k + 1, hk⟩).symm).unique hacyc hrt.isLca
    exact .inr (.inl ⟨rfl, rfl, inner_self hacyc hrt.entering⟩)
  | nonlinear =>
    refine .inr (.inr ⟨rfl, ?_, ?_⟩)
    · rintro rfl
      obtain ⟨k, hk⟩ := hrt.isLca.right
      cases k with
      | zero => exact hne (some.inj hk).symm
      | succ k => exact hkin.1 ⟨k, hk⟩
    · rintro rfl
      obtain ⟨k, hk⟩ := hrt.isLca.left
      cases k with
      | zero => exact hne (some.inj hk)
      | succ k => exact hkin.2 ⟨k, hk⟩

theorem computeFocusDetail_eq (h : Shallow m) (hold : oldFocus ∈ m) (hnew : newFocus ∈ m)
    (hne : oldFocus ≠ newFocus) (hold1 : oldFocus ≠ 1) (hnew1 : newFocus ≠ 1)
    (hkin : kinship.Holds (links m) oldFocus newFocus) (hrt : Route (links m) oldFocus newFocus lca up down) :
    computeFocusDetail m oldFocus newFocus =
      (kinship.leaveDetail, kinship.enterDetail, sharedPath up lca down kinship) := by
  have hold0 := (Shallow.mem_climbs h hold).ne_zero h.absent
  have hnew0 := (Shallow.mem_climbs h hnew).ne_zero h.absent
  have habove := mem_ancestorChain_iff h hnew (Shallow.mem_climbs h hold)
  have hbel := mem_ancestorChain_iff h hold (Shallow.mem_climbs h hnew)
  rw [computeFocusDetail, if_neg hold0, if_neg hold1, if_neg hnew0, if_neg hnew1]
  obtain ⟨rfl, rfl, -⟩ | ⟨rfl, rfl, -⟩ | ⟨rfl, holdLca, hnewLca⟩ := lca_cases h.acyclic hne hkin hrt
  · obtain ⟨above, hspl⟩ := ancestorChain_split h hnew (Shallow.mem_climbs h hold) hrt.entering hne.symm
    have hin : (ancestorChain m newFocus).contains lca = true := contains_iff_mem.mpr (habove.mpr hkin)
    simp only [hin, Bool.or_true, Bool.and_true, if_true]
    rw [hspl, takeWhile_ne down above (inner_notMem h.acyclic hrt.entering)]
    rfl
  · obtain ⟨above, hspl⟩ := ancestorChain_split h hold (Shallow.mem_climbs h hnew) hrt.leaving hne
    have hin : (ancestorChain m oldFocus).contains lca = true := contains_iff_mem.mpr (hbel.mpr hkin)
    have hnot : (ancestorChain m lca).contains oldFocus = false := by
      rw [← Bool.not_eq_true, contains_iff_mem, habove]
      rintro ⟨j, hj⟩
      obtain ⟨k, hk⟩ := hkin
      exact hne (ancestor_antisymm h.acyclic hk hj)
    simp only [hin, hnot, Bool.and_false, Bool.or_true, Bool.and_true, if_true, Bool.false_eq_true, if_false]
    rw [hspl, takeWhile_ne up above (inner_notMem h.acyclic hrt.leaving)]
    rfl
  · have hnot : (ancestorChain m newFocus).contains oldFocus = false := by
      rw [← Bool.not_eq_true, contains_iff_mem, habove]
      exact hkin.1
    have hnot' : (ancestorChain m oldFocus).contains newFocus = false := by
      rw [← Bool.not_eq_true, contains_iff_mem, hbel]
      exact hkin.2
    simp only [hnot, hnot', Bool.and_false, Bool.false_eq_true, if_false]
    rw [nonlinearPath_eq h hold hnew holdLca hnewLca hrt]
    rfl

theorem route_apart (hrt : Route (links m) oldFocus newFocus lca up down) (hv : v ∈ up ∨ v ∈ down) :
    v ≠ oldFocus ∧ v ≠ newFocus := by
  obtain ⟨hleft, -, hright⟩ := nodup_append.mp hrt.nodup
  have hmem : v ∈ up ++ down.reverse := by simpa using hv
  rw [cons_append] at hleft hright
  refine ⟨?_, hright v (mem_cons_of_mem _ hmem) newFocus (mem_singleton_self _)⟩
  rintro rfl
  exact (nodup_cons.mp hleft).1 hmem

theorem mem_sharedPath_iff (hacyc : NoCycle (links m)) (hne : oldFocus ≠ newFocus)
    (hkin : kinship.Holds (links m) oldFocus newFocus) (hrt : Route (links m) oldFocus newFocus lca up down) :
    v ∈ sharedPath up lca down kinship ↔
      OnTheWay (links m) oldFocus newFocus v ∧ v ≠ oldFocus ∧ v ≠ newFocus := by
  have hway : OnTheWay (links m) oldFocus newFocus v ↔
      (v = oldFocus ∨ v = lca ∨ v ∈ up) ∨ (v = newFocus ∨ v = lca ∨ v ∈ down) := by
    rw [← hrt.leaving.mem_iff hacyc, ← hrt.entering.mem_iff hacyc, ← and_or_left]
    constructor
    · rintro ⟨c, hc, hv⟩
      exact hrt.isLca.unique hacyc hc ▸ hv
    · exact fun hv => ⟨lca, hrt.isLca, hv⟩
  rw [hway]
  obtain ⟨rfl, rfl, rfl⟩ | ⟨rfl, rfl, rfl⟩ | ⟨rfl, holdLca, hnewLca⟩ := lca_cases hacyc hne hkin hrt
  · have hdown := fun hv : v ∈ down => route_apart hrt (.inr hv)
    simp only [sharedPath, not_mem_nil, or_false]
    tauto
  · have hup := fun hv : v ∈ up => route_apart hrt (.inl hv)
    simp only [sharedPath, not_mem_nil, or_false]
    tauto
  · simp only [sharedPath, mem_append, mem_singleton, mem_reverse]
    constructor
    · rintro ((hv | rfl) | hv)
      · exact ⟨.inl (.inr (.inr hv)), route_apart hrt (.inl hv)⟩
      · exact ⟨.inl (.inr (.inl rfl)), holdLca.symm, hnewLca.symm⟩
      · exact ⟨.inr (.inr (.inr hv)), route_apart hrt (.inr hv)⟩
    · tauto

/-- What a focus event says: FocusIn or FocusOut, the detail and the window. -/
def focusCrossing (e : FocusEvent) : Crossing := (e.isIn, e.detail, e.window)

def selectsFocusChange (s : ClientState) (c : Crossing) : Bool := windowSelects s c.2.2 focusChange

variable {s : ClientState}

theorem map_sendFocusEvent (s : ClientState) (isIn : Bool) (detail : Nat) (w : XId) :
    (sendFocusEvent s isIn detail w).map focusCrossing = [(isIn, detail, w)].filter (selectsFocusChange s) := by
  have hseld : selectsFocusChange s (isIn, detail, w) = windowSelects s w focusChange := rfl
  rw [sendFocusEvent, filter_singleton, hseld]
  cases windowSelects s w focusChange with
  | false => rfl
  | true => rfl

theorem map_flatMap_sendFocusEvent (s : ClientState) (isIn : Bool) (detail : Nat) (ws : List XId) :
    (ws.flatMap (sendFocusEvent s isIn detail)).map focusCrossing =
      (ws.map (fun w => (isIn, detail, w))).filter (selectsFocusChange s) := by
  induction ws with
  | nil => rfl
  | cons w ws ih =>
    rw [flatMap_cons, map_append, ih, map_sendFocusEvent, ← filter_append]
    rfl

theorem map_sendVirtual {path : List XId} (hpath : ∀ w ∈ path, w ≠ oldFocus ∧ w ≠ newFocus) (s : ClientState)
    (isIn : Bool) (detail : Nat) :
    (sendVirtual s isIn detail oldFocus newFocus path).map focusCrossing =
      (path.map (fun w => (isIn, FocusEvents.virtualDetail detail, w))).filter (selectsFocusChange s) := by
  have hall : path.filter (fun w => w != oldFocus && w != newFocus) = path := by
    rw [filter_eq_self]
    intro w hw
    simpa using hpath w hw
  rw [sendVirtual, hall, map_flatMap_sendFocusEvent]

theorem halves_eq_iff {detail : Nat} {out out' into into' : List XId} :
    out.map (fun w => (false, detail, w)) ++ into.map (fun w => (true, detail, w)) =
      out'.map (fun w => (false, detail, w)) ++ into'.map (fun w => (true, detail, w)) ↔
      out = out' ∧ into = into' := by
  constructor
  · intro h
    have hout := congrArg (List.filterMap fun c : Crossing => if c.1 then none else some c.2.2) h
    have hinto := congrArg (List.filterMap fun c : Crossing => if c.1 then some c.2.2 else none) h
    simp only [filterMap_append, filterMap_map, Function.comp_def] at hout hinto
    simpa using And.intro hout hinto
  · rintro ⟨rfl, rfl⟩
    rfl

theorem sharedPath_filter_iff {selects : XId → Bool}
    (hemp : (kinship = .inward → up = []) ∧ (kinship = .outward → down = [])) :
    ((sharedPath up lca down kinship).filter selects = up.filter selects ∧
      (sharedPath up lca down kinship).reverse.filter selects = down.reverse.filter selects) ↔
      ∀ v ∈ sharedPath up lca down kinship, selects v = false := by
  have hnone : ∀ l : List XId, (∀ v ∈ l, selects v = false) ↔ l.filter selects = [] := by
    intro l
    simp [filter_eq_nil_iff]
  rw [hnone]
  cases kinship with
  | inward =>
    obtain rfl := hemp.1 rfl
    exact and_iff_left rfl
  | outward =>
    obtain rfl := hemp.2 rfl
    simp [sharedPath, filter_reverse]
  | nonlinear =>
    simp only [sharedPath, reverse_append, reverse_reverse, reverse_singleton,
      filter_append, filter_reverse, append_eq_nil_iff, reverse_eq_nil_iff, append_assoc]
    constructor
    · rintro ⟨hout, hinto⟩
      obtain ⟨hlca, hdown⟩ := append_eq_nil_iff.mp (append_right_eq_self.mp hout)
      rw [reverse_eq_nil_iff] at hdown
      rw [hdown, hlca] at hinto
      exact ⟨by simpa using hinto, hlca, hdown⟩
    · rintro ⟨hup, hlca, hdown⟩
      simp [hup, hlca, hdown]

/-- FocusOut up to the common ancestor and FocusIn down from it, for the windows that
select them. -/
def FocusFollows (s : ClientState) (events : List FocusEvent) (oldFocus newFocus : XId) : Prop :=
  ∃ kinship lca up down, kinship.Holds (links s.windows) oldFocus newFocus ∧
    Route (links s.windows) oldFocus newFocus lca up down ∧
    events.map focusCrossing = (plan kinship oldFocus newFocus up down).filter (selectsFocusChange s)

def NothingBetween (s : ClientState) (oldFocus newFocus : XId) : Prop :=
  ∀ v, OnTheWay (links s.windows) oldFocus newFocus v → v ≠ oldFocus → v ≠ newFocus →
    windowSelects s v focusChange = false

theorem filter_ends_iff {α : Type} (p : α → Bool) (a b : α) (l l' : List α) :
    (a :: (l ++ [b])).filter p = (a :: (l' ++ [b])).filter p ↔ l.filter p = l'.filter p := by
  rw [filter_cons, filter_cons, filter_append, filter_append]
  split
  · rw [cons_inj_right, append_cancel_right_eq]
  · rw [append_cancel_right_eq]

section Change

variable (h : Shallow s.windows) (hold : oldFocus ∈ s.windows) (hnew : newFocus ∈ s.windows)
  (hne : oldFocus ≠ newFocus) (hold1 : oldFocus ≠ 1) (hnew1 : newFocus ≠ 1)

include h hold hnew hne hold1 hnew1

theorem map_focusEvents (hkin : kinship.Holds (links s.windows) oldFocus newFocus)
    (hrt : Route (links s.windows) oldFocus newFocus lca up down) :
    (focusEvents s oldFocus newFocus).map focusCrossing =
      (((false, kinship.leaveDetail, oldFocus) ::
        (sharedPath up lca down kinship).map (fun w => (false, kinship.virtualDetail, w))) ++
        ((sharedPath up lca down kinship).reverse.map (fun w => (true, kinship.virtualDetail, w)) ++
          [(true, kinship.enterDetail, newFocus)])).filter (selectsFocusChange s) := by
  have hold0 := (Shallow.mem_climbs h hold).ne_zero h.absent
  have hnew0 := (Shallow.mem_climbs h hnew).ne_zero h.absent
  have hpath : ∀ w ∈ sharedPath up lca down kinship, w ≠ oldFocus ∧ w ≠ newFocus := fun w hw =>
    ((mem_sharedPath_iff h.acyclic hne hkin hrt).mp hw).2
  have hreverse : ∀ w ∈ (sharedPath up lca down kinship).reverse, w ≠ oldFocus ∧ w ≠ newFocus := fun w hw =>
    hpath w (mem_reverse.mp hw)
  have hout : FocusEvents.virtualDetail kinship.leaveDetail = kinship.virtualDetail := by cases kinship <;> rfl
  have hin : FocusEvents.virtualDetail kinship.enterDetail = kinship.virtualDetail := by cases kinship <;> rfl
  rw [focusEvents, if_pos hne, computeFocusDetail_eq h hold hnew hne hold1 hnew1 hkin hrt]
  dsimp only
  rw [if_pos ⟨hold0, hold1⟩, if_pos ⟨hnew0, hnew1⟩, map_append, map_append, map_append,
    map_sendVirtual hpath, map_sendVirtual hreverse, map_sendFocusEvent, map_sendFocusEvent, hout, hin,
    ← filter_append, ← filter_append, ← filter_append]
  rfl

theorem events_eq_plan_iff (hkin : kinship.Holds (links s.windows) oldFocus newFocus)
    (hrt : Route (links s.windows) oldFocus newFocus lca up down) :
    (focusEvents s oldFocus newFocus).map focusCrossing =
        (plan kinship oldFocus newFocus up down).filter (selectsFocusChange s) ↔
      NothingBetween s oldFocus newFocus := by
  have hemp : (kinship = .inward → up = []) ∧ (kinship = .outward → down = []) := by
    obtain ⟨rfl, -, hup⟩ | ⟨rfl, -, hdown⟩ | ⟨rfl, -, -⟩ := lca_cases h.acyclic hne hkin hrt
    · exact ⟨fun _ => hup, by simp⟩
    · exact ⟨by simp, fun _ => hdown⟩
    · exact ⟨by simp, by simp⟩
  have hfilter : ∀ (isIn : Bool) (ws : List XId),
      (ws.map (fun w => (isIn, kinship.virtualDetail, w))).filter (selectsFocusChange s) =
        (ws.filter (fun w => windowSelects s w focusChange)).map (fun w => (isIn, kinship.virtualDetail, w)) :=
    fun isIn ws => filter_map
  rw [map_focusEvents h hold hnew hne hold1 hnew1 hkin hrt, plan, ← append_assoc]
  simp only [cons_append]
  rw [filter_ends_iff, filter_append, filter_append, hfilter, hfilter, hfilter, hfilter, halves_eq_iff,
    sharedPath_filter_iff hemp]
  constructor
  · intro hnone v hway hvold hvnew
    exact hnone v ((mem_sharedPath_iff h.acyclic hne hkin hrt).mpr ⟨hway, hvold, hvnew⟩)
  · intro hnone v hv
    obtain ⟨hway, hvold, hvnew⟩ := (mem_sharedPath_iff h.acyclic hne hkin hrt).mp hv
    exact hnone v hway hvold hvnew

theorem focusFollows_iff :
    FocusFollows s (focusEvents s oldFocus newFocus) oldFocus newFocus ↔ NothingBetween s oldFocus newFocus := by
  constructor
  · rintro ⟨kinship, lca, up, down, hkin, hrt, hevs⟩
    exact (events_eq_plan_iff h hold hnew hne hold1 hnew1 hkin hrt).mp hevs
  · intro hnone
    obtain ⟨kinship, lca, up, down, hkin, hrt⟩ := exists_route h hold hnew hne
    exact ⟨kinship, lca, up, down, hkin, hrt,
      (events_eq_plan_iff h hold hnew hne hold1 hnew1 hkin hrt).mpr hnone⟩

end Change

theorem ancestorChainLoop_congr {m' : HashMap XId WindowState}
    (h : ∀ w, (m'.lookup w).map (·.parent) = (m.lookup w).map (·.parent)) (n : Nat) (w : XId) :
    ancestorChainLoop m' n w = ancestorChainLoop m n w := by
  induction n generalizing w with
  | zero => rfl
  | succ n ih =>
    have hw := h w
    rw [ancestorChainLoop, ancestorChainLoop]
    cases hm : m.lookup w with
    | none =>
      rw [hm, map_none, map_eq_none_iff] at hw
      rw [hw]
    | some win =>
      rw [hm, map_some, map_eq_some_iff] at hw
      obtain ⟨win', hwin', hpar⟩ := hw
      simp only [hwin', hpar, ih]

theorem parent_updateNetClientList (s : ClientState) (w : XId) :
    ((updateNetClientList s).windows.lookup w).map (·.parent) = (s.windows.lookup w).map (·.parent) := by
  rw [updateNetClientList]
  apply lookup_modify_map
  intro win
  rfl

theorem parent_setFocusWindow (newFocus : XId) (s : ClientState) (w : XId) :
    ((setFocusWindow newFocus s).windows.lookup w).map (·.parent) = (s.windows.lookup w).map (·.parent) := by
  rw [setFocusWindow]
  split
  · rw [parent_updateNetClientList]
    apply lookup_modify_map
    intro win
    rfl
  · rfl

theorem changeFocus_events (s : ClientState) (newFocus : XId) :
    (changeFocus newFocus s).2 = focusEvents s s.focusWindow newFocus := by
  have hdetail : computeFocusDetail (setFocusWindow newFocus s).windows s.focusWindow newFocus =
      computeFocusDetail s.windows s.focusWindow newFocus := by
    have hchain : ∀ w, ancestorChain (setFocusWindow newFocus s).windows w = ancestorChain s.windows w :=
      ancestorChainLoop_congr (parent_setFocusWindow newFocus s) maxTreeDepth
    simp only [computeFocusDetail, hchain]
  have hsend : sendFocusEvent (setFocusWindow newFocus s) = sendFocusEvent s := by
    funext isIn detail w
    rw [sendFocusEvent, sendFocusEvent, windowSelects_setFocusWindow]
  simp only [changeFocus, focusEvents, hdetail, sendVirtual, hsend]

/-- A change of the focus follows the rule exactly if nobody selects it in between. -/
theorem changeFocus_follows_iff (s : ClientState) (newFocus : XId) (h : Shallow s.windows)
    (hold : s.focusWindow ∈ s.windows) (hnew : newFocus ∈ s.windows) (hne : s.focusWindow ≠ newFocus)
    (hold1 : s.focusWindow ≠ 1) (hnew1 : newFocus ≠ 1) :
    FocusFollows s (changeFocus newFocus s).2 s.focusWindow newFocus ↔
      NothingBetween s s.focusWindow newFocus := by
  rw [changeFocus_events]
  exact focusFollows_iff h hold hnew hne hold1 hnew1

section Nested

def watched (id parent : XId) (children : List XId) (selects : Bool) : WindowState :=
  { serverWindow id ∅ with
    parent := parent, childrenOrder := children, mapped := true, winClass := inputOutput,
    eventMask := if selects then focusChange else 0 }

/-- Three windows inside each other, the outer and the inner one watched. -/
def nested (selects : Bool) : HashMap XId WindowState :=
  ((((∅ : HashMap XId WindowState).insert rootWindow (watched rootWindow 0 [2] false)).insert 2
    (watched 2 rootWindow [3] true)).insert 3 (watched 3 2 [4] selects)).insert 4 (watched 4 3 [] true)

theorem nested_mem {selects : Bool} {w : XId} (h : w ∈ nested selects) : w = 4 ∨ w = 3 ∨ w = 2 ∨ w = rootWindow := by
  simpa [nested, Finmap.mem_insert, Finmap.notMem_empty] using h

theorem nested_shallow (selects : Bool) : Shallow (nested selects) := by
  refine ⟨?_, ?_, by cases selects <;> decide⟩
  · apply noCycle_of_rank (fun w => if w = 4 then 4 else if w = 3 then 3 else if w = 2 then 2 else
      if w = rootWindow then 1 else 0)
    intro w p h
    rw [parentOf_links, map_eq_some_iff] at h
    obtain ⟨win, hwin, rfl⟩ := h
    have hmem : w ∈ nested selects := Finmap.lookup_isSome.mp (by rw [hwin, isSome_some])
    obtain rfl | rfl | rfl | rfl := nested_mem hmem <;> obtain rfl := some.inj hwin <;>
      cases selects <;> decide
  · intro w hw
    obtain rfl | rfl | rfl | rfl := nested_mem hw
    · exact ⟨3, by decide, rfl⟩
    · exact ⟨2, by decide, rfl⟩
    · exact ⟨1, by decide, rfl⟩
    · exact ⟨0, by decide, rfl⟩

def outerFocused (selects : Bool) : ClientState :=
  { Links.loneClient with windows := nested selects, focusWindow := 2 }

theorem changeFocus_follows_inner :
    NothingBetween (outerFocused false) 2 4 ∧
      FocusFollows (outerFocused false) (changeFocus 4 (outerFocused false)).2 2 4 := by
  have hnone : NothingBetween (outerFocused false) 2 4 := by
    intro v _ hv2 hv4
    by_cases hv : v ∈ nested false
    · obtain rfl | rfl | rfl | rfl := nested_mem hv
      · exact absurd rfl hv4
      · decide
      · exact absurd rfl hv2
      · decide
    · have hnot : (nested false).lookup v = none := Finmap.lookup_eq_none.mpr hv
      simp [windowSelects, outerFocused, hnot]
  exact ⟨hnone, (changeFocus_follows_iff (outerFocused false) 4 (nested_shallow false) (by decide) (by decide)
    (by decide) (by decide) (by decide)).mpr hnone⟩

/-- The window in between is told that the focus left it. -/
theorem changeFocus_spurious :
    Shallow (outerFocused true).windows ∧ 2 ∈ (outerFocused true).windows ∧ 4 ∈ (outerFocused true).windows ∧
      (changeFocus 4 (outerFocused true)).2.map focusCrossing =
        [(false, 2, 2), (false, 1, 3), (true, 1, 3), (true, 0, 4)] ∧
      ¬ FocusFollows (outerFocused true) (changeFocus 4 (outerFocused true)).2 2 4 := by
  have hevs := changeFocus_events (outerFocused true) 4
  refine ⟨nested_shallow true, by decide, by decide, ?_, ?_⟩
  · rw [hevs]
    decide +kernel
  · rw [hevs]
    intro hfols
    have hnone := (focusFollows_iff (nested_shallow true) (by decide) (by decide) (by decide) (by decide)
      (by decide)).mp hfols
    have hway : OnTheWay (links (nested true)) 2 4 3 :=
      ⟨2, IsLca.of_above ⟨2, rfl⟩, ⟨1, rfl⟩, .inr ⟨1, rfl⟩⟩
    exact absurd (hnone 3 hway (by decide) (by decide)) (by decide)

end Nested

end X11Web.FocusPaths
