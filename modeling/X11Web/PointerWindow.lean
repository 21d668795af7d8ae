import X11Web.HitTesting

namespace X11Web.PointerWindow

open List Option

open Relation HashMaps LinkedForest RootedForest Windows
  X11Web.Descents X11Web.Links X11Web.Acyclic X11Web.HitTesting

def saturatingAdd (a b : Int) : Int := max (-32768) (min 32767 (a + b))

/-- The test of one axis with a far edge that stays at the end of the range. -/
def spansUpTo (lo : Int) (size : Nat) (v : Int) : Bool :=
  decide (lo ≤ v ∧ v < saturatingAdd lo (asI16 size))

/-- The mapped child has the pointer between its edges, all taken as they are. -/
def childUnderPointer (m : HashMap XId WindowState) (px py : Int) (childId : XId) : Bool :=
  (m.lookup childId).any fun child =>
    child.mapped && spansUpTo child.x child.width px && spansUpTo child.y child.height py

def pointerChild (m : HashMap XId WindowState) (px py : Int) (current : XId) : Option XId :=
  (((m.lookup current).map (·.childrenOrder)).getD []).reverse.find? (childUnderPointer m px py)

/-- The window that SendEvent takes for PointerWindow, if the loop ends within the fuel. -/
def pointerWindow (fuel : Nat) (m : HashMap XId WindowState) (px py : Int) : Option XId :=
  follow (pointerChild m px py) fuel rootWindow

def noShapes : InputShapes := fun _ => none

section Geometry

variable (m : HashMap XId WindowState)

/-- The mapped window has the point in its rectangle, in whole numbers. -/
def Inside (child : WindowState) (x y : Int) : Prop :=
  child.mapped = true ∧ (child.x ≤ x ∧ x < child.x + asI16 child.width) ∧
    child.y ≤ y ∧ y < child.y + asI16 child.height

/-- No child of `p` above `c` has the point, so that `c` is looked at. -/
def Tried (p : XId) (x y : Int) (c : XId) (child : WindowState) : Prop :=
  ∃ parent below above, m.lookup p = some parent ∧ parent.childrenOrder = below ++ c :: above ∧
    (∀ d ∈ above, ∀ win, m.lookup d = some win → ¬ Inside win x y) ∧ m.lookup c = some child

def Topmost (p : XId) (x y : Int) (c : XId) : Prop := ∃ child, Tried m p x y c child ∧ Inside child x y

def Falls (a b : Spot) : Prop :=
  ∃ child, Tried m a.1 a.2.1 a.2.2 b.1 child ∧ Inside child a.2.1 a.2.2 ∧
    b.2 = (a.2.1 - child.x, a.2.2 - child.y)

/-- The sums for the far edges, as far as they are made, are 16-bit numbers. -/
def SumsFit (child : WindowState) (x y : Int) : Prop :=
  child.mapped = true → child.x ≤ x → child.y ≤ y →
    IsI16 (child.x + asI16 child.width) ∧
      (x < child.x + asI16 child.width → IsI16 (child.y + asI16 child.height))

/-- No sum overflows for a window that one of the two descents looks at. -/
structure NoOverflow (px py : Int) : Prop where
  relative : ∀ a c child, ReflTransGen (Falls m) (rootWindow, px, py) a →
    Tried m a.1 a.2.1 a.2.2 c child → SumsFit child a.2.1 a.2.2
  absolute : ∀ w c child, ReflTransGen (fun v c => Topmost m v px py c) rootWindow w →
    Tried m w px py c child → SumsFit child px py

end Geometry

variable {m : HashMap XId WindowState} {order : List XId} {a b : Spot} {x y px py : Int} {p c : XId}
  {child : WindowState}

theorem spansUpTo_eq {lo : Int} {size : Nat} {v : Int} (hfit : IsI16 (lo + asI16 size)) :
    spansUpTo lo size v = decide (lo ≤ v ∧ v < lo + asI16 size) := by
  obtain ⟨hlow, hhigh⟩ := hfit
  rw [spansUpTo, saturatingAdd, min_eq_right (by omega), max_eq_right (by omega)]

theorem spans_eq {lo : Int} {size : Nat} {v : Int} (hfit : IsI16 (lo + asI16 size)) :
    spans lo size v = decide (lo ≤ v ∧ v < lo + asI16 size) := by
  rw [spans, asI16_of_isI16 hfit]

theorem tests_iff {test : Int → Nat → Int → Bool}
    (hnear : ∀ lo size v, test lo size v = true → lo ≤ v)
    (hfar : ∀ lo (size : Nat) v, IsI16 (lo + asI16 size) →
      test lo size v = decide (lo ≤ v ∧ v < lo + asI16 size))
    (hfit : SumsFit child x y) :
    (child.mapped && test child.x child.width x && test child.y child.height y) = true ↔ Inside child x y := by
  rw [Bool.and_eq_true, Bool.and_eq_true, Inside]
  constructor
  · rintro ⟨⟨hmpd, htestX⟩, htestY⟩
    obtain ⟨hfitX, hfitY⟩ := hfit hmpd (hnear _ _ _ htestX) (hnear _ _ _ htestY)
    rw [hfar _ _ _ hfitX, decide_eq_true_iff] at htestX
    rw [hfar _ _ _ (hfitY htestX.2), decide_eq_true_iff] at htestY
    exact ⟨hmpd, htestX, htestY⟩
  · rintro ⟨hmpd, hinX, hinY⟩
    obtain ⟨hfitX, hfitY⟩ := hfit hmpd hinX.1 hinY.1
    rw [hfar _ _ _ hfitX, hfar _ _ _ (hfitY hinX.2), decide_eq_true_iff, decide_eq_true_iff]
    exact ⟨⟨hmpd, hinX⟩, hinY⟩

theorem first_iff {α : Type} {P Q : α → Prop} {l : List α}
    (h : ∀ before d after, l = before ++ d :: after → (∀ e ∈ before, ¬ P e) → (Q d ↔ P d)) (d : α) :
    (∃ before after, l = before ++ d :: after ∧ Q d ∧ ∀ e ∈ before, ¬ Q e) ↔
      ∃ before after, l = before ++ d :: after ∧ P d ∧ ∀ e ∈ before, ¬ P e := by
  have hbef : ∀ before after, l = before ++ after → ((∀ e ∈ before, ¬ Q e) ↔ ∀ e ∈ before, ¬ P e) := by
    intro before
    induction before using List.reverseRecOn with
    | nil => simp
    | append_singleton before e ih =>
      intro after heq
      rw [append_assoc] at heq
      simp only [forall_mem_append, forall_mem_singleton, ih _ heq]
      exact and_congr_right fun hnone => not_congr (h before e after heq hnone)
  apply exists_congr
  intro before
  apply exists_congr
  intro after
  apply and_congr_right
  intro heq
  rw [hbef before _ heq]
  exact and_congr_left fun hnone => h before d after heq hnone

theorem topmost_iff_reverse {parent : WindowState} (hpar : m.lookup p = some parent) :
    Topmost m p x y c ↔ ∃ before after, parent.childrenOrder.reverse = before ++ c :: after ∧
      (∃ child, m.lookup c = some child ∧ Inside child x y) ∧
      ∀ d ∈ before, ¬ ∃ win, m.lookup d = some win ∧ Inside win x y := by
  constructor
  · rintro ⟨child, ⟨parent', below, above, hpar', hlist, hnone, hch⟩, hins⟩
    obtain rfl := some.inj (hpar.symm.trans hpar')
    refine ⟨above.reverse, below.reverse, by simp [hlist], ⟨child, hch, hins⟩, ?_⟩
    rintro d hd ⟨win, hwin, hin⟩
    exact hnone d (mem_reverse.mp hd) win hwin hin
  · rintro ⟨before, after, hlist, ⟨child, hch, hins⟩, hnone⟩
    refine ⟨child, ⟨parent, after.reverse, before.reverse, hpar, ?_, ?_, hch⟩, hins⟩
    · rw [← reverse_reverse parent.childrenOrder, hlist]
      simp
    · intro d hd win hwin hin
      exact hnone d (mem_reverse.mp hd) ⟨win, hwin, hin⟩

theorem find?_topmost_iff {test : XId → Bool} {parent : WindowState} (hpar : m.lookup p = some parent)
    (habsent : ∀ d, m.lookup d = none → test d = false)
    (htest : ∀ d child, Tried m p x y d child → (test d = true ↔ Inside child x y)) :
    parent.childrenOrder.reverse.find? test = some c ↔ Topmost m p x y c := by
  rw [topmost_iff_reverse hpar]
  refine Iff.trans ?_ (@first_iff XId (fun d => ∃ child, m.lookup d = some child ∧ Inside child x y)
    (fun d => test d = true) _ ?_ c)
  · rw [List.find?_eq_some_iff_append]
    constructor
    · rintro ⟨hc, before, after, hlist, hnone⟩
      exact ⟨before, after, hlist, hc, fun d hd => by simpa using hnone d hd⟩
    · rintro ⟨before, after, hlist, hc, hnone⟩
      exact ⟨hc, before, after, hlist, fun d hd => by simpa using hnone d hd⟩
  · intro before d after hlist hnone
    cases hd : m.lookup d with
    | none => simp [habsent d hd]
    | some child =>
      have htried : Tried m p x y d child := by
        refine ⟨parent, after.reverse, before.reverse, hpar, ?_, ?_, hd⟩
        · rw [← reverse_reverse parent.childrenOrder, hlist]
          simp
        · intro e he win hwin hin
          exact hnone e (mem_reverse.mp he) ⟨win, hwin, hin⟩
      rw [htest d child htried]
      simp

theorem pointerChild_iff (hp : p ∈ m) (hfit : ∀ c child, Tried m p px py c child → SumsFit child px py) :
    pointerChild m px py p = some c ↔ Topmost m p px py c := by
  obtain ⟨parent, hpar⟩ := isSome_iff_exists.mp (Finmap.lookup_isSome.mpr hp)
  rw [pointerChild, hpar, map_some, getD_some]
  refine find?_topmost_iff hpar (fun d hd => by rw [childUnderPointer, hd]; rfl) fun d child htried => ?_
  obtain ⟨-, -, -, -, -, -, hch⟩ := id htried
  rw [childUnderPointer, hch, any_some]
  refine tests_iff (fun lo size v h => (of_decide_eq_true h).1) ?_ (hfit d child htried)
  intro lo size v h
  exact spansUpTo_eq h

/-- What `find_deepest_window` tests of a child without an input shape. -/
def childTakes (m : HashMap XId WindowState) (x y : Int) (childId : XId) : Bool :=
  (m.lookup childId).any fun child => child.mapped && spans child.x child.width x && spans child.y child.height y

theorem asI16_relative {lo v : Int} {size : Nat} (h : lo ≤ v ∧ v < lo + asI16 size) : asI16 (v - lo) = v - lo := by
  apply asI16_of_isI16
  have hsize : asI16 size < 2 ^ 15 := by
    have hlt := Int.bmod_lt (x := size) (m := 2 ^ 16) (by decide)
    exact hlt
  unfold IsI16
  omega

theorem findSome?_childAt (l : List XId) :
    l.findSome? (childAt m noShapes x y) = (l.find? (childTakes m x y)).bind (childAt m noShapes x y) := by
  have hisSome : ∀ id, (childAt m noShapes x y id).isSome = childTakes m x y id := by
    intro id
    rw [childAt, childTakes]
    cases m.lookup id with
    | none => rfl
    | some child =>
      simp only [noShapes, all_none, Bool.and_true, any_some]
      cases child.mapped && spans child.x child.width x && spans child.y child.height y <;> rfl
  induction l with
  | nil => rfl
  | cons id l ih =>
    rw [List.findSome?_cons, List.find?_cons, ← hisSome]
    cases hid : childAt m noShapes x y id with
    | none => simpa using ih
    | some b => simp [hid]

theorem nextSpot_iff (ha : a.1 ∈ m) (hfit : ∀ c child, Tried m a.1 a.2.1 a.2.2 c child → SumsFit child a.2.1 a.2.2) :
    nextSpot order m noShapes a = some b ↔ Falls m a b := by
  obtain ⟨parent, hpar⟩ := isSome_iff_exists.mp (Finmap.lookup_isSome.mpr ha)
  have hfind : ∀ c, parent.childrenOrder.reverse.find? (childTakes m a.2.1 a.2.2) = some c ↔
      Topmost m a.1 a.2.1 a.2.2 c := by
    intro c
    refine find?_topmost_iff hpar (fun d hd => by rw [childTakes, hd]; rfl) fun d child htried => ?_
    obtain ⟨-, -, -, -, -, -, hch⟩ := id htried
    rw [childTakes, hch, any_some]
    refine tests_iff (fun lo size v h => (of_decide_eq_true h).1) ?_ (hfit d child htried)
    intro lo size v h
    exact spans_eq h
  have hat : ∀ {c child}, m.lookup c = some child → Inside child a.2.1 a.2.2 →
      childTakes m a.2.1 a.2.2 c = true →
      childAt m noShapes a.2.1 a.2.2 c = some (c, a.2.1 - child.x, a.2.2 - child.y) := by
    intro c child hch hins htakes
    rw [childTakes, hch, any_some] at htakes
    rw [childAt, hch]
    simp [noShapes, htakes, asI16_relative hins.2.1, asI16_relative hins.2.2]
  rw [nextSpot, hpar]
  dsimp only
  rw [findSome?_childAt, bind_eq_some_iff]
  constructor
  · rintro ⟨c, hc, hb⟩
    obtain ⟨child, htried, hins⟩ := (hfind c).mp hc
    obtain ⟨-, -, -, -, -, -, hch⟩ := id htried
    rw [hat hch hins (List.find?_some hc)] at hb
    obtain rfl := some.inj hb
    exact ⟨child, htried, hins, rfl⟩
  · rintro ⟨child, htried, hins, hb⟩
    have hc := (hfind b.1).mpr ⟨child, htried, hins⟩
    obtain ⟨-, -, -, -, -, -, hch⟩ := id htried
    exact ⟨b.1, hc, (hat hch hins (List.find?_some hc)).trans (congrArg some (Prod.ext rfl hb.symm))⟩

theorem topmost_functional (m : HashMap XId WindowState) (px py : Int) :
    Functional (fun v c => Topmost m v px py c) := by
  rintro p c d ⟨child, ⟨parent, below, above, hpar, hlist, hnone, hch⟩, hins⟩
    ⟨child', ⟨parent', below', above', hpar', hlist', hnone', hch'⟩, hins'⟩
  obtain rfl := some.inj (hpar.symm.trans hpar')
  refine @last_unique _ (fun d => ∃ win, m.lookup d = some win ∧ Inside win px py) _ _ _ _ _ _
    (hlist.symm.trans hlist') ⟨child, hch, hins⟩ ⟨child', hch', hins'⟩ ?_ ?_
  · rintro e he ⟨win, hwin, hin⟩
    exact hnone e he win hwin hin
  · rintro e he ⟨win, hwin, hin⟩
    exact hnone' e he win hwin hin

theorem Falls.topmost (h : Falls m a b) : Topmost m a.1 a.2.1 a.2.2 b.1 := by
  obtain ⟨child, htried, hins, -⟩ := h
  exact ⟨child, htried, hins⟩

theorem topmost_iff_falls {i : XId} : Topmost m a.1 a.2.1 a.2.2 i ↔ ∃ b, Falls m a b ∧ b.1 = i := by
  constructor
  · rintro ⟨child, htried, hins⟩
    exact ⟨(i, a.2.1 - child.x, a.2.2 - child.y), ⟨child, htried, hins, rfl⟩, rfl⟩
  · rintro ⟨b, hb, rfl⟩
    exact hb.topmost

theorem falls_functional (m : HashMap XId WindowState) : Functional (Falls m) := by
  intro a b c hb hc
  have hid := topmost_functional m a.2.1 a.2.2 a.1 b.1 c.1 hb.topmost hc.topmost
  obtain ⟨child, ⟨-, -, -, -, -, -, hch⟩, -, hbp⟩ := hb
  obtain ⟨child', ⟨-, -, -, -, -, -, hch'⟩, -, hcp⟩ := hc
  rw [hid] at hch
  obtain rfl := some.inj (hch.symm.trans hch')
  exact Prod.ext hid (hbp.trans hcp.symm)

theorem parentOf_topmost (hagr : LinksAgree m) (h : Topmost m p x y c) : parentOf (links m) c = some p := by
  obtain ⟨child, ⟨parent, below, above, hpar, hlist, -⟩, -⟩ := h
  exact parentOf_child hagr hpar (by simp [hlist])

theorem Topmost.mem (h : Topmost m p x y c) : c ∈ m := by
  obtain ⟨child, ⟨-, -, -, -, -, -, hch⟩, -⟩ := h
  rw [← Finmap.lookup_isSome, hch, isSome_some]

theorem below_of_falls (hagr : LinksAgree m) (ha : a.1 ∈ m) (h : ReflTransGen (Falls m) a b) :
    ∃ k, ancestor (links m) k b.1 = some a.1 :=
  ancestor_of_path (fun _ _ _ hab => parentOf_topmost hagr hab.topmost) ha h

theorem below_of_topmost (hagr : LinksAgree m) (hp : p ∈ m)
    (h : ReflTransGen (fun v c => Topmost m v px py c) p c) : ∃ k, ancestor (links m) k c = some p := by
  have hlift : ReflTransGen (fun a b : Spot => Topmost m a.1 px py b.1) (p, 0, 0) (c, 0, 0) :=
    h.lift (fun v => (v, 0, 0)) fun _ _ hstep => hstep
  exact ancestor_of_path (fun _ _ _ hab => parentOf_topmost hagr hab) hp hlift

theorem steps_agree_of_ends (hagr : LinksAgree m) (hacyc : NoCycle (links m)) {r : Spot}
    (hr : Ends (Falls m) a r) (hr' : Ends (fun v c => Topmost m v px py c) a.1 r.1) (i : XId) :
    Topmost m a.1 px py i ↔ ∃ b, Falls m a b ∧ b.1 = i := by
  have hfall : ∀ {b}, Falls m a b → parentOf (links m) b.1 = some a.1 ∧ ∃ k, ancestor (links m) k r.1 = some b.1 :=
    fun hb => ⟨parentOf_topmost hagr hb.topmost,
      below_of_falls hagr hb.topmost.mem (hr.tail (falls_functional m) hb).path⟩
  have hstep : ∀ {j}, Topmost m a.1 px py j →
      parentOf (links m) j = some a.1 ∧ ∃ k, ancestor (links m) k r.1 = some j :=
    fun hj => ⟨parentOf_topmost hagr hj,
      below_of_topmost hagr hj.mem (hr'.tail (topmost_functional m px py) hj).path⟩
  constructor
  · intro hi
    obtain ⟨hch, k, hk⟩ := hstep hi
    generalize hplc : r = place at hr
    cases hr with
    | stop => exact absurd (hplc ▸ hk) (hacyc.child_not_above hch)
    | @step _ b _ hb _ =>
      obtain ⟨hch', j, hj⟩ := hfall hb
      exact ⟨b, hb, hacyc.child_unique hch' hch hj hk⟩
  · rintro ⟨b, hb, rfl⟩
    obtain ⟨hch, k, hk⟩ := hfall hb
    generalize hplc : r.1 = place at hr'
    cases hr' with
    | stop => exact absurd (hplc ▸ hk) (hacyc.child_not_above hch)
    | @step _ j _ hj _ =>
      obtain ⟨hch', l, hl⟩ := hstep hj
      rwa [hacyc.child_unique hch hch' hk hl]

theorem exists_ends_falls (hagr : LinksAgree m) (hacyc : NoCycle (links m)) (a : Spot) :
    ∃ r, Ends (Falls m) a r := by
  apply exists_ends
  refine Subrelation.accessible ?_ (InvImage.accessible Prod.fst (hacyc.acc (links_finite m) a.1))
  intro c p hpc
  exact parentOf_topmost hagr hpc.topmost

theorem findDeepestWindow_ends_iff (hroot : rootWindow ∈ m) (hfit : NoOverflow m px py) (r : Spot) :
    (∃ N, ∀ n, N ≤ n → findDeepestWindow order n m noShapes rootWindow px py = some r) ↔
      Ends (Falls m) (rootWindow, px, py) r := by
  rw [← ends_congr (S := fun a b => nextSpot order m noShapes a = some b)]
  · constructor
    · rintro ⟨N, hN⟩
      exact ends_of_follow (hN N le_rfl)
    · exact Ends.follow
  · intro a ha b
    have hmem : a.1 ∈ m := by
      cases ha.cases_tail with
      | inl heq => exact heq ▸ hroot
      | inr hlast =>
        obtain ⟨d, _, hd⟩ := hlast
        exact hd.topmost.mem
    exact nextSpot_iff hmem (fun c child => hfit.relative a c child ha)

theorem pointerWindow_ends_iff (hroot : rootWindow ∈ m) (hfit : NoOverflow m px py) (w : XId) :
    (∃ N, ∀ n, N ≤ n → pointerWindow n m px py = some w) ↔
      Ends (fun v c => Topmost m v px py c) rootWindow w := by
  rw [← ends_congr (S := fun v c => pointerChild m px py v = some c)]
  · constructor
    · rintro ⟨N, hN⟩
      exact ends_of_follow (hN N le_rfl)
    · exact Ends.follow
  · intro v hv c
    have hmem : v ∈ m := by
      cases hv.cases_tail with
      | inl heq => exact heq ▸ hroot
      | inr hlast =>
        obtain ⟨d, _, hd⟩ := hlast
        exact hd.mem
    exact pointerChild_iff hmem (fun c child => hfit.absolute v c child hv)

/-- The two find the same window exactly when at every window that the point falls
through, the topmost child at the point relative to that window is the topmost child at
the point relative to the root. -/
theorem pointerWindow_agrees_iff (m : HashMap XId WindowState) (order : List XId) (px py : Int)
    (hagr : LinksAgree m) (hacyc : NoCycle (links m)) (hroot : rootWindow ∈ m) (hfit : NoOverflow m px py) :
    (∃ w x y, (∃ N, ∀ n, N ≤ n → findDeepestWindow order n m noShapes rootWindow px py = some (w, x, y)) ∧
        ∃ N, ∀ n, N ≤ n → pointerWindow n m px py = some w) ↔
      ∀ a c, ReflTransGen (Falls m) (rootWindow, px, py) a →
        (Topmost m a.1 px py c ↔ Topmost m a.1 a.2.1 a.2.2 c) := by
  simp only [findDeepestWindow_ends_iff hroot hfit, pointerWindow_ends_iff hroot hfit, topmost_iff_falls]
  have hseen := @ends_seen_iff Spot (Falls m) (rootWindow, px, py) XId (fun v c => Topmost m v px py c) Prod.fst
    (fun _ => True) (topmost_functional m px py) (fun _ _ _ _ => trivial)
    (fun a r _ => steps_agree_of_ends hagr hacyc) trivial (falls_functional m)
    (exists_ends_falls hagr hacyc (rootWindow, px, py))
  constructor
  · rintro ⟨w, x, y, hreal, hptr⟩ a c ha
    exact hseen.mp ⟨(w, x, y), hreal, hptr⟩ a ha c
  · intro h
    obtain ⟨⟨w, x, y⟩, hreal, hptr⟩ := hseen.mpr (fun a ha c => h a c ha)
    exact ⟨w, x, y, hreal, hptr⟩

section Inset

def placedAt (id parent : XId) (children : List XId) (x y : Int) (width height : Nat) : WindowState :=
  { serverWindow id ∅ with
    parent := parent, childrenOrder := children, x := x, y := y, width := width, height := height,
    winClass := inputOutput, mapped := true }

/-- A window away from the corner of the root, with a child in its own corner. -/
def inset : HashMap XId WindowState :=
  (((∅ : HashMap XId WindowState).insert rootWindow (placedAt rootWindow 0 [2] 0 0 1000 1000)).insert 2
    (placedAt 2 rootWindow [3] 100 100 200 200)).insert 3 (placedAt 3 2 [] 10 10 50 50)

theorem inset_lookup {w : XId} {win : WindowState} (h : inset.lookup w = some win) :
    w = 3 ∧ win = placedAt 3 2 [] 10 10 50 50 ∨ w = 2 ∧ win = placedAt 2 rootWindow [3] 100 100 200 200 ∨
      w = rootWindow ∧ win = placedAt rootWindow 0 [2] 0 0 1000 1000 := by
  simp only [inset, lookup_insert_eq, Finmap.lookup_empty] at h
  split at h
  · next hw => exact .inl ⟨hw, (some.inj h).symm⟩
  · split at h
    · next hw => exact .inr (.inl ⟨hw, (some.inj h).symm⟩)
    · split at h
      · next hw => exact .inr (.inr ⟨hw, (some.inj h).symm⟩)
      · cases h

theorem inset_agrees : LinksAgree inset := by
  constructor
  · intro w win h hw
    obtain ⟨rfl, rfl⟩ | ⟨rfl, rfl⟩ | ⟨rfl, -⟩ := inset_lookup h
    · exact ⟨_, rfl, rfl⟩
    · exact ⟨_, rfl, rfl⟩
    · exact absurd rfl hw
  · intro p win h c hc
    obtain ⟨rfl, rfl⟩ | ⟨rfl, rfl⟩ | ⟨rfl, rfl⟩ := inset_lookup h
    · cases hc
    · obtain rfl := mem_singleton.mp hc
      exact ⟨_, rfl, rfl⟩
    · obtain rfl := mem_singleton.mp hc
      exact ⟨_, rfl, rfl⟩

theorem inset_acyclic : NoCycle (links inset) := by
  apply noCycle_of_rank (fun w => if w = 3 then 3 else if w = 2 then 2 else if w = rootWindow then 1 else 0)
  intro w p h
  rw [parentOf_links, map_eq_some_iff] at h
  obtain ⟨win, hwin, rfl⟩ := h
  obtain ⟨rfl, rfl⟩ | ⟨rfl, rfl⟩ | ⟨rfl, rfl⟩ := inset_lookup hwin <;> decide

theorem inset_noOverflow (px py : Int) : NoOverflow inset px py := by
  have hfit : ∀ w win x y, inset.lookup w = some win → SumsFit win x y := by
    intro w win x y h _ _ _
    obtain ⟨-, rfl⟩ | ⟨-, rfl⟩ | ⟨-, rfl⟩ := inset_lookup h <;>
      exact ⟨⟨by decide, by decide⟩, fun _ => ⟨by decide, by decide⟩⟩
  constructor
  · rintro a c child _ ⟨-, -, -, -, -, -, hch⟩
    exact hfit c child _ _ hch
  · rintro w c child _ ⟨-, -, -, -, -, -, hch⟩
    exact hfit c child _ _ hch

/-- The pointer is in the outer window, left of the inner one. -/
theorem pointerWindow_agrees_inset :
    (∃ w x y, (∃ N, ∀ n, N ≤ n → findDeepestWindow [] n inset noShapes rootWindow 105 105 = some (w, x, y)) ∧
        ∃ N, ∀ n, N ≤ n → pointerWindow n inset 105 105 = some w) ↔
      ∀ a c, ReflTransGen (Falls inset) (rootWindow, 105, 105) a →
        (Topmost inset a.1 105 105 c ↔ Topmost inset a.1 a.2.1 a.2.2 c) :=
  pointerWindow_agrees_iff inset [] 105 105 inset_agrees inset_acyclic (by decide) (inset_noOverflow 105 105)

/-- The pointer is in the inner window, and SendEvent stays in the outer one. -/
theorem inset_missed :
    LinksAgree inset ∧ NoCycle (links inset) ∧ rootWindow ∈ inset ∧ NoOverflow inset 115 115 ∧
      ¬ ∃ w x y, (∃ N, ∀ n, N ≤ n → findDeepestWindow [] n inset noShapes rootWindow 115 115 = some (w, x, y)) ∧
        ∃ N, ∀ n, N ≤ n → pointerWindow n inset 115 115 = some w := by
  refine ⟨inset_agrees, inset_acyclic, by decide, inset_noOverflow 115 115, ?_⟩
  rintro ⟨w, x, y, ⟨N, hN⟩, ⟨M, hM⟩⟩
  have hreal := hN (N + 3) (Nat.le_add_right N 3)
  have hptr := hM (M + 2) (Nat.le_add_right M 2)
  have hfst : nextSpot [] inset noShapes (rootWindow, 115, 115) = some (2, 15, 15) := by decide
  have hsnd : nextSpot [] inset noShapes (2, 15, 15) = some (3, 5, 5) := by decide
  have hlast : nextSpot [] inset noShapes (3, 5, 5) = none := by decide
  have hch : pointerChild inset 115 115 rootWindow = some 2 := by decide
  have hstop : pointerChild inset 115 115 2 = none := by decide
  rw [findDeepestWindow, follow, hfst] at hreal
  rw [pointerWindow, follow, hch] at hptr
  simp only [follow, hsnd, hlast] at hreal
  simp only [follow, hstop] at hptr
  obtain rfl := some.inj hptr
  have hsame : (3 : XId) = 2 := congrArg Prod.fst (some.inj hreal)
  exact absurd hsame (by decide)

end Inset

end X11Web.PointerWindow
