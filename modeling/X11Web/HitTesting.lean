import X11Web.Acyclic
import X11Web.Coverage
import X11Web.Descents

namespace X11Web.HitTesting

open List Option

open Relation HashMaps LinkedForest RootedForest Windows
  X11Web.Coverage X11Web.Descents X11Web.Links X11Web.Acyclic

structure RegionRect where
  x : Int
  y : Int
  width : Nat
  height : Nat
deriving DecidableEq

/-- The input shapes of the windows, which the window records leave out. -/
abbrev InputShapes := XId → Option (List RegionRect)

abbrev Spot := XId × Int × Int

/-- The test of one axis. The far edge is a sum of 16 bits that wraps, as in a release build. -/
def spans (lo : Int) (size : Nat) (v : Int) : Bool := decide (lo ≤ v ∧ v < asI16 (lo + asI16 size))

def pointInShape (shape : List RegionRect) (x y : Int) : Bool :=
  shape.any (fun r => spans r.x r.width x && spans r.y r.height y)

/-- The child with the point inside it, if it takes the point. -/
def childAt (m : HashMap XId WindowState) (shapes : InputShapes) (x y : Int) (childId : XId) :
    Option Spot :=
  match m.lookup childId with
  | none => none
  | some child =>
    if child.mapped && spans child.x child.width x && spans child.y child.height y &&
        (shapes childId).all (fun shape => pointInShape shape (asI16 (x - child.x)) (asI16 (y - child.y)))
    then some (childId, asI16 (x - child.x), asI16 (y - child.y))
    else none

/-- The scan over all windows below a parent without a record; it does not look
at the shapes. -/
def scanAt (m : HashMap XId WindowState) (parent : XId) (x y : Int) (id : XId) : Option Spot :=
  match m.lookup id with
  | none => none
  | some child =>
    if child.parent == parent && child.mapped && spans child.x child.width x &&
        spans child.y child.height y
    then some (child.id, asI16 (x - child.x), asI16 (y - child.y))
    else none

/-- One level of `descend`: the topmost child that takes the point. -/
def nextSpot (order : List XId) (m : HashMap XId WindowState) (shapes : InputShapes) (at_ : Spot) :
    Option Spot :=
  match m.lookup at_.1 with
  | some parent => parent.childrenOrder.reverse.findSome? (childAt m shapes at_.2.1 at_.2.2)
  | none => order.findSome? (scanAt m at_.1 at_.2.1 at_.2.2)

def findDeepestWindow (order : List XId) (fuel : Nat) (m : HashMap XId WindowState)
    (shapes : InputShapes) (parent : XId) (x y : Int) : Option Spot :=
  follow (nextSpot order m shapes) fuel (parent, x, y)

section Geometry

variable (m : HashMap XId WindowState) (shapes : InputShapes)

/-- The mapped window contains the point, and so does its input shape if it has
one. -/
def Contains (x y : Int) (c : XId) (child : WindowState) : Prop :=
  m.lookup c = some child ∧ child.mapped = true ∧
    (x, y) ∈ box child.x child.y child.width child.height ∧
    ∀ shape, shapes c = some shape →
      ∃ r ∈ shape, (x - child.x, y - child.y) ∈ box r.x r.y r.width r.height

/-- The step into the topmost child that contains the point. -/
def Descends (a b : Spot) : Prop :=
  ∃ parent below above child, m.lookup a.1 = some parent ∧
    parent.childrenOrder = below ++ b.1 :: above ∧ Contains m shapes a.2.1 a.2.2 b.1 child ∧
    (∀ d ∈ above, ∀ win, ¬ Contains m shapes a.2.1 a.2.2 d win) ∧
    b.2 = (a.2.1 - child.x, a.2.2 - child.y)

/-- The far edges of a window, and of a rectangle of its shape at the point, are
16-bit numbers. -/
def EdgesFit (x y : Int) (c : XId) (child : WindowState) : Prop :=
  child.x + child.width < 2 ^ 15 ∧ child.y + child.height < 2 ^ 15 ∧
    ∀ shape, shapes c = some shape → ∃ r ∈ shape,
      (x - child.x, y - child.y) ∈ box r.x r.y r.width r.height ∧
        r.x + r.width < 2 ^ 15 ∧ r.y + r.height < 2 ^ 15

/-- On the way down no far edge leaves the 16-bit range. -/
def PathFits (a : Spot) : Prop :=
  ∀ b c child, ReflTransGen (Descends m shapes) a b → Descends m shapes b c →
    m.lookup c.1 = some child → EdgesFit shapes b.2.1 b.2.2 c.1 child

def IsI16 (v : Int) : Prop := -2 ^ 15 ≤ v ∧ v < 2 ^ 15

/-- Positions of 16 bits, the sizes that CreateWindow admits, and shapes with
the fields of a rectangle. -/
structure Admitted : Prop where
  position : ∀ w win, m.lookup w = some win → IsI16 win.x ∧ IsI16 win.y
  size : ∀ w win, m.lookup w = some win →
    (1 ≤ win.width ∧ win.width ≤ 32767) ∧ 1 ≤ win.height ∧ win.height ≤ 32767
  shape : ∀ w shape, shapes w = some shape → ∀ r ∈ shape,
    (IsI16 r.x ∧ IsI16 r.y) ∧ r.width < 2 ^ 16 ∧ r.height < 2 ^ 16

end Geometry

variable {m : HashMap XId WindowState} {shapes : InputShapes} {order : List XId} {a b c : Spot}
  {x y : Int} {id : XId} {child : WindowState}

theorem spans_iff {lo v : Int} {size : Nat} (hlo : IsI16 lo) (hv : IsI16 v) (hsize : size < 2 ^ 16) :
    spans lo size v = true ↔ lo ≤ v ∧ v < lo + size ∧ lo + size < 2 ^ 15 := by
  obtain ⟨hlo, hlo'⟩ := hlo
  obtain ⟨hv, hv'⟩ := hv
  rw [spans, decide_eq_true_iff, asI16, asI16, Int.add_bmod_bmod]
  rw [Int.bmod_def]
  split
  · omega
  · omega

theorem asI16_of_isI16 {v : Int} (hv : IsI16 v) : asI16 v = v := by
  obtain ⟨hv, hv'⟩ := hv
  rw [asI16, Int.bmod_def]
  split
  · omega
  · omega

theorem mem_box_iff_spans {x y x' y' : Int} {width height : Nat} (hx : IsI16 x) (hy : IsI16 y)
    (hx' : IsI16 x') (hy' : IsI16 y') (hwd : width < 2 ^ 16) (hht : height < 2 ^ 16) :
    (spans x' width x && spans y' height y) = true ↔
      (x, y) ∈ box x' y' width height ∧ x' + width < 2 ^ 15 ∧ y' + height < 2 ^ 15 := by
  rw [Bool.and_eq_true, spans_iff hx' hx hwd, spans_iff hy' hy hht, mem_box]
  tauto

theorem pointInShape_iff {shape : List RegionRect}
    (hshape : ∀ r ∈ shape, (IsI16 r.x ∧ IsI16 r.y) ∧ r.width < 2 ^ 16 ∧ r.height < 2 ^ 16)
    (hx : IsI16 x) (hy : IsI16 y) :
    pointInShape shape x y = true ↔ ∃ r ∈ shape, (x, y) ∈ box r.x r.y r.width r.height ∧
      r.x + r.width < 2 ^ 15 ∧ r.y + r.height < 2 ^ 15 := by
  rw [pointInShape, List.any_eq_true]
  apply exists_congr
  intro r
  apply and_congr_right
  intro hr
  obtain ⟨⟨hrx, hry⟩, hwd, hht⟩ := hshape r hr
  exact mem_box_iff_spans hx hy hrx hry hwd hht

theorem Admitted.relative (h : Admitted m shapes) (hch : m.lookup id = some child)
    (hbox : (x, y) ∈ box child.x child.y child.width child.height) :
    IsI16 (x - child.x) ∧ IsI16 (y - child.y) := by
  obtain ⟨⟨-, hwd⟩, -, hht⟩ := h.size id child hch
  rw [mem_box] at hbox
  unfold IsI16
  omega

theorem shape_takes_iff (h : Admitted m shapes) (hx : IsI16 x) (hy : IsI16 y) :
    (shapes id).all (fun shape => pointInShape shape x y) = true ↔
      ∀ shape, shapes id = some shape → ∃ r ∈ shape, (x, y) ∈ box r.x r.y r.width r.height ∧
        r.x + r.width < 2 ^ 15 ∧ r.y + r.height < 2 ^ 15 := by
  cases hshape : shapes id with
  | none => simp
  | some shape =>
    rw [all_some, pointInShape_iff (h.shape id shape hshape) hx hy]
    simp

theorem childAt_eq_some (h : Admitted m shapes) (hx : IsI16 x) (hy : IsI16 y) :
    childAt m shapes x y id = some b ↔ ∃ child, Contains m shapes x y id child ∧
      EdgesFit shapes x y id child ∧ b = (id, x - child.x, y - child.y) := by
  rw [childAt]
  cases hch : m.lookup id with
  | none => simp [Contains, hch]
  | some child =>
    obtain ⟨hcx, hcy⟩ := h.position id child hch
    obtain ⟨⟨-, hwd⟩, -, hht⟩ := h.size id child hch
    have hbox := mem_box_iff_spans hx hy hcx hcy (Nat.lt_of_le_of_lt hwd (by decide))
      (Nat.lt_of_le_of_lt hht (by decide))
    dsimp only
    rw [Bool.and_assoc child.mapped, ite_none_right_eq_some, Bool.and_eq_true,
      Bool.and_eq_true, hbox]
    constructor
    · rintro ⟨⟨⟨hmpd, hmem, hright, hbot⟩, hshape⟩, hb⟩
      obtain ⟨hrx, hry⟩ := h.relative hch hmem
      rw [asI16_of_isI16 hrx, asI16_of_isI16 hry] at hshape hb
      rw [shape_takes_iff h hrx hry] at hshape
      refine ⟨child, ⟨hch, hmpd, hmem, ?_⟩, ⟨hright, hbot, hshape⟩,
        (some.inj hb).symm⟩
      intro shape hs
      obtain ⟨r, hr, hrmem, -⟩ := hshape shape hs
      exact ⟨r, hr, hrmem⟩
    · rintro ⟨child', ⟨hch', hmpd, hmem, -⟩, ⟨hright, hbot, hshape⟩, rfl⟩
      obtain rfl := some.inj (hch.symm.trans hch')
      obtain ⟨hrx, hry⟩ := h.relative hch hmem
      rw [asI16_of_isI16 hrx, asI16_of_isI16 hry, shape_takes_iff h hrx hry]
      exact ⟨⟨⟨hmpd, hmem, hright, hbot⟩, hshape⟩, rfl⟩

theorem childAt_id (h : childAt m shapes x y id = some b) : b.1 = id := by
  rw [childAt] at h
  cases hch : m.lookup id with
  | none => simp [hch] at h
  | some child =>
    rw [hch] at h
    obtain ⟨-, hb⟩ := ite_none_right_eq_some.mp h
    rw [← some.inj hb]

theorem nextSpot_eq_some (h : Admitted m shapes) (hx : IsI16 a.2.1) (hy : IsI16 a.2.2)
    {parent : WindowState} (hpar : m.lookup a.1 = some parent) :
    nextSpot order m shapes a = some b ↔ ∃ below above child,
      parent.childrenOrder = below ++ b.1 :: above ∧ Contains m shapes a.2.1 a.2.2 b.1 child ∧
      EdgesFit shapes a.2.1 a.2.2 b.1 child ∧
      (∀ d ∈ above, ∀ win, Contains m shapes a.2.1 a.2.2 d win →
        ¬ EdgesFit shapes a.2.1 a.2.2 d win) ∧
      b.2 = (a.2.1 - child.x, a.2.2 - child.y) := by
  rw [nextSpot, hpar]
  dsimp only
  rw [List.findSome?_eq_some_iff]
  constructor
  · rintro ⟨above, id, below, hlist, hat, hnone⟩
    obtain ⟨child, hhas, hfit, rfl⟩ := (childAt_eq_some h hx hy).mp hat
    refine ⟨below.reverse, above.reverse, child, ?_, hhas, hfit, ?_, rfl⟩
    · rw [← reverse_reverse parent.childrenOrder, hlist]
      simp
    · intro d hd win hwin hfits
      have := hnone d (mem_reverse.mp hd)
      rw [eq_none_iff_forall_ne_some] at this
      exact this _ ((childAt_eq_some h hx hy).mpr ⟨win, hwin, hfits, rfl⟩)
  · rintro ⟨below, above, child, hlist, hhas, hfit, hnone, hb⟩
    refine ⟨above.reverse, b.1, below.reverse, ?_, ?_, ?_⟩
    · rw [hlist]
      simp
    · exact (childAt_eq_some h hx hy).mpr ⟨child, hhas, hfit, Prod.ext rfl hb⟩
    · intro d hd
      rw [eq_none_iff_forall_ne_some]
      intro e he
      obtain ⟨win, hwin, hfits, -⟩ := (childAt_eq_some h hx hy).mp he
      exact hnone d (mem_reverse.mp hd) win hwin hfits

theorem exists_last {α : Type} {P : α → Prop} {l : List α} {d : α} (hd : d ∈ l) (hP : P d) :
    ∃ below c above, l = below ++ c :: above ∧ P c ∧ ∀ e ∈ above, ¬ P e := by
  induction l using List.reverseRecOn with
  | nil => simp at hd
  | append_singleton l e ih =>
    by_cases he : P e
    · exact ⟨l, e, [], rfl, he, by simp⟩
    · obtain hd | hd := mem_append.mp hd
      · obtain ⟨below, c, above, rfl, hc, habove⟩ := ih hd
        refine ⟨below, c, above ++ [e], by simp, hc, ?_⟩
        intro f hf
        obtain hf | hf := mem_append.mp hf
        · exact habove f hf
        · rwa [mem_singleton.mp hf]
      · rw [mem_singleton.mp hd] at hP
        exact absurd hP he

theorem last_unique {α : Type} {P : α → Prop} {below above below' above' : List α} {c d : α}
    (heq : below ++ c :: above = below' ++ d :: above') (hc : P c) (hd : P d)
    (habove : ∀ e ∈ above, ¬ P e) (habove' : ∀ e ∈ above', ¬ P e) : c = d := by
  obtain ⟨l, hl, hr⟩ | ⟨l, hl, hr⟩ := append_eq_append_iff.mp heq
  · cases l with
    | nil => exact (List.cons.inj hr).1
    | cons e l =>
      obtain ⟨-, rfl⟩ := List.cons.inj hr
      exact absurd hd (habove d (by simp))
  · cases l with
    | nil => exact (List.cons.inj hr).1.symm
    | cons e l =>
      obtain ⟨-, rfl⟩ := List.cons.inj hr
      exact absurd hc (habove' c (by simp))

theorem descends_functional (m : HashMap XId WindowState) (shapes : InputShapes) :
    Functional (Descends m shapes) := by
  rintro a b c ⟨parent, below, above, child, hpar, hlist, hb, hnone, hbp⟩
    ⟨parent', below', above', child', hpar', hlist', hc, hnone', hcp⟩
  obtain rfl := some.inj (hpar.symm.trans hpar')
  have hid : b.1 = c.1 := by
    apply last_unique (P := fun d => ∃ win, Contains m shapes a.2.1 a.2.2 d win)
      (hlist.symm.trans hlist') ⟨child, hb⟩ ⟨child', hc⟩
    · rintro e he ⟨win, hwin⟩
      exact hnone e he win hwin
    · rintro e he ⟨win, hwin⟩
      exact hnone' e he win hwin
  have hlook := hb.1
  rw [hid, hc.1] at hlook
  obtain rfl := some.inj hlook
  exact Prod.ext hid (hbp.trans hcp.symm)

theorem parentOf_child (hagr : LinksAgree m) {p : XId} {parent : WindowState}
    (hpar : m.lookup p = some parent) (hc : id ∈ parent.childrenOrder) :
    parentOf (links m) id = some p := by
  obtain ⟨child, hch, rfl⟩ := hagr.down p parent hpar id hc
  rw [parentOf_links, hch, map_some]

theorem parentOf_descends (hagr : LinksAgree m) (h : Descends m shapes a b) :
    parentOf (links m) b.1 = some a.1 := by
  obtain ⟨parent, below, above, child, hpar, hlist, -⟩ := h
  exact parentOf_child hagr hpar (by simp [hlist])

theorem parentOf_nextSpot (hagr : LinksAgree m) (ha : a.1 ∈ m)
    (h : nextSpot order m shapes a = some b) : parentOf (links m) b.1 = some a.1 := by
  obtain ⟨parent, hpar⟩ := isSome_iff_exists.mp (Finmap.lookup_isSome.mpr ha)
  rw [nextSpot, hpar] at h
  obtain ⟨id, hid, hat⟩ := exists_of_findSome?_eq_some h
  rw [childAt_id hat]
  exact parentOf_child hagr hpar (mem_reverse.mp hid)

theorem mem_of_parentOf {p : XId} (h : parentOf (links m) id = some p) : id ∈ m := by
  obtain ⟨n, hn, -⟩ := parentOf_eq_some.mp h
  exact (links_isSome m id).mp (by simp [hn])

theorem ancestor_of_path {Q : Spot → Spot → Prop}
    (hQ : ∀ a b, a.1 ∈ m → Q a b → parentOf (links m) b.1 = some a.1) (ha : a.1 ∈ m)
    (h : ReflTransGen Q a b) : ∃ k, ancestor (links m) k b.1 = some a.1 := by
  induction h with
  | refl => exact ⟨0, rfl⟩
  | @tail b c hab hbc ih =>
    obtain ⟨k, hk⟩ := ih
    have hb : b.1 ∈ m := by
      cases k with
      | zero =>
        rw [some.inj hk]
        exact ha
      | succ k => exact (links_isSome m b.1).mp (ancestor_present hk)
    exact ⟨k + 1, ancestor_succ.mpr ⟨b.1, hQ b c hb hbc, hk⟩⟩

def Placed (m : HashMap XId WindowState) (a : Spot) : Prop := a.1 ∈ m ∧ IsI16 a.2.1 ∧ IsI16 a.2.2

theorem Placed.lookup (h : Placed m a) : ∃ parent, m.lookup a.1 = some parent :=
  isSome_iff_exists.mp (Finmap.lookup_isSome.mpr h.1)

theorem placed_of_descends (hadm : Admitted m shapes) (hab : Descends m shapes a b) :
    Placed m b := by
  obtain ⟨parent, below, above, child, hpar, -, ⟨hch, -, hbox, -⟩, -, hb⟩ := hab
  obtain ⟨hrx, hry⟩ := hadm.relative hch hbox
  refine ⟨?_, ?_, ?_⟩
  · rw [← Finmap.lookup_isSome, hch, isSome_some]
  · rwa [hb]
  · rwa [hb]

theorem nextSpot_descends_iff (h : Placed m a) (hadm : Admitted m shapes)
    (hab : Descends m shapes a b) (hch : m.lookup b.1 = some child) :
    nextSpot order m shapes a = some b ↔ EdgesFit shapes a.2.1 a.2.2 b.1 child := by
  obtain ⟨parent, hpar⟩ := h.lookup
  rw [nextSpot_eq_some hadm h.2.1 h.2.2 hpar]
  constructor
  · rintro ⟨-, -, child', -, hhas, hfit, -⟩
    obtain rfl := some.inj (hch.symm.trans hhas.1)
    exact hfit
  · intro hfit
    obtain ⟨parent', below, above, child', hpar', hlist, hhas, hnone, hb⟩ := hab
    obtain rfl := some.inj (hpar.symm.trans hpar')
    obtain rfl := some.inj (hch.symm.trans hhas.1)
    exact ⟨below, above, child, hlist, hhas, hfit,
      fun d hd win hwin => absurd hwin (hnone d hd win), hb⟩

theorem exists_descends (h : Placed m a) (hadm : Admitted m shapes)
    (hab : nextSpot order m shapes a = some b) : ∃ c, Descends m shapes a c := by
  obtain ⟨parent, hpar⟩ := h.lookup
  obtain ⟨below, above, child, hlist, hhas, -⟩ :=
    (nextSpot_eq_some hadm h.2.1 h.2.2 hpar).mp hab
  have hmem : b.1 ∈ parent.childrenOrder := by simp [hlist]
  obtain ⟨below', c, above', hlist', ⟨win, hwin⟩, hnone⟩ :=
    exists_last (P := fun d => ∃ win, Contains m shapes a.2.1 a.2.2 d win) hmem ⟨child, hhas⟩
  exact ⟨(c, a.2.1 - win.x, a.2.2 - win.y), parent, below', above', win, hpar, hlist', hwin,
    fun d hd win' hwin' => hnone d hd ⟨win', hwin'⟩, rfl⟩

/-- Where the code ends together with the geometric descent, it took its steps:
the windows below another child, and the parent itself, are other windows. -/
theorem nextSpot_of_ends (hagr : LinksAgree m) (hacyc : NoCycle (links m))
    (h : Placed m a) (hadm : Admitted m shapes) (hab : Descends m shapes a b) {r : Spot}
    (hends : Ends (Descends m shapes) a r)
    (hends' : Ends (fun a b => nextSpot order m shapes a = some b) a r) :
    nextSpot order m shapes a = some b := by
  have hch := parentOf_descends hagr hab
  obtain ⟨j, hj⟩ := ancestor_of_path (fun _ _ _ => parentOf_descends hagr)
    (mem_of_parentOf hch) (hends.tail (descends_functional m shapes) hab).path
  cases hends' with
  | stop => exact absurd hj (hacyc.child_not_above hch)
  | @step _ c _ hac hcr =>
    have hch' := parentOf_nextSpot hagr h.1 hac
    obtain ⟨k, hk⟩ := ancestor_of_path (fun _ _ => parentOf_nextSpot hagr)
      (mem_of_parentOf hch') hcr.path
    have hid := hacyc.child_unique hch hch' hj hk
    obtain ⟨parent, hpar⟩ := h.lookup
    obtain ⟨-, -, win, -, hhas, -, -, hc⟩ :=
      (nextSpot_eq_some hadm h.2.1 h.2.2 hpar).mp hac
    obtain ⟨-, -, -, win', -, -, hhas', -, hb⟩ := hab
    have hlook := hhas.1
    rw [← hid, hhas'.1] at hlook
    obtain rfl := some.inj hlook
    rwa [show b = c from Prod.ext hid (hb.trans hc.symm)]

theorem exists_ends_descends (hagr : LinksAgree m) (hacyc : NoCycle (links m)) (a : Spot) :
    ∃ r, Ends (Descends m shapes) a r := by
  apply exists_ends
  refine Subrelation.accessible ?_
    (InvImage.accessible Prod.fst (hacyc.acc (links_finite m) a.1))
  intro c p hpc
  exact parentOf_descends hagr hpc

/-- The code finds the window of the geometric descent, with the point relative
to it, exactly when no far edge on the way leaves the 16-bit range. -/
theorem findDeepestWindow_geometric_iff (m : HashMap XId WindowState) (shapes : InputShapes)
    (order : List XId) (start : XId) (x y : Int) (hagr : LinksAgree m)
    (hacyc : NoCycle (links m)) (hadm : Admitted m shapes) (hst : start ∈ m)
    (hx : IsI16 x) (hy : IsI16 y) :
    (∃ r, Ends (Descends m shapes) (start, x, y) r ∧
      ∃ N, ∀ n, N ≤ n → findDeepestWindow order n m shapes start x y = some r) ↔
      PathFits m shapes (start, x, y) := by
  have hcode : ∀ r, (∃ N, ∀ n, N ≤ n → findDeepestWindow order n m shapes start x y = some r) ↔
      Ends (fun a b => nextSpot order m shapes a = some b) (start, x, y) r := by
    intro r
    constructor
    · rintro ⟨N, hN⟩
      exact ends_of_follow (hN N le_rfl)
    · exact Ends.follow
  have hplcd : Placed m (start, x, y) := ⟨hst, hx, hy⟩
  simp only [hcode]
  rw [ends_together_iff (I := Placed m) (functional_next _) (descends_functional m shapes)
    (fun _ _ _ => placed_of_descends hadm) (fun b c hb => exists_descends hb hadm)
    (fun b c r hb hbc hr hr' => nextSpot_of_ends hagr hacyc hb hadm hbc hr hr') hplcd
    (exists_ends_descends hagr hacyc _)]
  have hrch : ∀ b, ReflTransGen (Descends m shapes) (start, x, y) b → Placed m b := by
    intro b hb
    induction hb with
    | refl => exact hplcd
    | tail _ hbc _ => exact placed_of_descends hadm hbc
  constructor
  · intro h b c child hb hbc hch
    exact (nextSpot_descends_iff (hrch b hb) hadm hbc hch).mp (h b c hb hbc)
  · intro h b c hb hbc
    obtain ⟨child, hch⟩ := (placed_of_descends hadm hbc).lookup
    exact (nextSpot_descends_iff (hrch b hb) hadm hbc hch).mpr
      (h b c child hb hbc hch)

section FarEdge

/-- A mapped window, which may reach over the right edge of the 16-bit plane. -/
def farWindow (x : Int) : WindowState :=
  { serverWindow 1 ∅ with
    x := x, y := 0, width := 1000, height := 10, winClass := inputOutput, mapped := true }

def farRoot : WindowState := { rootRecord ∅ with childrenOrder := [1] }

def farMap (x : Int) : HashMap XId WindowState :=
  ((∅ : HashMap XId WindowState).insert rootWindow farRoot).insert 1 (farWindow x)

variable {x : Int}

theorem farMap_lookup {w : XId} {win : WindowState} (h : (farMap x).lookup w = some win) :
    w = 1 ∧ win = farWindow x ∨ w = rootWindow ∧ win = farRoot := by
  rw [farMap, lookup_insert_eq, lookup_insert_eq] at h
  split at h
  · next hw => exact .inl ⟨hw, (some.inj h).symm⟩
  · split at h
    · next hw => exact .inr ⟨hw, (some.inj h).symm⟩
    · simp at h

theorem farMap_agrees : LinksAgree (farMap x) := by
  constructor
  · intro w win h hw
    obtain ⟨rfl, rfl⟩ | ⟨rfl, -⟩ := farMap_lookup h
    · exact ⟨farRoot, rfl, rfl⟩
    · exact absurd rfl hw
  · intro p win h c hc
    obtain ⟨-, rfl⟩ | ⟨rfl, rfl⟩ := farMap_lookup h
    · exact absurd hc (not_mem_nil)
    · obtain rfl := mem_singleton.mp hc
      exact ⟨farWindow x, rfl, rfl⟩

theorem farMap_acyclic : NoCycle (links (farMap x)) := by
  apply noCycle_of_rank (fun w => if w = 1 then 2 else if w = rootWindow then 1 else 0)
  intro w p h
  rw [parentOf_links, map_eq_some_iff] at h
  obtain ⟨win, hwin, rfl⟩ := h
  obtain ⟨rfl, rfl⟩ | ⟨rfl, rfl⟩ := farMap_lookup hwin
  · show (if rootWindow = 1 then 2 else if rootWindow = rootWindow then 1 else 0) < 2
    decide
  · decide

theorem farMap_admitted (hx : IsI16 x) : Admitted (farMap x) (fun _ => none) := by
  constructor
  · intro w win h
    obtain ⟨-, rfl⟩ | ⟨-, rfl⟩ := farMap_lookup h
    · simpa [farWindow, IsI16] using hx
    · unfold IsI16
      decide
  · intro w win h
    obtain ⟨-, rfl⟩ | ⟨-, rfl⟩ := farMap_lookup h
    · simp [farWindow]
    · decide
  · intro w shape h
    cases h

theorem findDeepestWindow_geometric_farMap :
    (∃ r, Ends (Descends (farMap 10) (fun _ => none)) (rootWindow, 15, 5) r ∧
      ∃ N, ∀ n, N ≤ n → findDeepestWindow [] n (farMap 10) (fun _ => none) rootWindow 15 5 = some r) ↔
      PathFits (farMap 10) (fun _ => none) (rootWindow, 15, 5) :=
  findDeepestWindow_geometric_iff (farMap 10) (fun _ => none) [] rootWindow 15 5 farMap_agrees
    farMap_acyclic (farMap_admitted ⟨by decide, by decide⟩) (by decide) ⟨by decide, by decide⟩ ⟨by decide, by decide⟩

/-- The point lies in the window, but the code stays in the root. -/
theorem farWindow_missed :
    ¬ ∃ r, Ends (Descends (farMap 32000) (fun _ => none)) (rootWindow, 32100, 5) r ∧
      ∃ N, ∀ n, N ≤ n →
        findDeepestWindow [] n (farMap 32000) (fun _ => none) rootWindow 32100 5 = some r := by
  rintro ⟨r, hr, N, hN⟩
  have hcode : r = (rootWindow, 32100, 5) := by
    have h := hN (N + 1) (Nat.le_succ N)
    have hstop : nextSpot [] (farMap 32000) (fun _ => none) (rootWindow, 32100, 5) = none := by decide
    rw [findDeepestWindow, follow, hstop] at h
    exact (some.inj h).symm
  have hdown : Descends (farMap 32000) (fun _ => none) (rootWindow, 32100, 5) (1, 100, 5) := by
    refine ⟨farRoot, [], [], farWindow 32000, rfl, rfl, ⟨rfl, rfl, by simp [mem_box, farWindow], ?_⟩,
      by simp, rfl⟩
    intro shape h
    cases h
  have htail := hr.tail (descends_functional _ _) hdown
  rw [hcode] at htail
  cases htail with
  | step h _ =>
    obtain ⟨parent, below, above, -, hpar, hlist, -⟩ := h
    obtain rfl : farWindow 32000 = parent := some.inj hpar
    simp [farWindow, serverWindow] at hlist

end FarEdge

end X11Web.HitTesting
