import Mathlib.Data.List.Pairwise
import Mathlib.Order.CompletePartialOrder
import Mathlib.Order.Interval.Set.LinearOrder
import Mathlib.Data.Set.Lattice
import Mathlib.Data.Set.Prod

namespace X11Web.Boxes

/-! Axis-parallel boxes over a linear order, half open on both axes. -/

/-- The box from `left` to `right` and from `top` to `bottom`. -/
structure Box (α : Type*) where
  left : α
  top : α
  right : α
  bottom : α

variable {α : Type*} [LinearOrder α] {r s b : Box α} {A B : List (Box α)}

namespace Box

def points (b : Box α) : Set (α × α) := { p | (b.left ≤ p.1 ∧ p.1 < b.right) ∧ b.top ≤ p.2 ∧ p.2 < b.bottom }

def Upright (b : Box α) : Prop := b.left ≤ b.right ∧ b.top ≤ b.bottom

def Nondegenerate (b : Box α) : Prop := b.left < b.right ∧ b.top < b.bottom

instance (b : Box α) : Decidable b.Nondegenerate := inferInstanceAs (Decidable (_ ∧ _))

def Inside (r s : Box α) : Prop := (s.left ≤ r.left ∧ r.right ≤ s.right) ∧ s.top ≤ r.top ∧ r.bottom ≤ s.bottom

def meet (r s : Box α) : Box α := ⟨max r.left s.left, max r.top s.top, min r.right s.right, min r.bottom s.bottom⟩

def join (r s : Box α) : Box α := ⟨min r.left s.left, min r.top s.top, max r.right s.right, max r.bottom s.bottom⟩

/-- The strip of a box over another, the parts beside it, and the strip under it. -/
def cut (r s : Box α) : List (Box α) :=
  if s.left ≥ r.right ∨ s.right ≤ r.left ∨ s.top ≥ r.bottom ∨ s.bottom ≤ r.top then [r]
  else
    let midTop := max r.top s.top
    let midBottom := min r.bottom s.bottom
    (if s.top > r.top then [⟨r.left, r.top, r.right, s.top⟩] else []) ++
    (if midTop < midBottom then
      (if s.left > r.left then [⟨r.left, midTop, s.left, midBottom⟩] else []) ++
      (if s.right < r.right then [⟨s.right, midTop, r.right, midBottom⟩] else [])
    else []) ++
    (if s.bottom < r.bottom then [⟨r.left, s.bottom, r.right, r.bottom⟩] else [])

theorem mem_points {p : α × α} : p ∈ b.points ↔ (b.left ≤ p.1 ∧ p.1 < b.right) ∧ b.top ≤ p.2 ∧ p.2 < b.bottom := .rfl

theorem nondegenerate_of_mem {p : α × α} (h : p ∈ b.points) : b.Nondegenerate :=
  ⟨h.1.1.trans_lt h.1.2, h.2.1.trans_lt h.2.2⟩

theorem inside_rfl : r.Inside r := ⟨⟨le_refl _, le_refl _⟩, le_refl _, le_refl _⟩

theorem points_meet (r s : Box α) : (r.meet s).points = r.points ∩ s.points := by
  ext p
  simp only [mem_points, meet, sup_le_iff, lt_inf_iff, Set.mem_inter_iff]
  tauto

end Box

open Box

def area (A : List (Box α)) : Set (α × α) := { p | ∃ b ∈ A, p ∈ b.points }

theorem mem_area {p : α × α} : p ∈ area A ↔ ∃ b ∈ A, p ∈ b.points := .rfl

@[simp] theorem area_nil : area ([] : List (Box α)) = ∅ := by
  ext p
  simp [mem_area]

@[simp] theorem area_cons (b : Box α) (A : List (Box α)) : area (b :: A) = b.points ∪ area A := by
  ext p
  simp [mem_area]

@[simp] theorem area_append (A B : List (Box α)) : area (A ++ B) = area A ∪ area B := by
  ext p
  simp [mem_area, or_and_right, exists_or]

theorem area_flatMap {f : Box α → List (Box α)} {S : Set (α × α)} (h : ∀ b ∈ A, area (f b) = b.points \ S) :
    area (A.flatMap f) = area A \ S := by
  induction A with
  | nil => simp
  | cons b A ih =>
    rw [List.flatMap_cons, area_append, area_cons, h b List.mem_cons_self,
      ih fun c hc => h c (List.mem_cons_of_mem b hc), Set.union_sdiff_distrib]

def Overlaps (r s : Box α) : Prop := (s.left < r.right ∧ r.left < s.right) ∧ s.top < r.bottom ∧ r.top < s.bottom

/-- What a cut leaves of a box over the other, on its left, on its right and under it. -/
abbrev above (r s : Box α) : Box α := ⟨r.left, r.top, r.right, s.top⟩
abbrev leftOf (r s : Box α) : Box α := ⟨r.left, max r.top s.top, s.left, min r.bottom s.bottom⟩
abbrev rightOf (r s : Box α) : Box α := ⟨s.right, max r.top s.top, r.right, min r.bottom s.bottom⟩
abbrev under (r s : Box α) : Box α := ⟨r.left, s.bottom, r.right, r.bottom⟩

def parts (r s : Box α) : List (Box α) := [above r s, leftOf r s, rightOf r s, under r s]

theorem cut_of_overlaps (h : Overlaps r s) : cut r s =
    (if r.top < s.top then [above r s] else []) ++
    (if max r.top s.top < min r.bottom s.bottom then
      (if r.left < s.left then [leftOf r s] else []) ++ (if s.right < r.right then [rightOf r s] else [])
    else []) ++
    (if s.bottom < r.bottom then [under r s] else []) := by
  obtain ⟨⟨hleft, hright⟩, htop, hbot⟩ := h
  exact if_neg (not_or.mpr ⟨hleft.not_ge, not_or.mpr ⟨hright.not_ge, not_or.mpr ⟨htop.not_ge, hbot.not_ge⟩⟩⟩)

theorem cut_of_not_overlaps (h : ¬Overlaps r s) : cut r s = [r] := by
  refine if_pos (by_contra fun hnot => h ?_)
  simp only [not_or, not_le] at hnot
  exact ⟨⟨hnot.1, hnot.2.1⟩, hnot.2.2⟩

omit [LinearOrder α] in
theorem sublist_if {c : Prop} [Decidable c] (b : Box α) : (if c then [b] else []).Sublist [b] := by
  split
  · exact .refl _
  · exact List.nil_sublist _

theorem cut_sublist (h : Overlaps r s) : (cut r s).Sublist (parts r s) := by
  have hmiddle : (if max r.top s.top < min r.bottom s.bottom then
      (if r.left < s.left then [leftOf r s] else []) ++ (if s.right < r.right then [rightOf r s] else [])
      else []).Sublist [leftOf r s, rightOf r s] := by
    split
    · exact (sublist_if _).append (sublist_if _)
    · exact List.nil_sublist _
  rw [cut_of_overlaps h]
  exact ((sublist_if (above r s)).append hmiddle).append (sublist_if (under r s))

theorem area_if {c : Prop} [Decidable c] (h : b.Nondegenerate → c) : area (if c then [b] else []) = b.points := by
  split
  · rw [area_cons, area_nil, Set.union_empty]
  · next hc =>
    rw [area_nil]
    exact (Set.eq_empty_of_forall_notMem fun p hp => hc (h (nondegenerate_of_mem hp))).symm

theorem area_cut_parts (h : Overlaps r s) : area (cut r s) = area (parts r s) := by
  have habove : area (if r.top < s.top then [above r s] else []) = (above r s).points := area_if And.right
  have hleft : area (if r.left < s.left then [leftOf r s] else []) = (leftOf r s).points := area_if And.left
  have hright : area (if s.right < r.right then [rightOf r s] else []) = (rightOf r s).points := area_if And.left
  have hunder : area (if s.bottom < r.bottom then [under r s] else []) = (under r s).points := area_if And.right
  rw [cut_of_overlaps h, area_append, area_append, habove, hunder]
  simp only [parts, area_cons, area_nil, Set.union_empty, Set.union_assoc]
  congr 1
  split
  · rw [area_append, hleft, hright, Set.union_assoc]
  · next hflat =>
    have hnoLeft : (leftOf r s).points = ∅ :=
      Set.eq_empty_of_forall_notMem fun p hp => hflat (nondegenerate_of_mem hp).2
    have hnoRight : (rightOf r s).points = ∅ :=
      Set.eq_empty_of_forall_notMem fun p hp => hflat (nondegenerate_of_mem hp).2
    rw [hnoLeft, hnoRight, area_nil, Set.empty_union, Set.empty_union]

theorem inside_of_mem_cut (h : b ∈ cut r s) : b.Inside r := by
  by_cases hovl : Overlaps r s
  · have hpts : b ∈ parts r s := (cut_sublist hovl).subset h
    obtain ⟨⟨hleft, hright⟩, htop, hbot⟩ := hovl
    simp only [parts, List.mem_cons, List.not_mem_nil, or_false] at hpts
    obtain rfl | rfl | rfl | rfl := hpts
    · exact ⟨⟨le_refl _, le_refl _⟩, le_refl _, htop.le⟩
    · exact ⟨⟨le_refl _, hleft.le⟩, le_max_left _ _, min_le_left _ _⟩
    · exact ⟨⟨hright.le, le_refl _⟩, le_max_left _ _, min_le_left _ _⟩
    · exact ⟨⟨le_refl _, le_refl _⟩, hbot.le, le_refl _⟩
  · rw [cut_of_not_overlaps hovl] at h
    rw [List.mem_singleton.mp h]
    exact inside_rfl

theorem area_cut (r s : Box α) : area (cut r s) = r.points \ s.points := by
  by_cases hovl : Overlaps r s
  · rw [area_cut_parts hovl]
    obtain ⟨⟨hleft, hright⟩, htop, hbot⟩ := hovl
    ext p
    simp only [parts, area_cons, area_nil, Set.mem_union, Set.mem_empty_iff_false, or_false, mem_points, sup_le_iff,
      lt_inf_iff, Set.mem_sdiff]
    constructor
    · rintro (⟨hx, hy⟩ | ⟨hx, hy⟩ | ⟨hx, hy⟩ | ⟨hx, hy⟩)
      · exact ⟨⟨hx, hy.1, hy.2.trans htop⟩, fun hs => (hs.2.1.trans_lt hy.2).false⟩
      · exact ⟨⟨⟨hx.1, hx.2.trans hleft⟩, hy.1.1, hy.2.1⟩, fun hs => (hs.1.1.trans_lt hx.2).false⟩
      · exact ⟨⟨⟨hright.le.trans hx.1, hx.2⟩, hy.1.1, hy.2.1⟩, fun hs => (hs.1.2.trans_le hx.1).false⟩
      · exact ⟨⟨hx, hbot.le.trans hy.1, hy.2⟩, fun hs => (hs.2.2.trans_le hy.1).false⟩
    · rintro ⟨⟨hx, hy⟩, hout⟩
      -- over the other box, under it, and else beside it
      rcases lt_or_ge p.2 s.top with habove | hbel
      · exact .inl ⟨hx, hy.1, habove⟩
      rcases lt_or_ge p.2 s.bottom with hmiddle | hunder
      · rcases lt_or_ge p.1 s.left with hbef | haft
        · exact .inr (.inl ⟨⟨hx.1, hbef⟩, ⟨hy.1, hbel⟩, hy.2, hmiddle⟩)
        · have hpast : s.right ≤ p.1 := le_of_not_gt fun hlt => hout ⟨⟨haft, hlt⟩, hbel, hmiddle⟩
          exact .inr (.inr (.inl ⟨⟨hpast, hx.2⟩, ⟨hy.1, hbel⟩, hy.2, hmiddle⟩))
      · exact .inr (.inr (.inr ⟨hx, hunder, hy.2⟩))
  · have hapart : Disjoint r.points s.points := Set.disjoint_left.mpr fun p hr hs => hovl
      ⟨⟨hs.1.1.trans_lt hr.1.2, hr.1.1.trans_lt hs.1.2⟩, hs.2.1.trans_lt hr.2.2, hr.2.1.trans_lt hs.2.2⟩
    rw [cut_of_not_overlaps hovl, area_cons, area_nil, Set.union_empty, hapart.sdiff_eq_left]

def Apart (A : List (Box α)) : Prop := A.Pairwise fun b c => Disjoint b.points c.points

theorem apart_parts (hs : s.Upright) (r : Box α) : Apart (parts r s) := by
  have habove : ∀ b : Box α, s.top ≤ b.top → Disjoint (above r s).points b.points := fun b hb =>
    Set.disjoint_left.mpr fun p hp hq => (hp.2.2.trans_le (hb.trans hq.2.1)).false
  have hunder : ∀ b : Box α, b.bottom ≤ s.bottom → Disjoint b.points (under r s).points := fun b hb =>
    Set.disjoint_left.mpr fun p hp hq => (hp.2.2.trans_le (hb.trans hq.2.1)).false
  have hbeside : Disjoint (leftOf r s).points (rightOf r s).points :=
    Set.disjoint_left.mpr fun p hp hq => (hp.1.2.trans_le (hs.1.trans hq.1.1)).false
  simp only [Apart, parts, List.pairwise_cons, List.forall_mem_cons]
  exact ⟨⟨habove _ (le_max_right _ _), habove _ (le_max_right _ _), habove _ hs.2, List.forall_mem_nil _⟩,
    ⟨hbeside, hunder _ (min_le_right _ _), List.forall_mem_nil _⟩, ⟨hunder _ (min_le_right _ _), List.forall_mem_nil _⟩,
    List.forall_mem_nil _, .nil⟩

theorem apart_cut (hs : s.Upright) (r : Box α) : Apart (cut r s) := by
  by_cases hovl : Overlaps r s
  · exact (apart_parts hs r).sublist (cut_sublist hovl)
  · rw [cut_of_not_overlaps hovl]
    exact List.pairwise_singleton _ _

theorem apart_flatMap {f : Box α → List (Box α)} (hA : Apart A) (hf : ∀ b ∈ A, Apart (f b))
    (hsub : ∀ b ∈ A, area (f b) ⊆ b.points) : Apart (A.flatMap f) := by
  induction A with
  | nil => exact .nil
  | cons b A ih =>
    obtain ⟨hb, hA⟩ := List.pairwise_cons.mp hA
    rw [List.flatMap_cons, Apart, List.pairwise_append]
    refine ⟨hf b List.mem_cons_self, ih hA (fun c hc => hf c (List.mem_cons_of_mem b hc))
      (fun c hc => hsub c (List.mem_cons_of_mem b hc)), fun x hx y hy => ?_⟩
    obtain ⟨c, hc, hy⟩ := List.mem_flatMap.mp hy
    have hx' : x.points ⊆ b.points := fun p hp => hsub b List.mem_cons_self ⟨x, hx, hp⟩
    have hy' : y.points ⊆ c.points := fun p hp => hsub c (List.mem_cons_of_mem b hc) ⟨y, hy, hp⟩
    exact (hb c hc).mono hx' hy'

/-- Cutting every box of `A` by every box of `B` in turn. -/
def cutAll (A B : List (Box α)) : List (Box α) := B.foldl (fun rest s => rest.flatMap (cut · s)) A

theorem area_cutAll (A B : List (Box α)) : area (cutAll A B) = area A \ area B := by
  induction B generalizing A with
  | nil => simp [cutAll]
  | cons s B ih =>
    have hstep : area (A.flatMap (cut · s)) = area A \ s.points := area_flatMap fun b _ => area_cut b s
    rw [cutAll, List.foldl_cons, ← cutAll, ih, hstep, area_cons, Set.sdiff_sdiff]

theorem apart_cutAll (hA : Apart A) (hB : ∀ s ∈ B, s.Upright) : Apart (cutAll A B) := by
  induction B generalizing A with
  | nil => exact hA
  | cons s B ih =>
    refine ih (apart_flatMap hA (fun b _ => apart_cut (hB s List.mem_cons_self) b) fun b _ => ?_) fun t ht =>
      hB t (List.mem_cons_of_mem s ht)
    rw [area_cut]
    exact Set.sdiff_subset

/-- The meets of every box of `A` with every box of `B` that have an extent. -/
def meets (A B : List (Box α)) : List (Box α) :=
  A.flatMap fun a => (B.map a.meet).filter fun b => b.Nondegenerate

theorem area_meets (A B : List (Box α)) : area (meets A B) = area A ∩ area B := by
  ext p
  simp only [meets, mem_area, List.mem_flatMap, List.mem_filter, List.mem_map, Set.mem_inter_iff]
  constructor
  · rintro ⟨b, ⟨a, ha, ⟨c, hc, rfl⟩, -⟩, hp⟩
    rw [points_meet] at hp
    exact ⟨⟨a, ha, hp.1⟩, c, hc, hp.2⟩
  · rintro ⟨⟨a, ha, hpa⟩, c, hc, hpc⟩
    have hp : p ∈ (a.meet c).points := by
      rw [points_meet]
      exact ⟨hpa, hpc⟩
    exact ⟨a.meet c, ⟨a, ha, ⟨c, hc, rfl⟩, decide_eq_true (nondegenerate_of_mem hp)⟩, hp⟩

theorem Box.Inside.nondegenerate (h : r.Inside s) (hr : r.Nondegenerate) : s.Nondegenerate :=
  ⟨(h.1.1.trans_lt hr.1).trans_le h.1.2, (h.2.1.trans_lt hr.2).trans_le h.2.2⟩

theorem Box.Inside.subset (h : r.Inside s) : r.points ⊆ s.points := fun _ hp =>
  ⟨⟨h.1.1.trans hp.1.1, hp.1.2.trans_le h.1.2⟩, h.2.1.trans hp.2.1, hp.2.2.trans_le h.2.2⟩

theorem subset_iff_inside (hr : r.Nondegenerate) : r.points ⊆ s.points ↔ r.Inside s := by
  refine ⟨fun h => ?_, Box.Inside.subset⟩
  have hcor : (r.left, r.top) ∈ s.points := h ⟨⟨le_refl _, hr.1⟩, le_refl _, hr.2⟩
  refine ⟨⟨hcor.1.1, le_of_not_gt fun hlt => ?_⟩, hcor.2.1, le_of_not_gt fun hlt => ?_⟩
  · -- the right side of `s` would run through `r`
    exact (h (⟨⟨hcor.1.2.le, hlt⟩, le_refl _, hr.2⟩ : (s.right, r.top) ∈ r.points)).1.2.false
  · exact (h (⟨⟨le_refl _, hr.1⟩, hcor.2.2.le, hlt⟩ : (r.left, s.bottom) ∈ r.points)).2.2.false

theorem inside_join {t : Box α} : (r.join s).Inside t ↔ r.Inside t ∧ s.Inside t := by
  simp only [Inside, join, le_inf_iff, sup_le_iff]
  tauto

theorem inside_foldl_join (A : List (Box α)) : (A.foldl join r).Inside s ↔ r.Inside s ∧ ∀ b ∈ A, b.Inside s := by
  induction A generalizing r with
  | nil => simp
  | cons b A ih => rw [List.foldl_cons, ih, inside_join, List.forall_mem_cons, and_assoc]

theorem area_subset_iff (hA : ∀ b ∈ A, b.Nondegenerate) : area A ⊆ s.points ↔ ∀ b ∈ A, b.Inside s := by
  constructor
  · intro h b hb
    exact (subset_iff_inside (hA b hb)).mp fun p hp => h ⟨b, hb, hp⟩
  · rintro h p ⟨b, hb, hp⟩
    exact (h b hb).subset hp

end X11Web.Boxes
