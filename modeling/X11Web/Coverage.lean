import Mathlib.Algebra.BigOperators.Group.Finset.Piecewise
import Mathlib.Data.Int.ConditionallyCompleteOrder
import Mathlib.Data.Int.Interval
import Mathlib.Order.ConditionallyCompleteLattice.Basic

namespace X11Web.Coverage

variable {P : Type} [DecidableEq P]

def depthAt (sets : List (Finset P)) (z : P) : Nat := sets.countP (fun B => decide (z ∈ B))

def uncovered (A : Finset P) (sets : List (Finset P)) : Finset P :=
  A.filter (fun z => depthAt sets z = 0)

/-- How often the points of `A` are covered again after the first time. -/
def surplus (A : Finset P) (sets : List (Finset P)) : Nat := ∑ z ∈ A, (depthAt sets z - 1)

variable {sets : List (Finset P)}

theorem depthAt_eq_zero {z : P} : depthAt sets z = 0 ↔ ∀ B ∈ sets, z ∉ B := by
  simp [depthAt, List.countP_eq_zero]

theorem uncovered_eq_empty {A : Finset P} : uncovered A sets = ∅ ↔ ∀ z ∈ A, ∃ B ∈ sets, z ∈ B := by
  rw [uncovered, Finset.filter_eq_empty_iff]
  apply forall₂_congr
  intro z _
  rw [depthAt_eq_zero]
  push Not
  rfl

theorem sum_overlaps (A : Finset P) (sets : List (Finset P)) :
    (sets.map (fun B => (A ∩ B).card)).sum = ∑ z ∈ A, depthAt sets z := by
  induction sets with
  | nil => simp [depthAt]
  | cons B sets ih =>
    have hcons : ∀ z, depthAt (B :: sets) z = (if z ∈ B then 1 else 0) + depthAt sets z := by
      intro z
      by_cases hz : z ∈ B
      · simp [depthAt, hz, Nat.add_comm]
      · simp [depthAt, hz]
    have hinter : (A ∩ B).card = ∑ z ∈ A, if z ∈ B then 1 else 0 := by
      rw [← Finset.filter_mem_eq_inter, Finset.card_filter]
    rw [List.map_cons, List.sum_cons, ih, hinter, ← Finset.sum_add_distrib]
    exact Finset.sum_congr rfl (fun z _ => (hcons z).symm)

theorem overlaps_add_uncovered (A : Finset P) (sets : List (Finset P)) :
    (sets.map (fun B => (A ∩ B).card)).sum + (uncovered A sets).card = A.card + surplus A sets := by
  rw [sum_overlaps, uncovered, Finset.card_filter, Finset.card_eq_sum_ones, surplus,
    ← Finset.sum_add_distrib, ← Finset.sum_add_distrib]
  apply Finset.sum_congr rfl
  intro z _
  split
  · omega
  · omega

/-- The overlaps reach the size of `A` exactly when what is counted twice makes
up for what is not covered. -/
theorem card_le_sum_overlaps {A : Finset P} :
    A.card ≤ (sets.map (fun B => (A ∩ B).card)).sum ↔ (uncovered A sets).card ≤ surplus A sets := by
  have h := overlaps_add_uncovered A sets
  omega

section Boxes

noncomputable def box (x y : Int) (width height : Nat) : Finset (Int × Int) :=
  Finset.Ico x (x + width) ×ˢ Finset.Ico y (y + height)

theorem mem_box {x y : Int} {width height : Nat} {z : Int × Int} :
    z ∈ box x y width height ↔
      (x ≤ z.1 ∧ z.1 < x + width) ∧ y ≤ z.2 ∧ z.2 < y + height := by
  simp [box]

theorem card_box (x y : Int) (width height : Nat) :
    (box x y width height).card = width * height := by
  simp [box]

theorem card_box_inter (x y x' y' : Int) (width height width' height' : Nat) :
    (box x y width height ∩ box x' y' width' height').card =
      (min (x + width) (x' + width') - max x x').toNat *
        (min (y + height) (y' + height') - max y y').toNat := by
  rw [box, box, Finset.product_inter_product, Finset.Ico_inter_Ico, Finset.Ico_inter_Ico,
    Finset.card_product, Int.card_Ico, Int.card_Ico]

end Boxes

end X11Web.Coverage
