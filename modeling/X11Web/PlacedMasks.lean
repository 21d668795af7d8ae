import Mathlib.Algebra.Group.Torsion
import Mathlib.Data.Set.Finite.Basic

namespace X11Web.PlacedMasks

variable {α : Type*} [AddCommGroup α]

/-- A set of points relative to an origin; without a mask it is everything. -/
structure PlacedMask (α : Type*) where
  mask : Option (Set α)
  origin : α

namespace PlacedMask

def points (m : PlacedMask α) : Set α := m.mask.elim Set.univ fun S => {p | p - m.origin ∈ S}

theorem points_some (S : Set α) (o : α) : points ⟨some S, o⟩ = {p | p - o ∈ S} := rfl

@[simp] theorem points_empty (o : α) : points ⟨some ∅, o⟩ = ∅ := rfl

def Bounded (m : PlacedMask α) : Prop := ∀ S, m.mask = some S → S.Finite

theorem eq_empty_of_shift [IsAddTorsionFree α] {S : Set α} (hS : S.Finite) {d : α} (hd : d ≠ 0)
    (hshift : ∀ p ∈ S, p + d ∈ S) : S = ∅ := by
  rw [Set.eq_empty_iff_forall_notMem]
  intro p hp
  have hmem : ∀ n : Nat, p + n • d ∈ S := by
    intro n
    induction n with
    | zero => rwa [zero_nsmul, add_zero]
    | succ n ih =>
      rw [succ_nsmul, ← add_assoc]
      exact hshift _ ih
  have hinj : Function.Injective fun n : Nat => p + n • d := by
    intro a b hab
    have hzero : ((a : Int) - b) • d = 0 := by
      rw [sub_zsmul, natCast_zsmul, natCast_zsmul, add_left_cancel hab, add_neg_cancel]
    have hsub := (IsAddTorsionFree.zsmul_eq_zero_iff.mp hzero).resolve_left hd
    omega
  exact Set.infinite_of_injective_forall_mem hinj hmem hS

theorem points_eq_iff [IsAddTorsionFree α] {m : PlacedMask α} (hm : m.Bounded) (o : α) :
    points ⟨m.mask, o⟩ = m.points ↔ m.mask = none ∨ m.mask = some ∅ ∨ o = m.origin := by
  obtain ⟨mask, origin⟩ := m
  cases mask with
  | none => exact iff_of_true rfl (Or.inl rfl)
  | some S =>
    rw [or_iff_right (by simp), Option.some_inj]
    constructor
    · intro h
      by_cases ho : o = origin
      · exact Or.inr ho
      · refine Or.inl (eq_empty_of_shift (hm S rfl) (sub_ne_zero.mpr ho) fun p hp => ?_)
        have hp' : p + o ∈ points ⟨some S, o⟩ := by
          rw [points_some, Set.mem_ofPred_eq, add_sub_cancel_right]
          exact hp
        rw [h, points_some, Set.mem_ofPred_eq, add_sub_assoc] at hp'
        exact hp'
    · rintro (rfl | rfl) <;> rfl

end PlacedMask

end X11Web.PlacedMasks
