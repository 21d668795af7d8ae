import Mathlib.Data.BitVec

namespace X11Web.BitMasks

variable {w : Nat} {x bit other : BitVec w}

def Has (x bits : BitVec w) : Prop := x &&& bits ≠ 0#w

instance : Decidable (Has x bit) := inferInstanceAs (Decidable (x &&& bit ≠ 0#w))

def IsBit (bit : BitVec w) : Prop := ∃ i : Fin w, bit = BitVec.twoPow w i

instance : Decidable (IsBit bit) := inferInstanceAs (Decidable (∃ i : Fin w, bit = BitVec.twoPow w i))

theorem has_twoPow (x : BitVec w) (i : Fin w) : Has x (BitVec.twoPow w i) ↔ x.getLsbD i = true := by
  rw [Has, BitVec.and_twoPow]
  split
  · rename_i h
    refine iff_of_true (fun hzero => ?_) h
    have hbit := congrArg (fun v => v.getLsbD i) hzero
    simp [i.isLt] at hbit
  · rename_i h
    exact iff_of_false (fun hzero => hzero rfl) h

theorem twoPow_injective {i j : Fin w} (h : BitVec.twoPow w i = BitVec.twoPow w j) : i = j := by
  have hbit := congrArg (fun v => v.getLsbD j) h
  simp only [BitVec.getLsbD_twoPow, i.isLt, j.isLt, decide_true, Bool.true_and, decide_eq_true_eq] at hbit
  exact Fin.ext hbit

@[simp]
theorem not_has_zero : ¬ Has 0#w bit := by simp [Has]

theorem has_or (hbit : IsBit bit) (hoth : IsBit other) :
    Has (x ||| bit) other ↔ Has x other ∨ bit = other := by
  obtain ⟨i, rfl⟩ := hbit
  obtain ⟨j, rfl⟩ := hoth
  rw [has_twoPow, has_twoPow, BitVec.getLsbD_or, Bool.or_eq_true, BitVec.getLsbD_twoPow]
  refine or_congr_right ?_
  constructor
  · intro h
    simp only [i.isLt, decide_true, Bool.true_and, decide_eq_true_eq] at h
    rw [h]
  · intro h
    rw [twoPow_injective h]
    simp

theorem has_and_not (hbit : IsBit bit) (hoth : IsBit other) :
    Has (x &&& ~~~bit) other ↔ Has x other ∧ bit ≠ other := by
  obtain ⟨i, rfl⟩ := hbit
  obtain ⟨j, rfl⟩ := hoth
  rw [has_twoPow, has_twoPow, BitVec.getLsbD_and, Bool.and_eq_true, BitVec.getLsbD_not]
  refine and_congr_right fun _ => ?_
  simp only [j.isLt, decide_true, Bool.true_and, BitVec.getLsbD_twoPow, i.isLt, Bool.not_eq_true',
    decide_eq_false_iff_not]
  refine not_congr ⟨fun h => by rw [h], fun h => congrArg Fin.val (twoPow_injective h)⟩

end X11Web.BitMasks
