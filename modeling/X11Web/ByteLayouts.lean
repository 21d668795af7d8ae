import Mathlib.Data.List.Basic

namespace X11Web.ByteLayouts

open List

variable {α β : Type} {data as bs : List α} {off n : Nat}

def Holds (data : List α) (off : Nat) (as : List α) : Prop := ∀ j < as.length, data[off + j]? = as[j]?

theorem holds_append : Holds data off (as ++ bs) ↔ Holds data off as ∧ Holds data (off + as.length) bs := by
  constructor
  · intro h
    refine ⟨fun j hj => ?_, fun j hj => ?_⟩
    · rw [h j (by rw [length_append]; omega), List.getElem?_append_left hj]
    · rw [Nat.add_assoc, h _ (by rw [length_append]; omega), List.getElem?_append_right (Nat.le_add_right _ _),
        Nat.add_sub_cancel_left]
  · rintro ⟨ha, hb⟩ j hj
    rw [length_append] at hj
    by_cases hleft : j < as.length
    · rw [ha j hleft, List.getElem?_append_left hleft]
    · have hright := hb (j - as.length) (by omega)
      rw [Nat.add_assoc, Nat.add_sub_cancel' (by omega)] at hright
      rw [hright, List.getElem?_append_right (by omega)]

theorem Holds.left (h : Holds data off (as ++ bs)) : Holds data off as := (holds_append.mp h).1

theorem Holds.right (h : Holds data off (as ++ bs)) : Holds data (off + as.length) bs := (holds_append.mp h).2

theorem Holds.getElem? (h : Holds data off as) {j : Nat} (hj : j < as.length) : data[off + j]? = some as[j] := by
  rw [h j hj, List.getElem?_eq_getElem hj]

theorem Holds.getD (h : Holds data off as) {j : Nat} (hj : j < as.length) (a : α) : data.getD (off + j) a = as[j] := by
  rw [getD_eq_getElem?_getD, h.getElem? hj, Option.getD_some]

theorem length_flatMap_records {f : β → List α} (hf : ∀ b, (f b).length = n) (xs : List β) :
    (xs.flatMap f).length = xs.length * n := by
  induction xs with
  | nil => rw [length_nil, Nat.zero_mul]; rfl
  | cons b xs ih =>
    rw [flatMap_cons, length_append, hf, ih, length_cons, Nat.add_mul, Nat.one_mul, Nat.add_comm]

end X11Web.ByteLayouts
