import Mathlib.Algebra.BigOperators.Intervals
import Mathlib.Order.Monotone.Basic

namespace X11Web.RunLengths

open Finset

variable {len : Nat → Nat} {r r' p : Nat}

def start (len : Nat → Nat) (r : Nat) : Nat := ∑ i ∈ range r, len i

def InRun (len : Nat → Nat) (r p : Nat) : Prop := start len r ≤ p ∧ p < start len (r + 1)

@[simp] theorem start_zero (len : Nat → Nat) : start len 0 = 0 := rfl

theorem start_succ (len : Nat → Nat) (r : Nat) : start len (r + 1) = start len r + len r := sum_range_succ len r

theorem start_mono (len : Nat → Nat) : Monotone (start len) :=
  monotone_nat_of_le_succ fun r => by rw [start_succ]; exact Nat.le_add_right _ _

theorem InRun.unique (h : InRun len r p) (h' : InRun len r' p) : r = r' := by
  rcases lt_trichotomy r r' with hlt | heq | hlt
  · have hle := start_mono len (show r + 1 ≤ r' from hlt)
    exact absurd (h.2.trans_le (hle.trans h'.1)) (lt_irrefl p)
  · exact heq
  · have hle := start_mono len (show r' + 1 ≤ r from hlt)
    exact absurd (h'.2.trans_le (hle.trans h.1)) (lt_irrefl p)

theorem inRun_start (hpos : 0 < len r) : InRun len r (start len r) := by
  refine ⟨le_rfl, ?_⟩
  rw [start_succ]
  exact Nat.lt_add_of_pos_right hpos

theorem InRun.succ (h : InRun len r p) (hmore : p + 1 < start len (r + 1)) : InRun len r (p + 1) :=
  ⟨h.1.trans (Nat.le_succ p), hmore⟩

theorem InRun.iff_eq (h : InRun len r p) (k : Nat) : InRun len k p ↔ k = r :=
  ⟨fun hk => hk.unique h, fun hk => hk ▸ h⟩

end X11Web.RunLengths
