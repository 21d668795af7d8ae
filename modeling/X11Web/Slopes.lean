import Mathlib.Algebra.Order.Group.Unbundled.Abs
import Mathlib.Algebra.Order.Ring.Abs
import Mathlib.Algebra.Order.Ring.Int
import Mathlib.Tactic.Ring

namespace X11Web.Slopes

/-- How far along both sides of a box, and the error that the next corner would have. -/
structure Cursor where
  a : Int
  b : Int
  err : Int

def Cursor.start (D E : Int) : Cursor := ⟨0, 0, D - E⟩

def Cursor.next (D E : Int) (s : Cursor) : Cursor where
  a := if -E ≤ 2 * s.err then s.a + 1 else s.a
  b := if 2 * s.err ≤ D then s.b + 1 else s.b
  err := s.err + (if -E ≤ 2 * s.err then -E else 0) + (if 2 * s.err ≤ D then D else 0)

/-- After `n` rounds the cursor is `n` along the longer side, and nearest to the slope
along the other. -/
structure Follows (D E : Int) (n : Nat) (s : Cursor) : Prop where
  err : s.err = (s.b + 1) * D - (s.a + 1) * E
  near : 2 * |s.a * E - s.b * D| ≤ max D E
  across : E ≤ D → s.a = n
  down : D ≤ E → s.b = n
  range : (0 ≤ s.a ∧ s.a ≤ n) ∧ 0 ≤ s.b ∧ s.b ≤ n

variable {D E : Int} {n : Nat} {s : Cursor}

theorem start_follows (hD : 0 ≤ D) : Follows D E 0 (Cursor.start D E) := by
  refine ⟨?_, ?_, fun _ => rfl, fun _ => rfl, ⟨le_rfl, le_rfl⟩, le_rfl, le_rfl⟩
  · simp [Cursor.start]
  · simp [Cursor.start, hD]

theorem Follows.distances (h : Follows D E n s) :
    ∃ P Q, s.a * E = P ∧ s.b * D = Q ∧ s.err = Q + D - P - E ∧ 2 * (P - Q) ≤ max D E ∧ 2 * (Q - P) ≤ max D E := by
  refine ⟨_, _, rfl, rfl, ?_, ?_, ?_⟩
  · rw [h.err]
    ring
  · have hnear := h.near
    have habs := le_abs_self (s.a * E - s.b * D)
    omega
  · have hnear := h.near
    have habs := neg_abs_le (s.a * E - s.b * D)
    omega

def Cursor.swap (s : Cursor) : Cursor := ⟨s.b, s.a, -s.err⟩

theorem Follows.swap (h : Follows D E n s) : Follows E D n s.swap := by
  refine ⟨?_, ?_, h.down, h.across, h.range.2, h.range.1⟩
  · simp only [Cursor.swap, h.err]
    ring
  · rw [max_comm, abs_sub_comm]
    exact h.near

theorem swap_next (D E : Int) (s : Cursor) : (s.next D E).swap = s.swap.next E D := by
  have hacross : -E ≤ 2 * s.err ↔ 2 * -s.err ≤ E := by omega
  have hdown : 2 * s.err ≤ D ↔ -D ≤ 2 * -s.err := by omega
  simp only [Cursor.next, Cursor.swap, Cursor.mk.injEq, hacross, hdown]
  refine ⟨rfl, rfl, ?_⟩
  by_cases ha : 2 * -s.err ≤ E <;> by_cases hb : -D ≤ 2 * -s.err <;> simp only [ha, hb, if_true, if_false] <;> omega

theorem swap_swap (s : Cursor) : s.swap.swap = s := by
  simp only [Cursor.swap, neg_neg]

theorem near_of_le {P Q m : Int} (hleft : 2 * (P - Q) ≤ m) (hright : 2 * (Q - P) ≤ m) : 2 * |P - Q| ≤ m := by
  rcases abs_cases (P - Q) with ⟨habs, -⟩ | ⟨habs, -⟩
  · rwa [habs]
  · rw [habs]
    omega

/-- Along the longer side each round takes a step, and along the other one it takes a step
exactly where the slope is past the middle. -/
theorem Follows.next_of_le (h : Follows D E n s) (hE : 0 ≤ E) (hED : E ≤ D) : Follows D E (n + 1) (s.next D E) := by
  obtain ⟨P, Q, hP, hQ, herr, hleft, hright⟩ := h.distances
  obtain ⟨⟨ha, han⟩, hb, hbn⟩ := h.range
  have hPs : (s.a + 1) * E = P + E := by rw [Int.add_mul, hP, Int.one_mul]
  have hQs : (s.b + 1) * D = Q + D := by rw [Int.add_mul, hQ, Int.one_mul]
  have hPss : (s.a + 1 + 1) * E = P + E + E := by rw [Int.add_mul, hPs, Int.one_mul]
  have hQss : (s.b + 1 + 1) * D = Q + D + D := by rw [Int.add_mul, hQs, Int.one_mul]
  have hacross : -E ≤ 2 * s.err := by
    rw [max_eq_left hED] at hright
    omega
  have hsteps := h.across hED
  rw [Cursor.next]
  simp only [hacross, if_true]
  by_cases hdown : 2 * s.err ≤ D
  · simp only [hdown, if_true]
    refine ⟨?_, ?_, fun _ => ?_, fun hDE => ?_, ⟨?_, ?_⟩, ?_, ?_⟩
    · dsimp only
      rw [hQss, hPss]
      omega
    · dsimp only
      rw [hQs, hPs]
      rw [max_eq_left hED] at hleft hright ⊢
      exact near_of_le (by omega) (by omega)
    · push_cast
      omega
    · have hsame := h.down hDE
      push_cast
      omega
    all_goals
      push_cast
      omega
  · simp only [hdown, if_false]
    refine ⟨?_, ?_, fun _ => ?_, fun hDE => ?_, ⟨?_, ?_⟩, ?_, ?_⟩
    · dsimp only
      rw [hQs, hPss]
      omega
    · dsimp only
      rw [hQ, hPs]
      rw [max_eq_left hED] at hleft hright ⊢
      exact near_of_le (by omega) (by omega)
    · push_cast
      omega
    · have hsame : E = D := le_antisymm hED hDE
      have hdown' := h.down hDE
      subst hsame
      have hPQ : P = Q := by rw [← hP, ← hQ, hsteps, hdown']
      omega
    all_goals
      push_cast
      omega

theorem Follows.next (h : Follows D E n s) (hD : 0 ≤ D) (hE : 0 ≤ E) : Follows D E (n + 1) (s.next D E) := by
  rcases le_total E D with hED | hDE
  · exact h.next_of_le hE hED
  · have hswapped := (h.swap.next_of_le hD hDE).swap
    rw [← swap_next, swap_swap] at hswapped
    exact hswapped

theorem next_steps (D E : Int) (s : Cursor) :
    (s.a ≤ (s.next D E).a ∧ (s.next D E).a ≤ s.a + 1) ∧ s.b ≤ (s.next D E).b ∧ (s.next D E).b ≤ s.b + 1 := by
  simp only [Cursor.next]
  split <;> split <;> omega

theorem Follows.whole (h : Follows D E n s) (hE : 0 ≤ E) (hED : E ≤ D) (ha : s.a = D) : s.b = E := by
  obtain ⟨P, Q, hP, hQ, -, hleft, hright⟩ := h.distances
  rw [max_eq_left hED] at hleft hright
  rcases (hE.trans hED).eq_or_lt with hzero | hpos
  · have hn := h.across hED
    have hb := h.range.2
    omega
  · have hdiff : P - Q = (E - s.b) * D := by
      rw [← hP, ← hQ, ha]
      ring
    rcases lt_trichotomy (E - s.b) 0 with hneg | hzero | hover
    · have hfar := Int.mul_le_mul_of_nonneg_right (show E - s.b ≤ -1 by omega) hpos.le
      omega
    · omega
    · have hfar := Int.mul_le_mul_of_nonneg_right (show 1 ≤ E - s.b by omega) hpos.le
      omega

theorem Follows.arrived_iff (h : Follows D E n s) (hD : 0 ≤ D) (hE : 0 ≤ E) :
    s.a = D ∧ s.b = E ↔ (n : Int) = max D E := by
  rcases le_total E D with hED | hDE
  · have hn := h.across hED
    rw [max_eq_left hED, ← hn]
    exact ⟨And.left, fun ha => ⟨ha, h.whole hE hED ha⟩⟩
  · have hn := h.down hDE
    rw [max_eq_right hDE, ← hn]
    exact ⟨And.right, fun hb => ⟨h.swap.whole hD hDE hb, hb⟩⟩

end X11Web.Slopes
