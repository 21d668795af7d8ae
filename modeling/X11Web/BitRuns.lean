import Mathlib.Data.List.Basic

namespace X11Web.BitRuns

open List

variable {bit : Nat → Bool} {width x y n fuel : Nat}

/-- Where the run of set bits that has come to `x` ends, among the next `n` bits. -/
def runEnd (bit : Nat → Bool) : Nat → Nat → Nat
  | 0, x => x
  | n + 1, x => if bit x then runEnd bit n (x + 1) else x

/-- The runs of set bits from `x` on, each by its start and length. Every round moves on
by a bit at least. -/
def runsFrom (bit : Nat → Bool) (width : Nat) : Nat → Nat → List (Nat × Nat)
  | 0, _ => []
  | fuel + 1, x =>
    if x < width then
      if bit x then
        let stop := runEnd bit (width - x) x
        (x, stop - x) :: runsFrom bit width fuel stop
      else runsFrom bit width fuel (x + 1)
    else []

def runs (bit : Nat → Bool) (width : Nat) : List (Nat × Nat) := runsFrom bit width width 0

theorem runEnd_spec : x ≤ runEnd bit n x ∧ runEnd bit n x ≤ x + n ∧
    (∀ y, x ≤ y → y < runEnd bit n x → bit y = true) ∧ (runEnd bit n x < x + n → bit (runEnd bit n x) = false) := by
  induction n generalizing x with
  | zero => exact ⟨Nat.le_refl x, Nat.le_refl x, fun y hy hlt => absurd hlt (Nat.not_lt.mpr hy),
      fun h => absurd h (Nat.lt_irrefl x)⟩
  | succ n ih =>
    rw [runEnd]
    by_cases hx : bit x
    · rw [if_pos hx]
      obtain ⟨hle, hstop, hset, hend⟩ := @ih (x + 1)
      refine ⟨by omega, by omega, fun y hy hlt => ?_, fun h => hend (by omega)⟩
      by_cases hsame : y = x
      · rw [hsame, hx]
      · exact hset y (by omega) hlt
    · rw [if_neg hx]
      exact ⟨Nat.le_refl x, by omega, fun y hy hlt => by omega, fun _ => by simpa using hx⟩

theorem lt_runEnd (hx : bit x = true) (hn : 0 < n) : x < runEnd bit n x := by
  obtain ⟨m, rfl⟩ : ∃ m, n = m + 1 := ⟨n - 1, by omega⟩
  rw [runEnd, if_pos hx]
  exact runEnd_spec.1

/-- What holds of some run from `x` on, by the rounds that find the runs: nothing is left
past the width, a clear bit is stepped over, and a whole run is taken at once. -/
theorem exists_runsFrom_iff {P : Nat × Nat → Prop} {Q : Nat → Prop} (hpast : ∀ x, width ≤ x → ¬ Q x)
    (hclear : ∀ x, bit x = false → (Q (x + 1) ↔ Q x))
    (hrun : ∀ x stop, x < stop → stop ≤ width → (∀ y, x ≤ y → y < stop → bit y = true) →
      (stop < width → bit stop = false) → (P (x, stop - x) ∨ Q stop ↔ Q x))
    (hfuel : width ≤ x + fuel) : (∃ r ∈ runsFrom bit width fuel x, P r) ↔ Q x := by
  induction fuel generalizing x with
  | zero => exact iff_of_false (by simp [runsFrom]) (hpast x hfuel)
  | succ fuel ih =>
    rw [runsFrom]
    by_cases hlt : x < width
    · rw [if_pos hlt]
      by_cases hx : bit x
      · obtain ⟨-, hstop, hset, hend⟩ := @runEnd_spec bit x (width - x)
        have hpos := lt_runEnd hx (by omega : 0 < width - x)
        rw [if_pos hx]
        dsimp only
        rw [exists_mem_cons_iff, ih (by omega)]
        exact hrun x _ hpos (by omega) hset fun h => hend (by omega)
      · rw [if_neg hx, ih (by omega), hclear x (by simpa using hx)]
    · rw [if_neg hlt]
      exact iff_of_false (by simp) (hpast x (by omega))

theorem mem_runsFrom (hfuel : width ≤ x + fuel) :
    (∃ r ∈ runsFrom bit width fuel x, r.1 ≤ y ∧ y < r.1 + r.2) ↔ (x ≤ y ∧ y < width) ∧ bit y = true := by
  refine exists_runsFrom_iff (Q := fun x => (x ≤ y ∧ y < width) ∧ bit y = true) (fun x hx => by omega) ?_ ?_ hfuel
  · intro x hx
    refine and_congr_left fun hy => ?_
    have hne : y ≠ x := fun he => absurd (he ▸ hy) (by simp [hx])
    omega
  · intro x stop hpos hstop hset _
    constructor
    · rintro (hin | ⟨hin, hy⟩)
      · exact ⟨by omega, hset y hin.1 (by omega)⟩
      · exact ⟨by omega, hy⟩
    · rintro ⟨hin, hy⟩
      by_cases hbef : y < stop
      · exact Or.inl (by omega)
      · exact Or.inr ⟨by omega, hy⟩

theorem starts_runsFrom (hfuel : width ≤ x + fuel) :
    (∃ r ∈ runsFrom bit width fuel x, r.1 = y) ↔
      (x ≤ y ∧ y < width) ∧ bit y = true ∧ (y = x ∨ bit (y - 1) = false) := by
  refine exists_runsFrom_iff (Q := fun x => (x ≤ y ∧ y < width) ∧ bit y = true ∧ (y = x ∨ bit (y - 1) = false))
    (fun x hx => by omega) ?_ ?_ hfuel
  · intro x hx
    constructor
    · rintro ⟨hin, hy, hfst⟩
      refine ⟨by omega, hy, Or.inr (hfst.elim (fun he => ?_) id)⟩
      rw [he, Nat.add_sub_cancel, hx]
    · rintro ⟨hin, hy, hfst⟩
      have hne : y ≠ x := fun he => absurd (he ▸ hy) (by simp [hx])
      exact ⟨by omega, hy, Or.inr (hfst.resolve_left hne)⟩
  · intro x stop hpos hstop hset hend
    constructor
    · rintro (rfl | ⟨hin, hy, hfst⟩)
      · exact ⟨by omega, hset x (Nat.le_refl x) hpos, Or.inl rfl⟩
      · refine ⟨by omega, hy, Or.inr (hfst.resolve_left fun he => ?_)⟩
        rw [he, hend (by omega)] at hy
        exact absurd hy (by simp)
    · rintro ⟨hin, hy, hfst⟩
      by_cases hsame : y = x
      · exact Or.inl hsame.symm
      · have hclear := hfst.resolve_left hsame
        have haft : ¬ y - 1 < stop := fun hbef => by
          rw [hset (y - 1) (by omega) hbef] at hclear
          exact absurd hclear (by simp)
        exact Or.inr ⟨by omega, hy, Or.inr hclear⟩

theorem mem_runs_iff : (∃ r ∈ runs bit width, r.1 ≤ y ∧ y < r.1 + r.2) ↔ y < width ∧ bit y = true := by
  rw [runs, mem_runsFrom (by omega)]
  exact and_congr_left fun _ => and_iff_right (Nat.zero_le y)

theorem starts_iff : (∃ r ∈ runs bit width, r.1 = y) ↔
    y < width ∧ bit y = true ∧ (y = 0 ∨ bit (y - 1) = false) := by
  rw [runs, starts_runsFrom (by omega)]
  exact and_congr_left fun _ => and_iff_right (Nat.zero_le y)

theorem runsFrom_fits {r : Nat × Nat} (hr : r ∈ runsFrom bit width fuel x) : 0 < r.2 ∧ r.1 + r.2 ≤ width := by
  induction fuel generalizing x with
  | zero => exact absurd hr (by simp [runsFrom])
  | succ fuel ih =>
    rw [runsFrom] at hr
    split at hr
    · next hlt =>
      split at hr
      · next hx =>
        rcases mem_cons.mp hr with rfl | hr
        · have hpos := lt_runEnd hx (by omega : 0 < width - x)
          have hstop := (@runEnd_spec bit x (width - x)).2.1
          dsimp only
          omega
        · exact ih hr
      · exact ih hr
    · exact absurd hr (by simp)

end X11Web.BitRuns
