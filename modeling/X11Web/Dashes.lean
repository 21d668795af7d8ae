import X11Web.RunLengths
import Mathlib.Algebra.Group.Nat.Even

namespace X11Web.Dashes

open RunLengths

structure DashState where
  pattern : List UInt8
  index : Nat
  remaining : Nat
  on : Bool
deriving DecidableEq

def runLength (pattern : List UInt8) (index : Nat) : Nat := (pattern.getD index 0).toNat

/-- The loop that skips the runs before the offset. It comes to no end where the lengths
are all zero, and takes fuel. -/
def skipRuns : Nat → List UInt8 → Nat → Nat → Nat → Bool → Option DashState
  | 0, _, _, _, _, _ => none
  | fuel + 1, pat, skip, idx, rem, on =>
    if skip = 0 then some ⟨pat, idx, rem, on⟩
    else if skip < rem then some ⟨pat, idx, rem - skip, on⟩
    else
      let idx := (idx + 1) % pat.length
      skipRuns fuel pat (skip - rem) idx (runLength pat idx) (!on)

def DashState.new (fuel : Nat) (pattern : List UInt8) (offset : UInt16) : Option DashState :=
  if pattern = [] then some ⟨[1], 0, 1, true⟩
  else skipRuns fuel pattern offset.toNat 0 (runLength pattern 0) true

def DashState.advance (d : DashState) : Option DashState :=
  if d.remaining = 0 then none
  else if d.remaining - 1 = 0 then
    let index := (d.index + 1) % d.pattern.length
    let remaining := runLength d.pattern index
    some ⟨d.pattern, index, if remaining = 0 then 1 else remaining, !d.on⟩
  else some { d with remaining := d.remaining - 1 }

def DashState.advances : Nat → DashState → Option DashState
  | 0, d => some d
  | k + 1, d => (d.advances k).bind DashState.advance

def Admitted (dashes : List UInt8) : Prop := dashes ≠ [] ∧ 0 ∉ dashes

instance (dashes : List UInt8) : Decidable (Admitted dashes) := inferInstanceAs (Decidable (_ ∧ _))

/-- The lengths of the runs of the pattern repeated without end. -/
def endless (pattern : List UInt8) (r : Nat) : Nat := runLength pattern (r % pattern.length)

/-- The state stands at a position of the endless pattern, in its run `r`. -/
structure StandsAt (pattern : List UInt8) (d : DashState) (r p : Nat) : Prop where
  same : d.pattern = pattern
  index : d.index = r % pattern.length
  inRun : InRun (endless pattern) r p
  remaining : p + d.remaining = start (endless pattern) (r + 1)
  on : d.on = true ↔ Even r

variable {pattern : List UInt8} {d : DashState} {r p : Nat}

theorem endless_pos (h : Admitted pattern) (r : Nat) : 0 < endless pattern r := by
  obtain ⟨hne, hzero⟩ := h
  have hlt : r % pattern.length < pattern.length := Nat.mod_lt _ (List.length_pos_iff.mpr hne)
  rw [endless, runLength, List.getD_eq_getElem?_getD, List.getElem?_eq_getElem hlt, Option.getD_some,
    Nat.pos_iff_ne_zero]
  intro hlen
  have hmem := List.getElem_mem hlt
  rw [UInt8.toNat_inj.mp (hlen.trans (UInt8.toNat_zero).symm)] at hmem
  exact hzero hmem

theorem endless_succ (pattern : List UInt8) (r : Nat) :
    runLength pattern ((r % pattern.length + 1) % pattern.length) = endless pattern (r + 1) := by
  rw [endless, Nat.mod_add_mod]

theorem not_on_iff {on : Bool} (h : on = true ↔ Even r) : (!on) = true ↔ Even (r + 1) := by
  rw [Nat.even_add_one, ← h]
  simp

theorem skipRuns_standsAt (h : Admitted pattern) {fuel skip : Nat} (hfuel : skip < fuel) (on : Bool) (r : Nat)
    (hon : on = true ↔ Even r) :
    ∃ d r', skipRuns fuel pattern skip (r % pattern.length) (endless pattern r) on = some d ∧
      StandsAt pattern d r' (start (endless pattern) r + skip) := by
  induction fuel generalizing skip r on with
  | zero => omega
  | succ fuel ih =>
    have hpos := endless_pos h r
    have hsucc := start_succ (endless pattern) r
    rw [skipRuns]
    split
    · next hzero =>
      subst hzero
      exact ⟨_, r, rfl, rfl, rfl, inRun_start hpos, hsucc.symm, hon⟩
    · split
      · next hskip =>
        refine ⟨_, r, rfl, rfl, rfl, ⟨Nat.le_add_right _ _, ?_⟩, ?_, hon⟩
        · omega
        · dsimp only
          omega
      · next hskip =>
        have hnext := @ih (skip - endless pattern r) (by omega) (!on) (r + 1) (not_on_iff hon)
        have hposition : start (endless pattern) (r + 1) + (skip - endless pattern r) =
            start (endless pattern) r + skip := by omega
        rw [hposition] at hnext
        dsimp only
        rw [endless_succ, Nat.mod_add_mod]
        exact hnext

theorem StandsAt.advance (h : Admitted pattern) (hd : StandsAt pattern d r p) :
    ∃ d' r', d.advance = some d' ∧ StandsAt pattern d' r' (p + 1) := by
  have hrange := hd.inRun.2
  have hremaining := hd.remaining
  rw [DashState.advance, if_neg (by omega)]
  split
  · next hlast =>
    have hst : p + 1 = start (endless pattern) (r + 1) := by omega
    have hpos := endless_pos h (r + 1)
    have hlen : runLength d.pattern ((d.index + 1) % d.pattern.length) = endless pattern (r + 1) := by
      rw [hd.same, hd.index, endless_succ]
    refine ⟨_, r + 1, rfl, hd.same, ?_, ?_, ?_, not_on_iff hd.on⟩
    · dsimp only
      rw [hd.same, hd.index, Nat.mod_add_mod]
    · rw [hst]
      exact inRun_start hpos
    · dsimp only
      rw [hlen, if_neg (by omega), hst, ← start_succ]
  · next hmore =>
    refine ⟨_, r, rfl, hd.same, hd.index, hd.inRun.succ (by omega), ?_, hd.on⟩
    dsimp only
    omega

theorem StandsAt.advances (h : Admitted pattern) (hd : StandsAt pattern d r p) (k : Nat) :
    ∃ d' r', d.advances k = some d' ∧ StandsAt pattern d' r' (p + k) := by
  induction k with
  | zero => exact ⟨d, r, rfl, hd⟩
  | succ k ih =>
    obtain ⟨dk, rk, hk, hstands⟩ := ih
    obtain ⟨d', r', hadv, hnext⟩ := hstands.advance h
    refine ⟨d', r', ?_, hnext⟩
    rw [DashState.advances, hk]
    exact hadv

theorem new_standsAt (h : Admitted pattern) (offset : UInt16) {fuel : Nat} (hfuel : offset.toNat < fuel) :
    ∃ d r, DashState.new fuel pattern offset = some d ∧ StandsAt pattern d r offset.toNat := by
  have hskip := skipRuns_standsAt h hfuel true 0 (iff_of_true rfl Even.zero)
  rw [start_zero, Nat.zero_add, Nat.zero_mod, endless, Nat.zero_mod] at hskip
  rw [DashState.new, if_neg h.1]
  exact hskip

/-- After `k` units the dash is on exactly in the even runs of the endless pattern, and
the counter has not run out. -/
theorem dashes_follow_pattern (h : Admitted pattern) (offset : UInt16) {fuel : Nat} (hfuel : offset.toNat < fuel) :
    ∃ d, DashState.new fuel pattern offset = some d ∧ ∀ k, ∃ dk r, d.advances k = some dk ∧
      0 < dk.remaining ∧ (∀ r', InRun (endless pattern) r' (offset.toNat + k) ↔ r' = r) ∧
      (dk.on = true ↔ Even r) := by
  obtain ⟨d, r, hnew, hd⟩ := new_standsAt h offset hfuel
  refine ⟨d, hnew, fun k => ?_⟩
  obtain ⟨dk, rk, hk, hstands⟩ := hd.advances h k
  have hrange := hstands.inRun.2
  have hremaining := hstands.remaining
  exact ⟨dk, rk, hk, by omega, hstands.inRun.iff_eq, hstands.on⟩

/-- Three runs of 2, 1 and 3 units, from the middle of the third on. -/
theorem dashes_follow_pattern_odd :
    ∃ d, DashState.new 6 [2, 1, 3] 5 = some d ∧ ∀ k, ∃ dk r, d.advances k = some dk ∧
      0 < dk.remaining ∧ (∀ r', InRun (endless [2, 1, 3]) r' (5 + k) ↔ r' = r) ∧ (dk.on = true ↔ Even r) :=
  dashes_follow_pattern (by decide) 5 (by decide)

end X11Web.Dashes
