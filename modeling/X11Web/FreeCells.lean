import Mathlib.Data.List.Nodup
import Mathlib.Order.Bounds.Defs

namespace X11Web.FreeCells

open List

/-! Tables of cells with one flag each, set when the cell is taken. -/

def isFree (flags : List Bool) (i : Nat) : Bool := flags[i]? == some false

/-- Write one flag to several cells; an index outside the table is passed over. -/
def write (b : Bool) (flags : List Bool) (cells : List Nat) : List Bool :=
  cells.foldl (fun f i => f.set i b) flags

def available (flags : List Bool) : List Nat := (List.range flags.length).filter (isFree flags)

def RunAt (flags : List Bool) (n start : Nat) : Prop := ∀ k < n, isFree flags (start + k) = true

variable {flags : List Bool} {b : Bool} {cells : List Nat} {n i j start : Nat}

theorem isFree_iff : isFree flags i = true ↔ flags[i]? = some false := by
  rw [isFree, beq_iff_eq]

theorem lt_of_isFree (h : isFree flags i = true) : i < flags.length :=
  (List.getElem?_eq_some_iff.mp (isFree_iff.mp h)).1

@[simp] theorem write_nil : write b flags [] = flags := rfl

@[simp] theorem write_cons : write b flags (i :: cells) = write b (flags.set i b) cells := rfl

@[simp] theorem length_write (b : Bool) (flags : List Bool) (cells : List Nat) :
    (write b flags cells).length = flags.length := by
  induction cells generalizing flags with
  | nil => rfl
  | cons i cells ih => rw [write_cons, ih, length_set]

theorem getElem?_write (b : Bool) (flags : List Bool) (cells : List Nat) (j : Nat) :
    (write b flags cells)[j]? = if j ∈ cells ∧ j < flags.length then some b else flags[j]? := by
  induction cells generalizing flags with
  | nil => simp
  | cons i cells ih =>
    rw [write_cons, ih, length_set, List.getElem?_set]
    by_cases hj : j = i
    · subst hj
      by_cases hlt : j < flags.length
      · simp [hlt]
      · simp [hlt]
    · simp [hj, Ne.symm hj]

theorem isFree_set_of_ne (h : j ≠ i) : isFree (flags.set i b) j = isFree flags j := by
  rw [isFree, isFree, List.getElem?_set_ne (Ne.symm h)]

theorem write_false_write_true (h : ∀ i ∈ cells, isFree flags i = true) :
    write false (write true flags cells) cells = flags := by
  apply ext_getElem?
  intro j
  rw [getElem?_write, getElem?_write, length_write]
  by_cases hj : j ∈ cells ∧ j < flags.length
  · rw [if_pos hj, isFree_iff.mp (h j hj.1)]
  · rw [if_neg hj, if_neg hj]

theorem mem_available : i ∈ available flags ↔ isFree flags i = true := by
  rw [available, mem_filter, mem_range]
  exact and_iff_right_of_imp lt_of_isFree

section Claiming

/-- One cell of the table is looked at: it is taken if it is free and fewer than `n` are held. -/
def claimStep (n : Nat) (acc : List Bool × List Nat) (i : Nat) : List Bool × List Nat :=
  if n ≤ acc.2.length then acc
  else if isFree acc.1 i then (acc.1.set i true, acc.2 ++ [i])
  else acc

theorem length_foldl_claimStep (n : Nat) (cells : List Nat) (flags : List Bool) (held : List Nat) :
    (cells.foldl (claimStep n) (flags, held)).1.length = flags.length := by
  induction cells generalizing flags held with
  | nil => rfl
  | cons i cells ih =>
    rw [foldl_cons, claimStep]
    split
    · exact ih flags held
    split
    · rw [ih, length_set]
    · exact ih flags held

theorem filter_isFree_set (h : i ∉ cells) :
    cells.filter (isFree (flags.set i b)) = cells.filter (isFree flags) := by
  apply filter_congr
  intro j hj
  exact isFree_set_of_ne fun e => h (e ▸ hj)

theorem foldl_claimStep (n : Nat) (hnd : cells.Nodup) (flags : List Bool) (held : List Nat) :
    cells.foldl (claimStep n) (flags, held) =
      (write true flags ((cells.filter (isFree flags)).take (n - held.length)),
        held ++ (cells.filter (isFree flags)).take (n - held.length)) := by
  induction cells generalizing flags held with
  | nil => simp
  | cons i cells ih =>
    obtain ⟨hi, hrest⟩ := nodup_cons.mp hnd
    rw [foldl_cons, claimStep]
    by_cases hfull : n ≤ held.length
    · -- enough are held: every later cell is passed over too
      rw [if_pos hfull, ih hrest, Nat.sub_eq_zero_of_le hfull, take_zero, take_zero]
    rw [if_neg hfull]
    by_cases hfree : isFree flags i = true
    · have hmissing : n - held.length = (n - (held ++ [i]).length) + 1 := by
        rw [length_append, length_singleton]
        omega
      rw [if_pos hfree, ih hrest, filter_isFree_set hi, filter_cons_of_pos hfree, hmissing, take_succ_cons,
        write_cons, append_assoc, singleton_append]
    · rw [if_neg hfree, ih hrest, filter_cons_of_neg hfree]

end Claiming

section Runs

/-- The first run of `n` free cells among the cells that are looked at in turn,
with the start and the length of the run that the last one ended. -/
def scanRun (flags : List Bool) (n : Nat) : List Nat → Nat → Nat → Option Nat
  | [], _, _ => none
  | i :: cells, runStart, runLen =>
    if isFree flags i then
      let runStart := if runLen = 0 then i else runStart
      if n ≤ runLen + 1 then some runStart else scanRun flags n cells runStart (runLen + 1)
    else scanRun flags n cells runStart 0

/-- The cells before `i` are looked at: the last `runLen` of them are a run from
`runStart` on, and no run of `n` cells starts before it. -/
structure Scanned (flags : List Bool) (n i runStart runLen : Nat) : Prop where
  short : runLen < n
  start : 0 < runLen → runStart + runLen = i
  fits : runLen ≤ i
  run : RunAt flags runLen (i - runLen)
  earlier : ∀ s < i - runLen, ¬RunAt flags n s

variable {runStart runLen : Nat}

theorem not_runAt_of_taken (h : isFree flags i = false) (hl : start ≤ i) (hr : i < start + n) :
    ¬RunAt flags n start := by
  intro hrun
  have hfree := hrun (i - start) (by omega)
  rw [Nat.add_sub_cancel' hl, h] at hfree
  cases hfree

theorem runAt_extend (h : Scanned flags n i runStart runLen) (hi : isFree flags i = true) :
    RunAt flags (runLen + 1) (i - runLen) := by
  intro k hk
  rcases Nat.lt_succ_iff_lt_or_eq.mp hk with hlt | rfl
  · exact h.run k hlt
  · rwa [Nat.sub_add_cancel h.fits]

theorem scanned_free (h : Scanned flags n i runStart runLen) (hi : isFree flags i = true) (hsh : runLen + 1 < n) :
    Scanned flags n (i + 1) (if runLen = 0 then i else runStart) (runLen + 1) where
  short := hsh
  start _ := by
    have := h.start
    split <;> omega
  fits := Nat.succ_le_succ h.fits
  run := by
    rw [Nat.add_sub_add_right]
    exact runAt_extend h hi
  earlier s hs := h.earlier s (by omega)

theorem scanned_taken (h : Scanned flags n i runStart runLen) (hi : isFree flags i = false) :
    Scanned flags n (i + 1) runStart 0 where
  short := Nat.zero_lt_of_lt h.short
  start h := absurd h (Nat.lt_irrefl 0)
  fits := Nat.zero_le _
  run k hk := absurd hk (Nat.not_lt_zero k)
  earlier s hs := by
    have hsh := h.short
    by_cases hearly : s < i - runLen
    · exact h.earlier s hearly
    · exact not_runAt_of_taken hi (by omega) (by omega)

theorem scanRun_spec (count : Nat) (hend : flags.length ≤ i + count) (h : Scanned flags n i runStart runLen) :
    match scanRun flags n (List.range' i count) runStart runLen with
    | some s => IsLeast { s | RunAt flags n s } s
    | none => ∀ s, ¬RunAt flags n s := by
  induction count generalizing i runStart runLen with
  | zero =>
    intro s hrun
    have hsh := h.short
    by_cases hs : s < i - runLen
    · exact h.earlier s hs hrun
    · -- the run would leave the table
      have := lt_of_isFree (hrun (n - 1) (by omega))
      omega
  | succ count ih =>
    rw [range'_succ, scanRun]
    by_cases hi : isFree flags i = true
    · rw [if_pos hi]
      by_cases hn : n ≤ runLen + 1
      · rw [if_pos hn]
        have hlen : n = runLen + 1 := Nat.le_antisymm hn h.short
        have hst : (if runLen = 0 then i else runStart) = i - runLen := by
          have := h.start
          split <;> omega
        dsimp only
        rw [hst]
        refine ⟨?_, fun s hrun => Nat.le_of_not_lt fun hs => h.earlier s hs hrun⟩
        rw [hlen]
        exact runAt_extend h hi
      · rw [if_neg hn]
        exact ih (by omega) (scanned_free h hi (by omega))
    · rw [if_neg hi]
      exact ih (by omega) (scanned_taken h (Bool.eq_false_iff.mpr hi))

theorem scanRun_lowest (h : 0 < n) :
    match scanRun flags n (List.range flags.length) 0 0 with
    | some s => IsLeast { s | RunAt flags n s } s
    | none => ∀ s, ¬RunAt flags n s := by
  rw [range_eq_range']
  exact scanRun_spec flags.length (by omega)
    { short := h
      start h := absurd h (Nat.lt_irrefl 0)
      fits := Nat.le_refl 0
      run k hk := absurd hk (Nat.not_lt_zero k)
      earlier s hs := absurd hs (Nat.not_lt_zero s) }

end Runs

end X11Web.FreeCells
