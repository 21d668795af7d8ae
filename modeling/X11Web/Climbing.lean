import Mathlib.Data.List.Basic

namespace X11Web.Climbing

variable {α : Type} {up : α → Option α} {P : α → Prop} {a v v' : α} {below below' : List α}

/-- The first node with `P` from `a` upwards, and the nodes from `a` to just below it. -/
inductive Nearest (up : α → Option α) (P : α → Prop) : α → List α → α → Prop
  | here {a : α} (h : P a) : Nearest up P a [] a
  | above {a b v : α} {below : List α} (h : ¬ P a) (hup : up a = some b) (hrest : Nearest up P b below v) :
      Nearest up P a (a :: below) v

/-- Look for a node upwards, over at most `n` nodes and none that is blocked. -/
def seek (up : α → Option α) (blocked wanted : α → Bool) : Nat → α → Option α
  | 0, _ => none
  | n + 1, a =>
    if blocked a then none else if wanted a then some a else (up a).bind (seek up blocked wanted n)

theorem Nearest.holds (h : Nearest up P a below v) : P v := by
  induction h with
  | here h => exact h
  | above _ _ _ ih => exact ih

theorem Nearest.unique (h : Nearest up P a below v) (h' : Nearest up P a below' v') :
    below = below' ∧ v = v' := by
  induction h generalizing below' with
  | here h =>
    cases h' with
    | here _ => exact ⟨rfl, rfl⟩
    | above hnot _ _ => exact absurd h hnot
  | above hnot hup _ ih =>
    cases h' with
    | here h => exact absurd h hnot
    | above _ hup' hrest' =>
      obtain rfl := Option.some.inj (hup.symm.trans hup')
      obtain ⟨rfl, rfl⟩ := ih hrest'
      exact ⟨rfl, rfl⟩

theorem seek_eq_some_iff {blocked wanted : α → Bool} {n : Nat} :
    seek up blocked wanted n a = some v ↔ ∃ below, Nearest up (fun b => wanted b = true) a below v ∧
      below.length < n ∧ ∀ b ∈ below ++ [v], blocked b = false := by
  induction n generalizing a with
  | zero => simp [seek]
  | succ n ih =>
    rw [seek]
    constructor
    · intro h
      split at h
      · cases h
      · next hclear =>
        rw [Bool.not_eq_true] at hclear
        split at h
        · next hwanted =>
          obtain rfl := Option.some.inj h
          exact ⟨[], .here hwanted, Nat.zero_lt_succ n, by simpa using hclear⟩
        · next hnot =>
          obtain ⟨b, hup, hrest⟩ := Option.bind_eq_some_iff.mp h
          obtain ⟨below, hnrst, hlen, hclears⟩ := ih.mp hrest
          refine ⟨a :: below, .above hnot hup hnrst, Nat.succ_lt_succ hlen, ?_⟩
          exact List.forall_mem_cons.mpr ⟨hclear, hclears⟩
    · rintro ⟨below, hnrst, hlen, hclears⟩
      cases hnrst with
      | here hwanted =>
        rw [if_neg (by simpa using hclears), if_pos hwanted]
      | @above a b v below hnot hup hrest =>
        obtain ⟨hclear, hclears⟩ := List.forall_mem_cons.mp hclears
        rw [if_neg (by simp [hclear]), if_neg hnot, hup, Option.bind_some]
        exact ih.mpr ⟨below, hrest, Nat.lt_of_succ_lt_succ hlen, hclears⟩

end X11Web.Climbing
