import X11Web.HashMaps

namespace X11Web.LastWrites

open HashMaps List

variable {K α β σ : Type} [DecidableEq K] {f : α → Option β} {xs ys : List α} {m : HashMap K (List α)}

def lastWrite (f : α → Option β) (xs : List α) : Option β := (xs.filterMap f).getLast?

theorem lastWrite_append (f : α → Option β) (xs ys : List α) :
    lastWrite f (xs ++ ys) = (lastWrite f ys).or (lastWrite f xs) := by
  rw [lastWrite, filterMap_append, List.getLast?_append]
  rfl

theorem lastWrite_singleton (f : α → Option β) (x : α) : lastWrite f [x] = f x := by
  cases h : f x <;> simp [lastWrite, h]

theorem foldl_field {g : σ → α → σ} {p : σ → β} (h : ∀ s a, p (g s a) = (f a).getD (p s)) (s : σ) (xs : List α) :
    p (xs.foldl g s) = (lastWrite f xs).getD (p s) := by
  induction xs generalizing s with
  | nil => rfl
  | cons x xs ih =>
    rw [foldl_cons, ih, h, ← singleton_append, lastWrite_append, lastWrite_singleton]
    cases lastWrite f xs <;> rfl

def replay (order : List K) (m : HashMap K (List α)) : List α := order.flatMap (fun k => (m.lookup k).getD [])

theorem lastWrite_replay {order : List K} {v : β} (h : lastWrite f (replay order m) = some v) :
    ∃ k log, m.lookup k = some log ∧ lastWrite f log = some v := by
  induction order using List.reverseRecOn with
  | nil => cases h
  | append_singleton order k ih =>
    rw [replay, flatMap_append, lastWrite_append] at h
    cases hk : lastWrite f ([k].flatMap (fun k => (m.lookup k).getD [])) with
    | none =>
      rw [hk] at h
      exact ih h
    | some x =>
      rw [hk] at h
      rw [flatMap_singleton] at hk
      cases hlog : m.lookup k with
      | none =>
        rw [hlog] at hk
        cases hk
      | some log =>
        rw [hlog] at hk
        exact ⟨k, log, hlog, hk.trans h⟩

theorem lastWrite_replay_eq_none {order : List K} (hord : IterationOrder order m)
    (h : lastWrite f (replay order m) = none) {k : K} {log : List α} (hlog : m.lookup k = some log) :
    lastWrite f log = none := by
  have hmem : k ∈ order := (hord.2 k).mpr (Finmap.mem_iff.mpr ⟨log, hlog⟩)
  have hnone := List.getLast?_eq_none_iff.mp h
  rw [lastWrite, List.getLast?_eq_none_iff, filterMap_eq_nil_iff]
  intro x hx
  refine filterMap_eq_nil_iff.mp hnone x (mem_flatMap.mpr ⟨k, hmem, ?_⟩)
  rw [hlog]
  exact hx

/-- The replay ends with the value `v` whatever the order, exactly if every log that
writes at all ends with it, and if none does the value was there before. -/
theorem forall_replay_iff {init v : β} :
    (∀ order, IterationOrder order m → (lastWrite f (replay order m)).getD init = v) ↔
      (∀ k log, m.lookup k = some log → ∀ x, lastWrite f log = some x → x = v) ∧
        ((∀ k log, m.lookup k = some log → lastWrite f log = none) → init = v) := by
  constructor
  · intro h
    constructor
    · intro k log hlog x hx
      obtain ⟨order, hord⟩ := exists_iterationOrder_last (Finmap.mem_iff.mpr ⟨log, hlog⟩)
      have hlast := h _ hord
      rw [replay, flatMap_append, lastWrite_append, flatMap_singleton, hlog, Option.getD_some, hx] at hlast
      exact hlast
    · intro hnone
      obtain ⟨order, hord⟩ := exists_iterationOrder m
      have hrpl : lastWrite f (replay order m) = none := by
        refine Option.eq_none_iff_forall_ne_some.mpr fun v hv => ?_
        obtain ⟨k, log, hlog, hlast⟩ := lastWrite_replay hv
        rw [hnone k log hlog] at hlast
        cases hlast
      have hinit := h order hord
      rwa [hrpl] at hinit
  · rintro ⟨hsome, hnone⟩ order hord
    cases hrpl : lastWrite f (replay order m) with
    | none => exact hnone fun k log hlog => lastWrite_replay_eq_none hord hrpl hlog
    | some x =>
      obtain ⟨k, log, hlog, hlast⟩ := lastWrite_replay hrpl
      exact hsome k log hlog x hlast

end X11Web.LastWrites
