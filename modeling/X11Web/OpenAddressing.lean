import Mathlib.Data.List.Dedup
import Mathlib.Data.List.Perm.Subperm
import Mathlib.Data.List.Range
import Mathlib.Logic.Function.Basic

namespace X11Web.OpenAddressing

open List Function

variable {K : Type} {n : Nat} {hash : K → Nat} {t : Nat → Option K} {k : K}

/-- Every stored key is the first stop of its own probe, and the keys of `held` are the
stored ones. -/
structure Holds (n : Nat) (hash : K → Nat) (t : Nat → Option K) (held : List K) : Prop where
  reached : ∀ slot k, slot < n → t slot = some k →
    ∃ i, slot = (hash k + i) % n ∧ ∀ j < i, t ((hash k + j) % n) ≠ none ∧ t ((hash k + j) % n) ≠ some k
  mem : ∀ k, k ∈ held ↔ ∃ slot < n, t slot = some k

theorem holds_empty : Holds n hash (fun _ => (none : Option K)) [] where
  reached := by
    intro slot k _ h
    cases h
  mem := by simp

variable {held : List K}

theorem Holds.slot_unique (h : Holds n hash t held) {slot slot' : Nat} (hlt : slot < n) (hlt' : slot' < n)
    (hslot : t slot = some k) (hslot' : t slot' = some k) : slot = slot' := by
  obtain ⟨i, rfl, hbef⟩ := h.reached slot k hlt hslot
  obtain ⟨i', rfl, hbef'⟩ := h.reached slot' k hlt' hslot'
  rcases Nat.lt_trichotomy i i' with hi | rfl | hi
  · exact absurd hslot (hbef' i hi).2
  · rfl
  · exact absurd hslot' (hbef i' hi).2

theorem Holds.exists_free (h : Holds n hash t held) (hfew : held.length < n) : ∃ slot < n, t slot = none := by
  by_contra hfull
  have hused : ∀ slot < n, ∃ k, t slot = some k := fun slot hslot =>
    Option.ne_none_iff_exists'.mp (fun hnone => hfull ⟨slot, hslot, hnone⟩)
  have hnd : ((List.range n).map t).Nodup := by
    refine nodup_range.map_on ?_
    intro slot hslot slot' hslot' heq
    obtain ⟨k, hk⟩ := hused slot (mem_range.mp hslot)
    exact h.slot_unique (mem_range.mp hslot) (mem_range.mp hslot') hk (heq ▸ hk)
  have hsub : (List.range n).map t ⊆ held.map some := by
    intro content hcontent
    obtain ⟨slot, hslot, rfl⟩ := mem_map.mp hcontent
    obtain ⟨k, hk⟩ := hused slot (mem_range.mp hslot)
    rw [hk]
    exact mem_map_of_mem ((h.mem k).mpr ⟨slot, mem_range.mp hslot, hk⟩)
  have hle := (hnd.subperm hsub).length_le
  rw [length_map, length_range, length_map] at hle
  exact absurd hfew (Nat.not_lt.mpr hle)

theorem Holds.mem_of_found (h : Holds n hash t held) {slot : Nat} (hslot : slot < n) (hfnd : t slot = some k) :
    k ∈ held :=
  (h.mem k).mpr ⟨slot, hslot, hfnd⟩

section Search

variable [DecidableEq K]

/-- Linear probing: the first slot from `slot` on, around the end, that is free or holds
the key. -/
def search (n : Nat) (t : Nat → Option K) (k : K) : Nat → Nat → Option Nat
  | 0, _ => none
  | fuel + 1, slot =>
    if t slot = none ∨ t slot = some k then some slot else search n t k fuel ((slot + 1) % n)

theorem search_eq_some {fuel start slot : Nat} (hst : start < n) (h : search n t k fuel start = some slot) :
    ∃ i, slot = (start + i) % n ∧ (t slot = none ∨ t slot = some k) ∧
      ∀ j < i, t ((start + j) % n) ≠ none ∧ t ((start + j) % n) ≠ some k := by
  induction fuel generalizing start with
  | zero => cases h
  | succ fuel ih =>
    rw [search] at h
    split at h
    · next hstop =>
      obtain rfl := Option.some.inj h
      exact ⟨0, (Nat.mod_eq_of_lt hst).symm, hstop, fun j hj => absurd hj (Nat.not_lt_zero j)⟩
    · next hgo =>
      obtain ⟨i, hslot, hstop, hbef⟩ := ih (Nat.mod_lt _ (Nat.zero_lt_of_lt hst)) h
      have hshift : ∀ j, ((start + 1) % n + j) % n = (start + (j + 1)) % n := by
        intro j
        rw [Nat.mod_add_mod, Nat.add_assoc, Nat.add_comm 1]
      refine ⟨i + 1, hslot.trans (hshift i), hstop, fun j hj => ?_⟩
      cases j with
      | zero =>
        rw [Nat.add_zero, Nat.mod_eq_of_lt hst]
        exact not_or.mp hgo
      | succ j =>
        rw [← hshift]
        exact hbef j (Nat.lt_of_succ_lt_succ hj)

theorem search_isSome {fuel start i : Nat} (hst : start < n) (hi : i < fuel)
    (hstop : t ((start + i) % n) = none ∨ t ((start + i) % n) = some k) :
    ∃ slot, search n t k fuel start = some slot := by
  induction fuel generalizing start i with
  | zero => exact absurd hi (Nat.not_lt_zero i)
  | succ fuel ih =>
    rw [search]
    split
    · exact ⟨start, rfl⟩
    · next hgo =>
      cases i with
      | zero =>
        rw [Nat.add_zero, Nat.mod_eq_of_lt hst] at hstop
        exact absurd hstop hgo
      | succ i =>
        refine ih (Nat.mod_lt _ (Nat.zero_lt_of_lt hst)) (Nat.lt_of_succ_lt_succ hi) ?_
        rw [Nat.mod_add_mod, Nat.add_assoc, Nat.add_comm 1]
        exact hstop

theorem Holds.search_isSome (h : Holds n hash t held) (hfew : held.length < n) (hhash : hash k < n) {fuel : Nat}
    (hfuel : n ≤ fuel) : ∃ slot, search n t k fuel (hash k) = some slot := by
  obtain ⟨slot, hslot, hfree⟩ := h.exists_free hfew
  have hpos := Nat.zero_lt_of_lt hslot
  have hrch : (hash k + (slot + (n - hash k)) % n) % n = slot := by
    rw [Nat.add_mod_mod, Nat.add_left_comm, Nat.add_sub_cancel' (Nat.le_of_lt hhash), Nat.add_mod_right,
      Nat.mod_eq_of_lt hslot]
  have hstop : t ((hash k + (slot + (n - hash k)) % n) % n) = none := by
    rw [hrch]
    exact hfree
  exact OpenAddressing.search_isSome hhash (Nat.lt_of_lt_of_le (Nat.mod_lt _ hpos) hfuel) (.inl hstop)

theorem Holds.not_mem (h : Holds n hash t held) (hhash : hash k < n) {fuel slot : Nat}
    (hsearch : search n t k fuel (hash k) = some slot) (hfree : t slot = none) : k ∉ held := by
  intro hk
  obtain ⟨other, hoth, hstd⟩ := (h.mem k).mp hk
  obtain ⟨i', rfl, hbef'⟩ := h.reached other k hoth hstd
  obtain ⟨i, rfl, _, hbef⟩ := search_eq_some hhash hsearch
  rcases Nat.lt_trichotomy i i' with hi | rfl | hi
  · exact (hbef' i hi).1 hfree
  · rw [hfree] at hstd
    cases hstd
  · exact (hbef i' hi).2 hstd

theorem Holds.insert (h : Holds n hash t held) (hhash : hash k < n) {fuel slot : Nat}
    (hsearch : search n t k fuel (hash k) = some slot) (hfree : t slot = none) :
    Holds n hash (update t slot (some k)) (k :: held) := by
  have hnew := h.not_mem hhash hsearch hfree
  obtain ⟨i, hslot, _, hbef⟩ := search_eq_some hhash hsearch
  have hlt : slot < n := hslot ▸ Nat.mod_lt _ (Nat.zero_lt_of_lt hhash)
  have hsame : ∀ other, t other ≠ none → update t slot (some k) other = t other := by
    intro other hoth
    refine update_of_ne ?_ _ _
    rintro rfl
    exact hoth hfree
  constructor
  · intro other key hoth hstd
    by_cases heq : other = slot
    · rw [heq, update_self] at hstd
      obtain rfl := Option.some.inj hstd
      refine ⟨i, heq.trans hslot, fun j hj => ?_⟩
      rw [hsame _ (hbef j hj).1]
      exact hbef j hj
    · rw [update_of_ne heq] at hstd
      obtain ⟨i', hoth', hbef'⟩ := h.reached other key hoth hstd
      refine ⟨i', hoth', fun j hj => ?_⟩
      rw [hsame _ (hbef' j hj).1]
      exact hbef' j hj
  · intro key
    rw [mem_cons, h.mem]
    constructor
    · rintro (rfl | ⟨other, hoth, hstd⟩)
      · exact ⟨slot, hlt, update_self ..⟩
      · refine ⟨other, hoth, ?_⟩
        rw [hsame other (by rw [hstd]; exact Option.some_ne_none key), hstd]
    · rintro ⟨other, hoth, hstd⟩
      by_cases heq : other = slot
      · rw [heq, update_self] at hstd
        exact .inl (Option.some.inj hstd).symm
      · rw [update_of_ne heq] at hstd
        exact .inr ⟨other, hoth, hstd⟩

end Search

end X11Web.OpenAddressing
