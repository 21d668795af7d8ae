import Mathlib.Data.List.Induction

namespace X11Web.Brackets

open List

variable {α β : Type} {opens carries closes : α → Prop} {l l' : List α} {a : α}

/-- Whatever is carried comes after an opening and not after a closing. -/
def Bracketed (opens carries closes : α → Prop) (l : List α) : Prop :=
  ∀ pre a post, l = pre ++ a :: post → carries a → (∃ x ∈ pre, opens x) ∧ ∀ x ∈ pre, ¬closes x

theorem bracketed_concat :
    Bracketed opens carries closes (l ++ [a]) ↔
      Bracketed opens carries closes l ∧ (carries a → (∃ x ∈ l, opens x) ∧ ∀ x ∈ l, ¬closes x) := by
  constructor
  · intro h
    refine ⟨fun pre b post hl hb => ?_, h l a [] rfl⟩
    exact h pre b (post ++ [a]) (by rw [hl, append_assoc, cons_append]) hb
  · rintro ⟨h, ha⟩ pre b post hl hb
    rcases eq_nil_or_concat post with rfl | ⟨post, x, rfl⟩
    · obtain ⟨rfl, hba⟩ := append_inj' hl rfl
      obtain rfl := singleton_inj.mp hba
      exact ha hb
    · rw [concat_eq_append, ← cons_append, ← append_assoc] at hl
      exact h pre b post (append_inj' hl rfl).1 hb

theorem Bracketed.append (h : Bracketed opens carries closes l) (hl' : ∀ a ∈ l', ¬carries a) :
    Bracketed opens carries closes (l ++ l') := by
  induction l' using List.reverseRecOn with
  | nil => rwa [append_nil]
  | append_singleton l' a ih =>
    rw [← append_assoc, bracketed_concat]
    refine ⟨ih fun b hb => hl' b (mem_append_left _ hb), fun ha => ?_⟩
    exact absurd ha (hl' a (mem_append_right _ mem_cons_self))

theorem Bracketed.closes_after (h : Bracketed opens carries closes l) {pre post : List α}
    (hl : l = pre ++ a :: post) (ha : carries a) (hca : ¬closes a) {x : α} (hx : x ∈ l) (hcx : closes x) :
    x ∈ post := by
  rw [hl, mem_append, mem_cons] at hx
  rcases hx with hx | rfl | hx
  · exact absurd hcx ((h pre a post hl ha).2 x hx)
  · exact absurd hcx hca
  · exact hx

theorem filterMap_eq_of_unique {f : α → Option β} (hl : l.Nodup) (hf : ∀ b, b ≠ a → f b = none)
    (ha : a ∉ l → f a = none) : l.filterMap f = (f a).toList := by
  induction l with
  | nil => rw [ha not_mem_nil, filterMap_nil, Option.toList_none]
  | cons b l ih =>
    obtain ⟨hb, hl⟩ := nodup_cons.mp hl
    by_cases hba : b = a
    · subst hba
      have hrest : l.filterMap f = [] := by
        rw [filterMap_eq_nil_iff]
        intro x hx
        exact hf x fun h => hb (h ▸ hx)
      rw [filterMap_cons, hrest]
      cases f b <;> rfl
    · rw [filterMap_cons, hf b hba]
      exact ih hl fun hal => ha (not_mem_cons_of_ne_of_not_mem (Ne.symm hba) hal)

end X11Web.Brackets
