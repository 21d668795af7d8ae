import Mathlib.Data.Set.Prod

namespace X11Web.Crosses

variable {α β : Type} {S A A' : Set α} {T B B' : Set β}

/-- The points of a rectangle `S × T` whose column is in `A` or whose row is in `B`. -/
def cross (S A : Set α) (T B : Set β) : Set (α × β) := A ×ˢ T ∪ S ×ˢ B

theorem mem_cross {p : α × β} : p ∈ cross S A T B ↔ (p.1 ∈ A ∧ p.2 ∈ T) ∨ (p.1 ∈ S ∧ p.2 ∈ B) := Iff.rfl

theorem cross_subset_iff (hS : S.Nonempty) (hT : T.Nonempty) : cross S A T B ⊆ S ×ˢ T ↔ A ⊆ S ∧ B ⊆ T := by
  obtain ⟨s, hs⟩ := hS
  obtain ⟨t, ht⟩ := hT
  constructor
  · intro h
    exact ⟨fun a ha => (h (mem_cross.mpr (.inl ⟨ha, ht⟩)) : (a, t) ∈ S ×ˢ T).1,
      fun b hb => (h (mem_cross.mpr (.inr ⟨hs, hb⟩)) : (s, b) ∈ S ×ˢ T).2⟩
  · rintro ⟨hA, hB⟩ p (⟨ha, ht⟩ | ⟨hs, hb⟩)
    · exact ⟨hA ha, ht⟩
    · exact ⟨hs, hB hb⟩

theorem diff_cross : S ×ˢ T \ cross S A T B = (S \ A) ×ˢ (T \ B) := by
  ext p
  simp only [cross, Set.mem_sdiff, Set.mem_prod, Set.mem_union]
  tauto

theorem eq_of_diff_eq_diff {α : Type} {S A A' : Set α} (hA : A ⊆ S) (hA' : A' ⊆ S) (h : S \ A = S \ A') : A = A' := by
  rw [← Set.sdiff_sdiff_cancel_left hA, h, Set.sdiff_sdiff_cancel_left hA']

theorem cross_eq_whole_iff (hS : S.Nonempty) (hT : T.Nonempty) (hA : A ⊆ S) (hB : B ⊆ T) :
    cross S A T B = S ×ˢ T ↔ A = S ∨ B = T := by
  have hcross := (cross_subset_iff hS hT).mpr ⟨hA, hB⟩
  have hall : cross S A T B = S ×ˢ T ↔ (S \ A) ×ˢ (T \ B) = ∅ := by
    rw [← diff_cross, Set.sdiff_eq_empty]
    exact ⟨fun h => h.ge, fun h => hcross.antisymm h⟩
  rw [hall, Set.prod_eq_empty_iff, Set.sdiff_eq_empty, Set.sdiff_eq_empty]
  exact or_congr ⟨hA.antisymm, fun h => h.ge⟩ ⟨hB.antisymm, fun h => h.ge⟩

theorem cross_eq_cross_iff (hS : S.Nonempty) (hT : T.Nonempty) (hA' : A' ⊆ S) (hB' : B' ⊆ T) :
    cross S A T B = cross S A' T B' ↔
      (A = A' ∧ B = B') ∨ (A ⊆ S ∧ B ⊆ T) ∧ (A = S ∨ B = T) ∧ (A' = S ∨ B' = T) := by
  constructor
  · intro h
    have hins : A ⊆ S ∧ B ⊆ T := by
      rw [← cross_subset_iff hS hT, h, cross_subset_iff hS hT]
      exact ⟨hA', hB'⟩
    by_cases hall : A' = S ∨ B' = T
    · refine .inr ⟨hins, ?_, hall⟩
      rw [← cross_eq_whole_iff hS hT hins.1 hins.2, h, cross_eq_whole_iff hS hT hA' hB']
      exact hall
    · have hall' : ¬ (A = S ∨ B = T) := by
        rw [← cross_eq_whole_iff hS hT hins.1 hins.2, h, cross_eq_whole_iff hS hT hA' hB']
        exact hall
      push Not at hall'
      have hrest : ((S \ A) ×ˢ (T \ B)).Nonempty := by
        rw [Set.prod_nonempty_iff, Set.sdiff_nonempty, Set.sdiff_nonempty]
        exact ⟨fun h => hall'.1 (hins.1.antisymm h), fun h => hall'.2 (hins.2.antisymm h)⟩
      obtain ⟨hcols, hrows⟩ := (Set.prod_eq_prod_iff_of_nonempty hrest).mp
        (diff_cross.symm.trans ((congrArg (S ×ˢ T \ ·) h).trans diff_cross))
      exact .inl ⟨eq_of_diff_eq_diff hins.1 hA' hcols, eq_of_diff_eq_diff hins.2 hB' hrows⟩
  · rintro (⟨rfl, rfl⟩ | ⟨⟨hA, hB⟩, hall, hall'⟩)
    · rfl
    · rw [(cross_eq_whole_iff hS hT hA hB).mpr hall, (cross_eq_whole_iff hS hT hA' hB').mpr hall']

end X11Web.Crosses
