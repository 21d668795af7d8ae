import Mathlib.Data.Fintype.EquivFin
import Mathlib.Logic.Relation

namespace X11Web.Worklists

open Relation

section Cycles

variable {α : Type} {r : α → α → Prop} {a b : α}

/-- From `a` one never comes into a cycle. -/
def NoCycleFrom (r : α → α → Prop) (a : α) : Prop :=
  ∀ b, ReflTransGen r a b → ¬TransGen r b b

theorem acc_of_reaches (h : Acc (Function.swap r) a) (hab : ReflTransGen r a b) : Acc (Function.swap r) b := by
  induction hab with
  | refl => exact h
  | tail _ hbc ih => exact ih.inv hbc

theorem not_self_of_acc (h : Acc r a) : ¬r a a := by
  induction h with
  | intro a _ ih => exact fun hself => ih a hself hself

theorem noCycleFrom_of_acc (h : Acc (Function.swap r) a) : NoCycleFrom r a := by
  intro b hab hcycle
  have hacc : Acc (TransGen (Function.swap r)) b := (acc_of_reaches h hab).transGen
  exact not_self_of_acc hacc (transGen_swap.mpr hcycle)

/-- Among finitely many nodes, the ones below `a` are well-founded when no cycle is reached. -/
theorem acc_of_noCycleFrom [Finite α] (h : NoCycleFrom r a) : Acc (Function.swap r) a := by
  let Below : {b // ReflTransGen r a b} → {b // ReflTransGen r a b} → Prop := fun c b => TransGen r b.1 c.1
  have : IsTrans _ Below := ⟨fun b c d hbc hcd => TransGen.trans hcd hbc⟩
  have : Std.Irrefl Below := ⟨fun b hb => h b.1 b.2 hb⟩
  have hwf : WellFounded Below := Finite.wellFounded_of_trans_of_irrefl Below
  have hacc : ∀ b : {b // ReflTransGen r a b}, Acc (Function.swap r) b.1 := by
    intro b
    induction b using hwf.induction with
    | h b ih => exact Acc.intro b.1 fun c hbc => ih ⟨c, b.2.tail hbc⟩ (TransGen.single hbc)
  exact hacc ⟨a, ReflTransGen.refl⟩

/-- Only the edges of the nodes that are reached matter. -/
theorem noCycleFrom_congr {r' : α → α → Prop} (h : ∀ b, ReflTransGen r a b → ∀ c, r b c ↔ r' b c) :
    NoCycleFrom r a ↔ NoCycleFrom r' a := by
  have hrch {b : α} : ReflTransGen r a b ↔ ReflTransGen r' a b := by
    refine ⟨fun hab => ?_, fun hab => ?_⟩
    · induction hab with
      | refl => exact ReflTransGen.refl
      | tail hab hbc ih => exact ih.tail ((h _ hab _).mp hbc)
    · induction hab with
      | refl => exact ReflTransGen.refl
      | tail _ hbc ih => exact ih.tail ((h _ ih _).mpr hbc)
  have hcycle {b c : α} (hab : ReflTransGen r a b) : TransGen r b c ↔ TransGen r' b c := by
    refine ⟨fun hbc => ?_, fun hbc => ?_⟩
    · induction hbc with
      | single hbc => exact TransGen.single ((h _ hab _).mp hbc)
      | tail hbc hcd ih => exact ih.tail ((h _ (hab.trans hbc.to_reflTransGen) _).mp hcd)
    · induction hbc with
      | single hbc => exact TransGen.single ((h _ hab _).mpr hbc)
      | tail _ hcd ih => exact ih.tail ((h _ (hab.trans ih.to_reflTransGen) _).mpr hcd)
  refine ⟨fun hr b hab => ?_, fun hr b hab => ?_⟩
  · rw [← hcycle (hrch.mpr hab)]
    exact hr b (hrch.mpr hab)
  · rw [hcycle hab]
    exact hr b (hrch.mp hab)

end Cycles

section Frontiers

variable {α : Type} {r : α → α → Prop} {root : α} {seen : Finset α} {pending batch pending' : List α}

/-- What is seen and pending of the nodes reached from `root`: what a seen node leads to is
seen or pending. -/
structure Frontier (r : α → α → Prop) (root : α) (seen : Finset α) (pending : List α) : Prop where
  starts : root ∈ seen ∨ root ∈ pending
  seenReached : ∀ a ∈ seen, ReflTransGen r root a
  pendingReached : ∀ a ∈ pending, ReflTransGen r root a
  closed : ∀ a ∈ seen, ∀ b, r a b → b ∈ seen ∨ b ∈ pending

theorem frontier_root (r : α → α → Prop) (root : α) : Frontier r root ∅ [root] where
  starts := .inr (List.mem_singleton_self root)
  seenReached := fun a ha => absurd ha (Finset.notMem_empty a)
  pendingReached := by
    intro a ha
    rw [List.mem_singleton.mp ha]
  closed := fun a ha => absurd ha (Finset.notMem_empty a)

/-- A round sees what was pending, and leaves what it leads to pending. -/
theorem Frontier.round [DecidableEq α] (h : Frontier r root seen pending) (hbatch : ∀ a ∈ pending, a ∈ seen ∨ a ∈ batch)
    (hfresh : ∀ a ∈ batch, a ∈ pending)
    (hpend : ∀ b, b ∈ pending' ↔ b ∉ seen ∪ batch.toFinset ∧ ∃ a ∈ batch, r a b) :
    Frontier r root (seen ∪ batch.toFinset) pending' := by
  have hmem {a : α} : a ∈ seen ∪ batch.toFinset ↔ a ∈ seen ∨ a ∈ batch := by
    rw [Finset.mem_union, List.mem_toFinset]
  have hrch : ∀ a ∈ batch, ReflTransGen r root a := fun a ha => h.pendingReached a (hfresh a ha)
  refine ⟨.inl (hmem.mpr (h.starts.elim .inl (hbatch root))), fun a ha => ?_, fun b hb => ?_, fun a ha b hab => ?_⟩
  · exact (hmem.mp ha).elim (h.seenReached a) (hrch a)
  · obtain ⟨-, a, ha, hab⟩ := (hpend b).mp hb
    exact (hrch a ha).tail hab
  · by_cases hb : b ∈ seen ∪ batch.toFinset
    · exact .inl hb
    · obtain ha | ha := hmem.mp ha
      · exact .inl (hmem.mpr ((h.closed a ha b hab).elim .inl (hbatch b)))
      · exact .inr ((hpend b).mpr ⟨hb, a, ha, hab⟩)

/-- Where nothing new is pending, the nodes seen are the nodes reached. -/
theorem Frontier.mem_seen_iff (h : Frontier r root seen pending) (hdone : ∀ a ∈ pending, a ∈ seen) {a : α} :
    a ∈ seen ↔ ReflTransGen r root a := by
  refine ⟨h.seenReached a, fun hrch => ?_⟩
  induction hrch with
  | refl => exact h.starts.elim id (hdone root)
  | tail _ hbc ih => exact (h.closed _ ih _ hbc).elim id (hdone _)

theorem card_union_batch [DecidableEq α] (hfresh : ∀ a ∈ batch, a ∉ seen) (hne : batch ≠ []) :
    seen.card < (seen ∪ batch.toFinset).card := by
  obtain ⟨a, ha⟩ := List.exists_mem_of_ne_nil batch hne
  refine Finset.card_lt_card (Finset.ssubset_iff_subset_ne.mpr ⟨Finset.subset_union_left, fun h => hfresh a ha ?_⟩)
  rw [h]
  exact Finset.mem_union_right _ (List.mem_toFinset.mpr ha)

end Frontiers

end X11Web.Worklists
