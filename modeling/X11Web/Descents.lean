import Mathlib.Data.Finite.Defs
import Mathlib.Data.Set.Finite.Basic
import Mathlib.Logic.Relation
import Mathlib.Order.WellFounded
import X11Web.RootedForest

namespace X11Web.Descents

open Relation LinkedForest RootedForest

section Ends

variable {α : Type} {R S : α → α → Prop} {a b r r' : α}

/-- Steps of `R` lead from `a` to `r`, where none leads on. -/
inductive Ends (R : α → α → Prop) : α → α → Prop
  | stop {a : α} : (∀ b, ¬ R a b) → Ends R a a
  | step {a b r : α} : R a b → Ends R b r → Ends R a r

def Functional (R : α → α → Prop) : Prop := ∀ a b c, R a b → R a c → b = c

theorem Ends.tail (hR : Functional R) (h : Ends R a r) (hab : R a b) : Ends R b r := by
  cases h with
  | stop hstop => exact absurd hab (hstop b)
  | step hab' h => rwa [hR a b _ hab hab']

theorem Ends.path (h : Ends R a r) : ReflTransGen R a r := by
  induction h with
  | stop _ => exact .refl
  | step hab _ ih => exact .head hab ih

theorem exists_ends (h : Acc (fun c p => R p c) a) : ∃ r, Ends R a r := by
  induction h with
  | intro a _ ih =>
    by_cases hstop : ∀ b, ¬ R a b
    · exact ⟨a, .stop hstop⟩
    · push Not at hstop
      obtain ⟨b, hab⟩ := hstop
      obtain ⟨r, hr⟩ := ih b hab
      exact ⟨r, .step hab hr⟩

/-- Two descents end in the same place exactly when the first follows every
step of the second, provided that a step not followed leads to other places.
The invariant `I` holds wherever the second one comes. -/
theorem ends_together_iff {I : α → Prop} (hR : Functional R) (hS : Functional S)
    (hkeep : ∀ b c, I b → S b c → I c) (hbacked : ∀ b c, I b → R b c → ∃ c', S b c')
    (hapart : ∀ b c r, I b → S b c → Ends S b r → Ends R b r → R b c)
    (ha : I a) (hends : ∃ r, Ends S a r) :
    (∃ r, Ends S a r ∧ Ends R a r) ↔ ∀ b c, ReflTransGen S a b → S b c → R b c := by
  constructor
  · rintro ⟨r, hSr, hRr⟩
    induction hSr with
    | stop hstop =>
      intro b c hab hbc
      obtain rfl | ⟨d, had, -⟩ := hab.cases_head
      · exact absurd hbc (hstop c)
      · exact absurd had (hstop d)
    | @step a d r had hd ih =>
      have hRad := hapart a d r ha had (.step had hd) hRr
      intro b c hab hbc
      obtain rfl | ⟨d', had', hd'b⟩ := hab.cases_head
      · rwa [hS a c d hbc had]
      · obtain rfl := hS a d d' had had'
        exact ih (hkeep a d ha had) ⟨r, hd⟩ (hRr.tail hR hRad) b c hd'b hbc
  · intro hfol
    obtain ⟨r, hSr⟩ := hends
    refine ⟨r, hSr, ?_⟩
    induction hSr with
    | @stop a hstop =>
      refine .stop (fun b hab => ?_)
      obtain ⟨c, hac⟩ := hbacked a b ha hab
      exact hstop c hac
    | @step a d r had hd ih =>
      refine .step (hfol a d .refl had) (ih (hkeep a d ha had) ?_)
      intro b c hdb hbc
      exact hfol b c (.head had hdb) hbc

theorem ends_congr (h : ∀ b, ReflTransGen R a b → ∀ c, S b c ↔ R b c) : Ends S a r ↔ Ends R a r := by
  constructor
  · intro hS
    induction hS with
    | @stop a hstop => exact .stop fun b hab => hstop b ((h a .refl b).mpr hab)
    | @step a b r hab _ ih =>
      have hR := (h a .refl b).mp hab
      exact .step hR (ih fun c hbc => h c (.head hR hbc))
  · intro hR
    induction hR with
    | @stop a hstop => exact .stop fun b hab => hstop b ((h a .refl b).mp hab)
    | @step a b r hab _ ih => exact .step ((h a .refl b).mpr hab) (ih fun c hbc => h c (.head hab hbc))

/-- Two descents, the first over what the states of the second are seen as, end in the
same place exactly when they take the same steps along the second, provided that
different steps lead to different places. -/
theorem ends_seen_iff {β : Type} {T : β → β → Prop} {see : α → β} {I : α → Prop} (hT : Functional T)
    (hkeep : ∀ b c, I b → S b c → I c)
    (hapart : ∀ b r, I b → Ends S b r → Ends T (see b) (see r) → ∀ i, T (see b) i ↔ ∃ c, S b c ∧ see c = i)
    (ha : I a) (hS : Functional S) (hends : ∃ r, Ends S a r) :
    (∃ r, Ends S a r ∧ Ends T (see a) (see r)) ↔
      ∀ b, ReflTransGen S a b → ∀ i, T (see b) i ↔ ∃ c, S b c ∧ see c = i := by
  constructor
  · rintro ⟨r, hSr, hTr⟩
    induction hSr with
    | @stop a hstop =>
      intro b hab
      obtain rfl | ⟨d, had, -⟩ := hab.cases_head
      · exact hapart a a ha (.stop hstop) hTr
      · exact absurd had (hstop d)
    | @step a d r had hd ih =>
      have hsame := hapart a r ha (.step had hd) hTr
      intro b hab
      obtain rfl | ⟨d', had', hd'b⟩ := hab.cases_head
      · exact hsame
      · obtain rfl := hS a d d' had had'
        exact ih (hkeep a d ha had) ⟨r, hd⟩ (hTr.tail hT ((hsame _).mpr ⟨d, had, rfl⟩)) b hd'b
  · intro hsame
    obtain ⟨r, hSr⟩ := hends
    refine ⟨r, hSr, ?_⟩
    induction hSr with
    | @stop a hstop =>
      refine .stop (fun i hi => ?_)
      obtain ⟨c, hac, -⟩ := (hsame a .refl i).mp hi
      exact hstop c hac
    | @step a d r had hd ih =>
      refine .step ((hsame a .refl _).mpr ⟨d, had, rfl⟩) (ih (hkeep a d ha had) fun b hdb => ?_)
      exact hsame b (.head had hdb)

/-- Follow a partial function for at most `n` calls, until it gives no more. -/
def follow (next : α → Option α) : Nat → α → Option α
  | 0, _ => none
  | n + 1, a =>
    match next a with
    | some b => follow next n b
    | none => some a

theorem functional_next (next : α → Option α) : Functional (fun a b => next a = some b) := by
  intro a b c hb hc
  exact Option.some.inj (hb.symm.trans hc)

theorem Ends.follow {next : α → Option α} (h : Ends (fun a b => next a = some b) a r) :
    ∃ N, ∀ n, N ≤ n → Descents.follow next n a = some r := by
  induction h with
  | @stop a hstop =>
    refine ⟨1, fun n hn => ?_⟩
    obtain ⟨n, rfl⟩ := Nat.exists_eq_add_of_le' hn
    rw [Descents.follow, Option.eq_none_iff_forall_ne_some.mpr hstop]
  | @step a b r hab _ ih =>
    obtain ⟨N, hN⟩ := ih
    refine ⟨N + 1, fun n hn => ?_⟩
    obtain ⟨n, rfl⟩ := Nat.exists_eq_add_of_le' (Nat.le_of_add_left_le hn)
    rw [Descents.follow, hab]
    exact hN n (by omega)

theorem ends_of_follow {next : α → Option α} {n : Nat} (h : follow next n a = some r) :
    Ends (fun a b => next a = some b) a r := by
  induction n generalizing a with
  | zero => simp [follow] at h
  | succ n ih =>
    rw [follow] at h
    cases hnext : next a with
    | none =>
      rw [hnext] at h
      obtain rfl := Option.some.inj h
      exact .stop (fun b hb => by simp [hnext] at hb)
    | some b =>
      rw [hnext] at h
      exact .step hnext (ih h)

end Ends

section Forest

variable {ι : Type} {t : Links ι} {c d p v : ι}

theorem ancestor_add {j : Nat} (k : Nat) {w : ι} (h : ancestor t j w = some v) :
    ancestor t (j + k) w = ancestor t k v := by
  induction j generalizing w with
  | zero => rw [Nat.zero_add, Option.some.inj h]
  | succ j ih =>
    obtain ⟨q, hq, h⟩ := ancestor_succ.mp h
    rw [Nat.succ_add, ancestor, hq, Option.bind_some, ih h]

theorem parentOf_eq_ancestor (t : Links ι) (w : ι) : parentOf t w = ancestor t 1 w := by
  cases h : parentOf t w <;> simp [ancestor, h]

def NoCycle (t : Links ι) : Prop := ∀ w k, ancestor t (k + 1) w ≠ some w

theorem noCycle_of_rank (rank : ι → Nat) (h : ∀ w p, parentOf t w = some p → rank p < rank w) :
    NoCycle t := by
  have hle : ∀ k w v, ancestor t (k + 1) w = some v → rank v < rank w := by
    intro k
    induction k with
    | zero =>
      intro w v hv
      exact h w v (by rw [parentOf_eq_ancestor, hv])
    | succ k ih =>
      intro w v hv
      obtain ⟨p, hp, hv⟩ := ancestor_succ.mp hv
      exact (ih p v hv).trans (h w p hp)
  intro w k hk
  exact Nat.lt_irrefl _ (hle k w w hk)

theorem NoCycle.child_unique (h : NoCycle t) (hc : parentOf t c = some p)
    (hd : parentOf t d = some p) {j k : Nat} (hj : ancestor t j v = some c)
    (hk : ancestor t k v = some d) : c = d := by
  have hlt : ∀ {a b : ι} {i j : Nat}, parentOf t a = some p → parentOf t b = some p →
      ancestor t i v = some a → ancestor t j v = some b → ¬ i < j := by
    intro a b i j ha hb hi hj hij
    obtain ⟨k, rfl⟩ := Nat.exists_eq_add_of_lt hij
    rw [Nat.add_assoc, ancestor_add (k + 1) hi] at hj
    obtain ⟨q, hq, hj⟩ := ancestor_succ.mp hj
    obtain rfl := Option.some.inj (ha.symm.trans hq)
    refine h p k ?_
    rw [ancestor_add 1 hj, ← parentOf_eq_ancestor, hb]
  obtain rfl : j = k := by
    have := hlt hc hd hj hk
    have := hlt hd hc hk hj
    omega
  exact Option.some.inj (hj.symm.trans hk)

theorem NoCycle.child_not_above (h : NoCycle t) (hc : parentOf t c = some p) {k : Nat} :
    ancestor t k p ≠ some c := by
  intro hk
  refine h p k ?_
  rw [ancestor_add 1 hk, ← parentOf_eq_ancestor, hc]

theorem ancestor_of_transGen (h : TransGen (fun c p => parentOf t c = some p) c p) :
    ∃ k, ancestor t (k + 1) c = some p := by
  induction h with
  | single hc => exact ⟨0, by rw [← hc, parentOf_eq_ancestor]⟩
  | @tail b p _ hb ih =>
    obtain ⟨k, hk⟩ := ih
    exact ⟨k + 1, by rw [ancestor_add 1 hk, ← parentOf_eq_ancestor, hb]⟩

theorem NoCycle.acc (h : NoCycle t) (hfin : {w | (t w).isSome}.Finite) (w : ι) :
    Acc (fun c p => parentOf t c = some p) w := by
  have hfinite : Finite {w | (t w).isSome} := hfin
  let r : {w | (t w).isSome} → {w | (t w).isSome} → Prop :=
    fun a b => TransGen (fun c p => parentOf t c = some p) a.1 b.1
  have htrans : IsTrans _ r := ⟨fun a b c hab hbc => TransGen.trans hab hbc⟩
  have hirrefl : Std.Irrefl r := ⟨fun a ha => by
    obtain ⟨k, hk⟩ := ancestor_of_transGen ha
    exact h a.1 k hk⟩
  have hwf : WellFounded r := Finite.wellFounded_of_trans_of_irrefl r
  have hnode : ∀ a : {w | (t w).isSome}, Acc (fun c p => parentOf t c = some p) a.1 := by
    intro a
    induction a using hwf.induction with
    | _ a ih =>
      refine .intro _ (fun c hc => ?_)
      have hpresent : (t c).isSome := by
        obtain ⟨n, hn, -⟩ := parentOf_eq_some.mp hc
        simp [hn]
      exact ih ⟨c, hpresent⟩ (.single hc)
  refine .intro _ (fun c hc => ?_)
  obtain ⟨n, hn, -⟩ := parentOf_eq_some.mp hc
  exact hnode ⟨c, by simp [hn]⟩

end Forest

end X11Web.Descents
