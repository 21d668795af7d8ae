import Mathlib.Data.List.Basic

namespace X11Web.Resumable

variable {σ α ω : Type}

/-- A decoder takes the first item off its buffer or waits. Whether an item is
there and what it is depends on the bytes of the item alone. -/
structure Decoder (σ α ω : Type) where
  next : σ → List α → Option (σ × List ω × List α)
  suffix : ∀ {s b s' o r}, next s b = some (s', o, r) → r <:+ b
  shrinks : ∀ {s b s' o r}, next s b = some (s', o, r) → r.length < b.length
  stable : ∀ {s b s' o r} (more : List α), next s b = some (s', o, r) →
    next s (b ++ more) = some (s', o, r ++ more)
  causal : ∀ {s b s' o r} (more : List α), next s (b ++ more) = some (s', o, r ++ more) →
    next s b = some (s', o, r)

variable {d : Decoder σ α ω} {s s' s'' : σ} {b r r' more : List α} {os os' : List ω}

inductive Drains (d : Decoder σ α ω) : σ → List α → List ω → σ → List α → Prop
  | stop {s : σ} {b : List α} : d.next s b = none → Drains d s b [] s b
  | step {s s' s'' : σ} {b r r' : List α} {o os : List ω} : d.next s b = some (s', o, r) →
      Drains d s' r os s'' r' → Drains d s b (o ++ os) s'' r'

theorem Drains.waits (h : Drains d s b os s' r) : d.next s' r = none := by
  induction h with
  | stop hnone => exact hnone
  | step _ _ ih => exact ih

theorem Drains.of_waits (hnone : d.next s b = none) (h : Drains d s b os s' r) :
    os = [] ∧ s' = s ∧ r = b := by
  cases h with
  | stop _ => exact ⟨rfl, rfl, rfl⟩
  | step hsome _ =>
    rw [hnone] at hsome
    simp at hsome

theorem Drains.unique (h : Drains d s b os s' r) (h' : Drains d s b os' s'' r') :
    os = os' ∧ s' = s'' ∧ r = r' := by
  induction h generalizing os' with
  | stop hnone =>
    obtain ⟨rfl, rfl, rfl⟩ := h'.of_waits hnone
    exact ⟨rfl, rfl, rfl⟩
  | step hnext _ ih =>
    cases h' with
    | stop hnone =>
      rw [hnone] at hnext
      simp at hnext
    | step hnext' hrest =>
      rw [hnext] at hnext'
      simp only [Option.some.injEq, Prod.mk.injEq] at hnext'
      obtain ⟨rfl, rfl, rfl⟩ := hnext'
      obtain ⟨rfl, rfl, rfl⟩ := ih hrest
      exact ⟨rfl, rfl, rfl⟩

theorem Drains.append (h : Drains d s b os s' r) (h' : Drains d s' (r ++ more) os' s'' r') :
    Drains d s (b ++ more) (os ++ os') s'' r' := by
  induction h with
  | stop _ => exact h'
  | step hnext _ ih =>
    rw [List.append_assoc]
    exact .step (d.stable more hnext) (ih h')

theorem Drains.suffix (h : Drains d s b os s' r) : r <:+ b := by
  induction h with
  | stop _ => exact List.suffix_rfl
  | step hnext _ ih => exact ih.trans (d.suffix hnext)

theorem Drains.prune (more : List α) (h : Drains d s (b ++ more) os s' (r ++ more))
    (hnone : d.next s' r = none) : Drains d s b os s' r := by
  generalize hb : b ++ more = input at h
  generalize hr : r ++ more = output at h
  induction h generalizing b with
  | stop _ =>
    obtain rfl : b = r := List.append_cancel_right (hb.trans hr.symm)
    exact .stop hnone
  | step hnext hrest ih =>
    obtain ⟨front, hfront⟩ := hrest.suffix
    rw [← hr, ← List.append_assoc] at hfront
    rw [← hb, ← hfront] at hnext
    exact .step (d.causal more hnext) (ih hnone hfront hr)

theorem drains_exists (d : Decoder σ α ω) (s : σ) (b : List α) :
    ∃ os s' r, Drains d s b os s' r := by
  induction hn : b.length using Nat.strongRecOn generalizing s b with
  | ind n ih =>
    cases hnext : d.next s b with
    | none => exact ⟨[], s, b, .stop hnext⟩
    | some p =>
      obtain ⟨s', o, r⟩ := p
      obtain ⟨os, s'', r', hrest⟩ := ih r.length (hn ▸ d.shrinks hnext) s' r rfl
      exact ⟨o ++ os, s'', r', .step hnext hrest⟩

end X11Web.Resumable
