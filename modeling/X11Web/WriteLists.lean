import X11Web.LastWrites
import X11Web.Overwrites

namespace X11Web.WriteLists

open LastWrites Overwrites List

variable {α ι : Type} {a b : List α} {ws : List (Nat × List α)} {S : Set Nat}

def applyWrites (b : List α) (ws : List (Nat × List α)) : List α :=
  ws.foldl (fun b w => overwrite b w.1 w.2) b

def partAt (i : Nat) (w : Nat × List α) : Option α := if w.1 ≤ i then w.2[i - w.1]? else none

def written (ws : List (Nat × List α)) (i : Nat) : Option α := lastWrite (partAt i) ws

def Fits (n : Nat) (ws : List (Nat × List α)) : Prop := ∀ w ∈ ws, w.1 + w.2.length ≤ n

theorem getElem?_overwrite_partAt {w : Nat × List α} (h : w.1 + w.2.length ≤ b.length) (i : Nat) :
    (overwrite b w.1 w.2)[i]? = (partAt i w).or b[i]? := by
  rw [getElem?_overwrite h, partAt]
  by_cases hlow : w.1 ≤ i
  · rw [if_pos hlow]
    by_cases hhigh : i - w.1 < w.2.length
    · rw [if_pos ⟨hlow, by omega⟩, List.getElem?_eq_getElem hhigh]
      rfl
    · rw [if_neg (by omega), List.getElem?_eq_none (Nat.le_of_not_lt hhigh)]
      rfl
  · rw [if_neg hlow, if_neg (by omega)]
    rfl

theorem length_applyWrites (h : Fits b.length ws) : (applyWrites b ws).length = b.length := by
  induction ws generalizing b with
  | nil => rfl
  | cons w ws ih =>
    have hlength := length_overwrite (h w mem_cons_self)
    have hrest : Fits (overwrite b w.1 w.2).length ws := fun v hv => by
      rw [hlength]
      exact h v (mem_cons_of_mem w hv)
    exact (ih hrest).trans hlength

theorem getElem?_applyWrites (h : Fits b.length ws) (i : Nat) :
    (applyWrites b ws)[i]? = (written ws i).or b[i]? := by
  induction ws generalizing b with
  | nil => rfl
  | cons w ws ih =>
    have hw := h w mem_cons_self
    have hrest : Fits (overwrite b w.1 w.2).length ws := fun v hv => by
      rw [length_overwrite hw]
      exact h v (mem_cons_of_mem w hv)
    have hspl : written (w :: ws) i = (written ws i).or (partAt i w) := by
      rw [written, ← singleton_append, lastWrite_append, lastWrite_singleton]
      rfl
    rw [hspl, Option.or_assoc, ← getElem?_overwrite_partAt hw]
    exact ih hrest

theorem changes_inside_iff (h : Fits b.length ws) :
    (∀ i, (applyWrites b ws)[i]? ≠ b[i]? → i ∈ S) ↔ ∀ i ∉ S, ∀ v ∈ written ws i, b[i]? = some v := by
  refine forall_congr' fun i => ?_
  rw [getElem?_applyWrites h, ← not_imp_not, not_not]
  refine imp_congr_right fun _ => ?_
  cases written ws i with
  | none => exact iff_of_true rfl fun v hv => nomatch hv
  | some v =>
    constructor
    · rintro hsame u hu
      rw [← Option.mem_some_iff.mp hu]
      exact hsame.symm
    · intro hput
      exact (hput v rfl).symm

theorem foldl_eq_applyWrites_of_length {step : List α → ι → Option (Nat × List α)} {xs : List ι}
    (hlocal : ∀ b : List α, b.length = a.length → ∀ x ∈ xs, step b x = step a x)
    (hfits : ∀ x ∈ xs, ∀ w ∈ step a x, w.1 + w.2.length ≤ a.length) :
    xs.foldl (fun b x => (step b x).elim b (fun w => overwrite b w.1 w.2)) a =
      applyWrites a (xs.filterMap (step a)) := by
  induction xs generalizing a with
  | nil => rfl
  | cons x xs ih =>
    have hin : ∀ y ∈ xs, y ∈ x :: xs := fun y hy => mem_cons_of_mem x hy
    cases hstep : step a x with
    | none =>
      rw [foldl_cons, hstep, filterMap_cons_none hstep]
      exact ih (fun b hb y hy => hlocal b hb y (hin y hy)) (fun y hy => hfits y (hin y hy))
    | some w =>
      have hlength := length_overwrite (hfits x mem_cons_self w hstep)
      have hsame : ∀ y ∈ xs, step (overwrite a w.1 w.2) y = step a y := fun y hy =>
        hlocal _ hlength y (hin y hy)
      rw [foldl_cons, hstep, filterMap_cons_some hstep]
      have hloop := ih (a := overwrite a w.1 w.2)
        (fun b hb y hy => by rw [hsame y hy, hlocal b (hb.trans hlength) y (hin y hy)])
        (fun y hy v hv => by
          rw [hsame y hy] at hv
          rw [hlength]
          exact hfits y (hin y hy) v hv)
      rw [filterMap_congr hsame] at hloop
      exact hloop

/-- A loop whose rounds read and write slots of their own writes what they would write
into the data at its start. -/
theorem foldl_eq_applyWrites (len : Nat) (slot : ι → Option Nat) {step : List α → ι → Option (Nat × List α)}
    {xs : List ι} (hnd : xs.Nodup)
    (hslot : ∀ b : List α, b.length = a.length → ∀ x ∈ xs, ∀ w ∈ step b x,
      slot x = some w.1 ∧ w.2.length = len ∧ w.1 + len ≤ a.length)
    (hlocal : ∀ b : List α, b.length = a.length → ∀ x ∈ xs,
      (∀ off ∈ slot x, ∀ i ∈ Set.Ico off (off + len), b[i]? = a[i]?) → step b x = step a x)
    (hapart : ∀ x ∈ xs, ∀ y ∈ xs, x ≠ y → ∀ off ∈ slot x, ∀ off' ∈ slot y,
      off + len ≤ off' ∨ off' + len ≤ off) :
    xs.foldl (fun b x => (step b x).elim b (fun w => overwrite b w.1 w.2)) a =
      applyWrites a (xs.filterMap (step a)) := by
  induction xs generalizing a with
  | nil => rfl
  | cons x xs ih =>
    obtain ⟨hx, hnd⟩ := nodup_cons.mp hnd
    have hin : ∀ y ∈ xs, y ∈ x :: xs := fun y hy => mem_cons_of_mem x hy
    cases hstep : step a x with
    | none =>
      rw [foldl_cons, hstep, filterMap_cons_none hstep]
      exact ih hnd (fun b hb y hy => hslot b hb y (hin y hy)) (fun b hb y hy => hlocal b hb y (hin y hy))
        (fun y hy z hz => hapart y (hin y hy) z (hin z hz))
    | some w =>
      obtain ⟨hoff, hlen, hfit⟩ := hslot a rfl x mem_cons_self w hstep
      have hlength : (overwrite a w.1 w.2).length = a.length := length_overwrite (by omega)
      -- the round of `x` leaves the slots of the other rounds
      have hoth : ∀ y ∈ xs, ∀ off ∈ slot y, ∀ i ∈ Set.Ico off (off + len),
          (overwrite a w.1 w.2)[i]? = a[i]? := by
        rintro y hy off hy' i ⟨hlow, hhigh⟩
        have hne : x ≠ y := fun heq => hx (heq ▸ hy)
        have hdisj := hapart x mem_cons_self y (hin y hy) hne w.1 hoff off hy'
        rw [getElem?_overwrite (by omega), if_neg (by omega)]
      have hsame : ∀ y ∈ xs, step (overwrite a w.1 w.2) y = step a y := fun y hy =>
        hlocal _ hlength y (hin y hy) (hoth y hy)
      rw [foldl_cons, hstep, filterMap_cons_some hstep]
      have hloop := ih (a := overwrite a w.1 w.2) hnd
        (fun b hb y hy v hv => by
          rw [hlength]
          exact hslot b (hb.trans hlength) y (hin y hy) v hv)
        (fun b hb y hy hslice => by
          rw [hsame y hy]
          refine hlocal b (hb.trans hlength) y (hin y hy) fun off hoff i hi => ?_
          rw [hslice off hoff i hi, hoth y hy off hoff i hi])
        (fun y hy z hz => hapart y (hin y hy) z (hin z hz))
      rw [filterMap_congr hsame] at hloop
      exact hloop

end X11Web.WriteLists
