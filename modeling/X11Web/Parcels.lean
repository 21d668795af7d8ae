import Mathlib.Logic.Function.Iterate
import Mathlib.Data.List.Basic

namespace X11Web.Parcels

open List Function

variable {α : Type} {m : Nat}

/-- What is left to hand out, and in pieces of which size. -/
structure Parcel (α : Type) where
  rest : List α
  size : Nat

/-- The piece that lies ready to be taken, and what waits behind it. -/
structure Hatch (α : Type) where
  out : Option (List α)
  queue : List (Parcel α)

/-- The piece is taken and the next one put in its place, an empty one where a parcel is
at its end. -/
def Hatch.take (h : Hatch α) : Hatch α :=
  match h.queue with
  | [] => ⟨none, []⟩
  | p :: q =>
    if p.rest.isEmpty then ⟨some [], q⟩
    else ⟨some (p.rest.take p.size), ⟨p.rest.drop p.size, p.size⟩ :: q⟩

/-- The pieces and then an empty one come to lie ready, one after each taking, and with the
empty one nothing waits any more. -/
structure Serves (pieces : List (List α)) (h : Hatch α) : Prop where
  out : ∀ i x, (pieces ++ [[]])[i]? = some x → (Hatch.take^[i + 1] h).out = some x
  queue : ∀ n, pieces.length < n → (Hatch.take^[n] h).queue = []

/-- A list cut into pieces, none of them empty and none longer than `m`. -/
structure Cut (m : Nat) (data : List α) (pieces : List (List α)) : Prop where
  whole : pieces.flatten = data
  piece : ∀ x ∈ pieces, x ≠ [] ∧ x.length ≤ m

variable (out : Option (List α))

theorem take_nil : Hatch.take ⟨out, []⟩ = ⟨none, []⟩ := rfl

theorem take_end (size : Nat) (q : List (Parcel α)) : Hatch.take ⟨out, ⟨[], size⟩ :: q⟩ = ⟨some [], q⟩ := rfl

theorem take_more {rest : List α} (h : rest ≠ []) (out : Option (List α)) (size : Nat) (q : List (Parcel α)) :
    Hatch.take ⟨out, ⟨rest, size⟩ :: q⟩ = ⟨some (rest.take size), ⟨rest.drop size, size⟩ :: q⟩ := by
  have hemp : ¬ rest.isEmpty = true := by rwa [List.isEmpty_iff]
  exact if_neg hemp

theorem iterate_take_nil (n : Nat) : (Hatch.take^[n] ⟨out, []⟩).queue = [] := by
  induction n generalizing out with
  | zero => rfl
  | succ n ih =>
    rw [iterate_succ_apply, take_nil]
    exact ih none

theorem serves_nil_iff {h : Hatch α} : Serves [] h ↔ h.take = ⟨some [], []⟩ := by
  constructor
  · rintro ⟨hout, hq⟩
    have hout' := hout 0 [] rfl
    have hq' := hq 1 Nat.zero_lt_one
    rw [iterate_one] at hout' hq'
    rw [← hout', ← hq']
  · intro h'
    refine ⟨fun i x hx => ?_, fun n hn => ?_⟩
    · cases i with
      | zero =>
        cases hx
        rw [iterate_one, h']
      | succ i => cases hx
    · cases n with
      | zero => cases hn
      | succ n =>
        rw [iterate_succ_apply, h']
        exact iterate_take_nil _ n

theorem serves_cons_iff {c : List α} {pieces : List (List α)} {h : Hatch α} :
    Serves (c :: pieces) h ↔ h.take.out = some c ∧ Serves pieces h.take := by
  constructor
  · rintro ⟨hout, hq⟩
    refine ⟨hout 0 c rfl, fun i x hx => ?_, fun n hn => ?_⟩
    · have hnext := hout (i + 1) x hx
      rwa [iterate_succ_apply] at hnext
    · have hnext := hq (n + 1) (Nat.succ_lt_succ hn)
      rwa [iterate_succ_apply] at hnext
  · rintro ⟨hfst, hout, hq⟩
    refine ⟨fun i x hx => ?_, fun n hn => ?_⟩
    · cases i with
      | zero =>
        cases hx
        exact hfst
      | succ i =>
        rw [iterate_succ_apply]
        exact hout i x hx
    · cases n with
      | zero => cases hn
      | succ n =>
        rw [iterate_succ_apply]
        exact hq n (Nat.lt_of_succ_lt_succ hn)

theorem exists_serves {size : Nat} (hsize : 0 < size) (hle : size ≤ m) (rest : List α) (out : Option (List α)) :
    ∃ pieces, Cut m rest pieces ∧ Serves pieces ⟨out, [⟨rest, size⟩]⟩ := by
  induction hn : rest.length using Nat.strongRecOn generalizing rest out with
  | ind n ih =>
    cases rest with
    | nil => exact ⟨[], ⟨rfl, by simp⟩, serves_nil_iff.mpr (take_end out size [])⟩
    | cons a rest =>
      have hmore := take_more (cons_ne_nil a rest) out size []
      have hshorter : ((a :: rest).drop size).length < n := by
        rw [length_drop]
        have hpos : 0 < (a :: rest).length := Nat.zero_lt_succ _
        omega
      obtain ⟨pieces, hcut, hsrvs⟩ := ih _ hshorter ((a :: rest).drop size) (some ((a :: rest).take size)) rfl
      refine ⟨(a :: rest).take size :: pieces, ⟨?_, fun x hx => ?_⟩, serves_cons_iff.mpr ⟨?_, ?_⟩⟩
      · rw [flatten_cons, hcut.whole, take_append_drop]
      · rcases mem_cons.mp hx with rfl | hx
        · refine ⟨?_, Nat.le_trans (length_take_le _ _) hle⟩
          rw [Ne, take_eq_nil_iff]
          exact not_or.mpr ⟨Nat.ne_of_gt hsize, cons_ne_nil a rest⟩
        · exact hcut.piece x hx
      · rw [hmore]
      · rw [hmore]
        exact hsrvs

theorem Serves.parcel {pieces : List (List α)} {h : Hatch α} (hs : Serves pieces h)
    (hne : ∀ x ∈ pieces, x ≠ []) :
    ∃ size, h.queue = [⟨pieces.flatten, size⟩] ∧ ∀ c ∈ pieces.head?, 0 < size ∧ c = pieces.flatten.take size := by
  induction pieces generalizing h with
  | nil =>
    have htake := serves_nil_iff.mp hs
    obtain ⟨out, queue⟩ := h
    cases queue with
    | nil => cases htake
    | cons p q =>
      obtain ⟨rest, size⟩ := p
      cases rest with
      | nil =>
        cases htake
        exact ⟨size, rfl, nofun⟩
      | cons a rest =>
        rw [take_more (cons_ne_nil a rest)] at htake
        exact absurd (congrArg Hatch.queue htake) (cons_ne_nil _ _)
  | cons c pieces ih =>
    obtain ⟨hfst, hrest⟩ := serves_cons_iff.mp hs
    obtain ⟨size', hq, -⟩ := ih hrest fun x hx => hne x (mem_cons_of_mem c hx)
    have hc := hne c mem_cons_self
    obtain ⟨out, queue⟩ := h
    cases queue with
    | nil => cases hfst
    | cons p q =>
      obtain ⟨rest, size⟩ := p
      cases rest with
      | nil =>
        rw [take_end] at hfst
        exact absurd (Option.some.inj hfst).symm hc
      | cons a rest =>
        rw [take_more (cons_ne_nil a rest)] at hfst hq
        obtain rfl := Option.some.inj hfst
        simp only [List.cons.injEq, Parcel.mk.injEq] at hq
        obtain ⟨⟨hdrop, rfl⟩, rfl⟩ := hq
        have hall : (a :: rest) = (((a :: rest).take size) :: pieces).flatten := by
          rw [flatten_cons, ← hdrop, take_append_drop]
        refine ⟨size, by rw [← hall], fun d hd => ?_⟩
        cases hd
        rw [← hall]
        refine ⟨Nat.pos_of_ne_zero fun hzero => hc ?_, rfl⟩
        rw [hzero, take_zero]

theorem serves_iff {data : List α} (hlong : m < data.length) (h : Hatch α) :
    (∃ pieces, Cut m data pieces ∧ Serves pieces h) ↔ ∃ size, h.queue = [⟨data, size⟩] ∧ 0 < size ∧ size ≤ m := by
  constructor
  · rintro ⟨pieces, ⟨rfl, hpiece⟩, hsrvs⟩
    obtain ⟨size, hq, hfst⟩ := hsrvs.parcel fun x hx => (hpiece x hx).1
    cases pieces with
    | nil => cases hlong
    | cons c pieces =>
      obtain ⟨hpos, hc⟩ := hfst c rfl
      refine ⟨size, hq, hpos, ?_⟩
      have hlen := (hpiece c mem_cons_self).2
      rw [hc, length_take] at hlen
      omega
  · rintro ⟨size, hq, hpos, hle⟩
    obtain ⟨pieces, hcut, hsrvs⟩ := exists_serves hpos hle data h.out
    rw [← hq] at hsrvs
    exact ⟨pieces, hcut, hsrvs⟩

end X11Web.Parcels
