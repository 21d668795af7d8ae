import Mathlib.Data.List.Basic

namespace X11Web.Alternation

def Alternates (first : Bool) : List Bool → Prop
  | [] => True
  | b :: bs => b = first ∧ Alternates (!first) bs

instance decidableAlternates : ∀ (first : Bool) (bs : List Bool), Decidable (Alternates first bs)
  | _, [] => inferInstanceAs (Decidable True)
  | first, _ :: bs => @instDecidableAnd _ _ _ (decidableAlternates (!first) bs)

def next (first : Bool) (bs : List Bool) : Bool := (bs.getLast?.map not).getD first

theorem next_concat (first b : Bool) (bs : List Bool) : next first (bs ++ [b]) = !b := by
  simp [next]

theorem alternates_concat {first b : Bool} {bs : List Bool} :
    Alternates first (bs ++ [b]) ↔ Alternates first bs ∧ b = next first bs := by
  induction bs generalizing first with
  | nil => simp [Alternates, next]
  | cons c bs ih =>
    simp only [List.cons_append, Alternates, ih]
    rw [and_assoc]
    refine and_congr_right fun hc => and_congr_right fun _ => ?_
    cases bs with
    | nil => simp [next, hc]
    | cons d bs => simp [next, List.getLast?_cons]

theorem Alternates.of_append {first : Bool} {bs bs' : List Bool} (h : Alternates first (bs ++ bs')) :
    Alternates first bs := by
  induction bs generalizing first with
  | nil => trivial
  | cons b bs ih => exact ⟨h.1, ih h.2⟩

theorem next_eq_false {bs : List Bool} : next true bs = false ↔ bs.getLast? = some true := by
  cases h : bs.getLast? with
  | none => simp [next, h]
  | some b => cases b <;> simp [next, h]

end X11Web.Alternation
