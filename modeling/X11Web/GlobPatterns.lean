import Mathlib.Data.List.Forall2

namespace X11Web.GlobPatterns

open List

def Stands (c : Char) (part : List Char) : Prop :=
  if c = '*' then True else if c = '?' then part.length = 1 else part = [c]

/-- The text falls into one part for each character of the pattern. -/
def Splits (pattern text : List Char) : Prop :=
  ∃ parts : List (List Char), List.Forall₂ Stands pattern parts ∧ parts.flatten = text

variable {pattern text : List Char} {c : Char} {k : Nat}

theorem splits_nil : Splits [] text ↔ text = [] := by
  constructor
  · rintro ⟨parts, hpts, rfl⟩
    rw [forall₂_nil_left_iff.mp hpts]
    rfl
  · rintro rfl
    exact ⟨[], .nil, rfl⟩

theorem splits_cons :
    Splits (c :: pattern) text ↔ ∃ part rest, Stands c part ∧ Splits pattern rest ∧ part ++ rest = text := by
  constructor
  · rintro ⟨parts, hpts, rfl⟩
    obtain ⟨part, parts', hpart, hpts', rfl⟩ := forall₂_cons_left_iff.mp hpts
    exact ⟨part, parts'.flatten, hpart, ⟨parts', hpts', rfl⟩, rfl⟩
  · rintro ⟨part, rest, hpart, ⟨parts, hpts, rfl⟩, rfl⟩
    exact ⟨part :: parts, .cons hpart hpts, rfl⟩

theorem splits_concat :
    Splits (pattern ++ [c]) text ↔ ∃ before part, Splits pattern before ∧ Stands c part ∧ before ++ part = text := by
  induction pattern generalizing text with
  | nil =>
    rw [nil_append, splits_cons]
    constructor
    · rintro ⟨part, rest, hpart, hrest, rfl⟩
      rw [splits_nil.mp hrest, append_nil]
      exact ⟨[], part, splits_nil.mpr rfl, hpart, rfl⟩
    · rintro ⟨before, part, hbef, hpart, rfl⟩
      rw [splits_nil.mp hbef]
      exact ⟨part, [], hpart, splits_nil.mpr rfl, append_nil part⟩
  | cons d pattern ih =>
    rw [cons_append, splits_cons]
    constructor
    · rintro ⟨first, rest, hfst, hrest, rfl⟩
      obtain ⟨before, part, hbef, hpart, rfl⟩ := ih.mp hrest
      exact ⟨first ++ before, part, splits_cons.mpr ⟨first, before, hfst, hbef, rfl⟩, hpart,
        append_assoc first before part⟩
    · rintro ⟨before, part, hbef, hpart, rfl⟩
      obtain ⟨first, rest, hfst, hrest, rfl⟩ := splits_cons.mp hbef
      exact ⟨first, rest ++ part, hfst, ih.mpr ⟨rest, part, hrest, hpart, rfl⟩,
        (append_assoc first rest part).symm⟩

theorem splits_star : Splits (pattern ++ ['*']) text ↔ ∃ j ≤ text.length, Splits pattern (text.take j) := by
  rw [splits_concat]
  constructor
  · rintro ⟨before, part, hbef, -, rfl⟩
    refine ⟨before.length, by rw [length_append]; omega, ?_⟩
    rwa [take_left]
  · rintro ⟨j, -, hbef⟩
    exact ⟨text.take j, text.drop j, hbef, trivial, take_append_drop j text⟩

theorem splits_star_take_zero : Splits (pattern ++ ['*']) (text.take 0) ↔ Splits pattern (text.take 0) := by
  rw [splits_star]
  constructor
  · rintro ⟨j, -, hbef⟩
    rwa [take_zero, take_nil, ← take_zero (l := text)] at hbef
  · exact fun h => ⟨0, Nat.zero_le _, h⟩

theorem splits_star_take_succ (hk : k < text.length) : Splits (pattern ++ ['*']) (text.take (k + 1)) ↔
    Splits pattern (text.take (k + 1)) ∨ Splits (pattern ++ ['*']) (text.take k) := by
  rw [splits_star, splits_star]
  simp only [length_take, take_take]
  constructor
  · rintro ⟨j, hj, hbef⟩
    by_cases hlast : j = k + 1
    · rw [hlast, Nat.min_self] at hbef
      exact .inl hbef
    · rw [Nat.min_eq_left (by omega)] at hbef
      exact .inr ⟨j, by omega, by rwa [Nat.min_eq_left (by omega)]⟩
  · rintro (hall | ⟨j, hj, hbef⟩)
    · exact ⟨k + 1, by omega, by rwa [Nat.min_self]⟩
    · rw [Nat.min_eq_left (by omega)] at hbef
      exact ⟨j, by omega, by rwa [Nat.min_eq_left (by omega)]⟩

theorem stands_iff (hc : c ≠ '*') {part : List Char} : Stands c part ↔ ∃ d, part = [d] ∧ (c = '?' ∨ c = d) := by
  rw [Stands, if_neg hc]
  by_cases hany : c = '?'
  · rw [if_pos hany, length_eq_one_iff]
    exact exists_congr fun d => (and_iff_left (.inl hany)).symm
  · rw [if_neg hany]
    constructor
    · exact fun h => ⟨c, h, .inr rfl⟩
    · rintro ⟨d, rfl, hd | rfl⟩
      · exact absurd hd hany
      · rfl

theorem splits_char_take_succ (hc : c ≠ '*') (hk : k < text.length) :
    Splits (pattern ++ [c]) (text.take (k + 1)) ↔ (c = '?' ∨ c = text[k]) ∧ Splits pattern (text.take k) := by
  rw [splits_concat, take_succ_eq_append_getElem hk]
  constructor
  · rintro ⟨before, part, hbef, hpart, heq⟩
    obtain ⟨d, rfl, hd⟩ := (stands_iff hc).mp hpart
    obtain ⟨rfl, hd'⟩ := append_inj' heq rfl
    obtain rfl := singleton_inj.mp hd'
    exact ⟨hd, hbef⟩
  · rintro ⟨hd, hbef⟩
    exact ⟨text.take k, [text[k]], hbef, (stands_iff hc).mpr ⟨text[k], rfl, hd⟩, rfl⟩

theorem not_splits_char_nil (hc : c ≠ '*') : ¬Splits (pattern ++ [c]) [] := by
  rw [splits_concat]
  rintro ⟨before, part, -, hpart, heq⟩
  obtain ⟨d, rfl, -⟩ := (stands_iff hc).mp hpart
  exact cons_ne_nil d [] (append_eq_nil_iff.mp heq).2

end X11Web.GlobPatterns
