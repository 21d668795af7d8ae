import X11Web.GlobPatterns

namespace X11Web.FontPatterns

open GlobPatterns List

section Model

def starRow (tn : Nat) (prev : List Bool) : List Bool :=
  (List.range tn).foldl (fun cur j => cur.set (j + 1) (prev.getD (j + 1) false || cur.getD j false))
    ((List.replicate (tn + 1) false).set 0 (prev.getD 0 false))

/-- The row of a character that takes the place of one of the text. -/
def charRow (t : List Char) (c : Char) (prev : List Bool) : List Bool :=
  (List.range t.length).foldl
    (fun cur j => if c = '?' ∨ t[j]? = some c then cur.set (j + 1) (prev.getD j false) else cur)
    (List.replicate (t.length + 1) false)

def nextRow (t : List Char) (prev : List Bool) (c : Char) : List Bool :=
  if c = '*' then starRow t.length prev else charRow t c prev

def globMatch (pattern text : String) : Bool :=
  let p := pattern.toList
  let t := text.toList
  let prev := (List.replicate (t.length + 1) false).set 0 true
  (p.foldl (nextRow t) prev).getD t.length false

end Model

variable {pattern text : List Char} {row prev : List Bool} {c : Char} {n : Nat}

/-- The entries of a row up to one of them say which beginnings of the text the pattern
matches, and those after it are not set yet. -/
def Filled (pattern text : List Char) (n : Nat) (row : List Bool) : Prop :=
  row.length = text.length + 1 ∧ ∀ k ≤ text.length,
    row.getD k false = true ↔ k ≤ n ∧ Splits pattern (text.take k)

theorem getD_set {k : Nat} {b : Bool} (hn : n < row.length) :
    (row.set n b).getD k false = if n = k then b else row.getD k false := by
  rw [getD_eq_getElem?_getD, getD_eq_getElem?_getD, List.getElem?_set, if_pos hn]
  split
  · rfl
  · rfl

theorem getD_replicate (m k : Nat) : (List.replicate m false).getD k false = false := by
  rw [getD_eq_getElem?_getD, List.getElem?_replicate]
  split
  · rfl
  · rfl

theorem Filled.set {b : Bool} (h : Filled pattern text n row) (hn : n < text.length)
    (hb : b = true ↔ Splits pattern (text.take (n + 1))) : Filled pattern text (n + 1) (row.set (n + 1) b) := by
  obtain ⟨hlen, hrow⟩ := h
  refine ⟨by rw [length_set, hlen], fun k hk => ?_⟩
  rw [getD_set (by omega)]
  by_cases hkn : n + 1 = k
  · subst hkn
    rw [if_pos rfl, hb, and_iff_right (Nat.le_refl _)]
  · rw [if_neg hkn, hrow k hk]
    exact and_congr_left fun _ => by omega

theorem Filled.skip (h : Filled pattern text n row) (hn : ¬Splits pattern (text.take (n + 1))) :
    Filled pattern text (n + 1) row := by
  refine ⟨h.1, fun k hk => (h.2 k hk).trans ?_⟩
  by_cases hkn : k = n + 1
  · subst hkn
    exact iff_of_false (fun h => by omega) fun h => hn h.2
  · exact and_congr_left fun _ => by omega

theorem filled_first {b : Bool} (hb : b = true ↔ Splits pattern []) :
    Filled pattern text 0 ((List.replicate (text.length + 1) false).set 0 b) := by
  refine ⟨by rw [length_set, length_replicate], fun k _ => ?_⟩
  rw [getD_set (by rw [length_replicate]; omega), getD_replicate]
  by_cases hk : 0 = k
  · subst hk
    rw [if_pos rfl, hb, and_iff_right (Nat.le_refl _), take_zero]
  · rw [if_neg hk]
    exact iff_of_false Bool.false_ne_true fun h => by omega

theorem starRow_filled (h : Filled pattern text text.length prev) :
    Filled (pattern ++ ['*']) text text.length (starRow text.length prev) := by
  have hloop (n : Nat) (hn : n ≤ text.length) : Filled (pattern ++ ['*']) text n
      ((List.range n).foldl (fun cur j => cur.set (j + 1) (prev.getD (j + 1) false || cur.getD j false))
        ((List.replicate (text.length + 1) false).set 0 (prev.getD 0 false))) := by
    induction n with
    | zero =>
      refine filled_first ?_
      rw [h.2 0 (Nat.zero_le _), and_iff_right (Nat.zero_le _), ← splits_star_take_zero, take_zero]
    | succ n ih =>
      have hprev := ih (by omega)
      rw [range_succ, foldl_append]
      refine hprev.set (by omega) ?_
      rw [splits_star_take_succ (by omega), Bool.or_eq_true, h.2 (n + 1) hn, hprev.2 n (by omega),
        and_iff_right hn, and_iff_right (Nat.le_refl n)]
  exact hloop text.length (Nat.le_refl _)

theorem charRow_filled (hc : c ≠ '*') (h : Filled pattern text text.length prev) :
    Filled (pattern ++ [c]) text text.length (charRow text c prev) := by
  have hloop (n : Nat) (hn : n ≤ text.length) : Filled (pattern ++ [c]) text n
      ((List.range n).foldl
        (fun cur j => if c = '?' ∨ text[j]? = some c then cur.set (j + 1) (prev.getD j false) else cur)
        (List.replicate (text.length + 1) false)) := by
    induction n with
    | zero =>
      have hfst : (List.replicate (text.length + 1) false).set 0 false = List.replicate (text.length + 1) false := by
        rw [replicate_succ, set_cons_zero]
      rw [range_zero, foldl_nil, ← hfst]
      exact filled_first (iff_of_false Bool.false_ne_true (not_splits_char_nil hc))
    | succ n ih =>
      have hcur := ih (by omega)
      have hlt : n < text.length := hn
      have htext : (text[n]? = some c) ↔ c = text[n] := by
        rw [List.getElem?_eq_getElem hlt, Option.some_inj]
        exact eq_comm
      rw [range_succ, foldl_append, foldl_cons, foldl_nil]
      by_cases hfits : c = '?' ∨ text[n]? = some c
      · rw [if_pos hfits]
        refine hcur.set hlt ?_
        rw [splits_char_take_succ hc hlt, ← htext, and_iff_right hfits, h.2 n (Nat.le_of_lt hlt),
          and_iff_right (Nat.le_of_lt hlt)]
      · rw [if_neg hfits]
        refine hcur.skip fun hspls => hfits ?_
        rw [htext]
        exact ((splits_char_take_succ hc hlt).mp hspls).1
  exact hloop text.length (Nat.le_refl _)

theorem nextRow_filled (h : Filled pattern text text.length prev) :
    Filled (pattern ++ [c]) text text.length (nextRow text prev c) := by
  rw [nextRow]
  by_cases hc : c = '*'
  · rw [if_pos hc, hc]
    exact starRow_filled h
  · rw [if_neg hc]
    exact charRow_filled hc h

theorem foldl_filled (after : List Char) (h : Filled pattern text text.length prev) :
    Filled (pattern ++ after) text text.length (after.foldl (nextRow text) prev) := by
  induction after generalizing pattern prev with
  | nil => rwa [append_nil]
  | cons c after ih =>
    rw [append_cons]
    exact ih (nextRow_filled h)

theorem globMatch_iff_splits (pattern text : String) :
    globMatch pattern text = true ↔ Splits pattern.toList text.toList := by
  have hfst : Filled [] text.toList text.toList.length
      ((List.replicate (text.toList.length + 1) false).set 0 true) := by
    have hemp : Filled [] text.toList 0 ((List.replicate (text.toList.length + 1) false).set 0 true) :=
      filled_first (iff_of_true rfl (splits_nil.mpr rfl))
    refine ⟨hemp.1, fun k hk => (hemp.2 k hk).trans ?_⟩
    rw [splits_nil, take_eq_nil_iff, and_iff_right hk]
    constructor
    · exact fun h => h.2
    · rintro (hk | htext)
      · exact ⟨by omega, .inl hk⟩
      · rw [htext, length_nil] at hk
        exact ⟨hk, .inr htext⟩
  have hlast := (foldl_filled pattern.toList hfst).2 text.toList.length (Nat.le_refl _)
  rw [nil_append, take_length, and_iff_right (Nat.le_refl _)] at hlast
  exact hlast

example : globMatch "-*-fixed-*-r-?" "-misc-fixed-medium-r-n" = true := by decide

end X11Web.FontPatterns
