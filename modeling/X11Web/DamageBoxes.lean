import X11Web.WaylandPixels

namespace X11Web.WaylandPixels

def Rect.Contains (r : Rect) (x y : Int) : Prop := (r.x ≤ x ∧ x < r.x + r.w) ∧ r.y ≤ y ∧ y < r.y + r.h

theorem Rect.isEmpty_eq_false {r : Rect} : r.isEmpty = false ↔ 0 < r.w ∧ 0 < r.h := by
  simp [Rect.isEmpty]

/-- An interval of coordinates. The corners of what lies inside, and the distances between them, are all
numbers of an `i32`. -/
structure Span where
  lo : Int
  hi : Int
  lower : -2 ^ 31 ≤ lo
  upper : hi < 2 ^ 31
  narrow : hi - lo < 2 ^ 31

/-- The coordinates of a buffer, counted from its corner. -/
def Span.nonneg : Span := ⟨0, 2 ^ 31 - 1, by decide, by decide, by decide⟩

/-- A rectangle of at least one pixel, inside the span in both directions. -/
structure Span.Around (p : Span) (r : Rect) : Prop where
  wide : 0 < r.w
  high : 0 < r.h
  left : p.lo ≤ r.x
  top : p.lo ≤ r.y
  right : r.x + r.w ≤ p.hi
  bottom : r.y + r.h ≤ p.hi

instance (p : Span) (r : Rect) : Decidable (p.Around r) :=
  decidable_of_iff (0 < r.w ∧ 0 < r.h ∧ p.lo ≤ r.x ∧ p.lo ≤ r.y ∧ r.x + r.w ≤ p.hi ∧ r.y + r.h ≤ p.hi)
    ⟨fun ⟨hw, hh, hl, ht, hr, hb⟩ => ⟨hw, hh, hl, ht, hr, hb⟩, fun ⟨hw, hh, hl, ht, hr, hb⟩ => ⟨hw, hh, hl, ht, hr, hb⟩⟩

namespace Span.Around

variable {p : Span} {r r' : Rect} {x y : Int}

theorem left_eq (h : p.Around r) : i32 r.x = r.x := by
  have hlower := p.lower
  have hupper := p.upper
  have hwide := h.wide
  have hleft := h.left
  have hright := h.right
  exact i32_eq_self (by omega) (by omega)

theorem top_eq (h : p.Around r) : i32 r.y = r.y := by
  have hlower := p.lower
  have hupper := p.upper
  have hhigh := h.high
  have htop := h.top
  have hbot := h.bottom
  exact i32_eq_self (by omega) (by omega)

theorem right_eq (h : p.Around r) : i32 (r.x + r.w) = r.x + r.w := by
  have hlower := p.lower
  have hupper := p.upper
  have hwide := h.wide
  have hleft := h.left
  have hright := h.right
  exact i32_eq_self (by omega) (by omega)

theorem bottom_eq (h : p.Around r) : i32 (r.y + r.h) = r.y + r.h := by
  have hlower := p.lower
  have hupper := p.upper
  have hhigh := h.high
  have htop := h.top
  have hbot := h.bottom
  exact i32_eq_self (by omega) (by omega)

theorem not_isEmpty (h : p.Around r) : r.isEmpty = false := Rect.isEmpty_eq_false.mpr ⟨h.wide, h.high⟩

theorem union_eq (h : p.Around r) (h' : p.Around r') :
    r.union r' = ⟨min r.x r'.x, min r.y r'.y, max (r.x + r.w) (r'.x + r'.w) - min r.x r'.x,
      max (r.y + r.h) (r'.y + r'.h) - min r.y r'.y⟩ := by
  rw [Rect.union, h.not_isEmpty, h'.not_isEmpty, h.right_eq, h.bottom_eq, h'.right_eq, h'.bottom_eq]
  have hnarrow := p.narrow
  obtain ⟨hw, hh, hl, ht, hr, hb⟩ := h
  obtain ⟨hw', hh', hl', ht', hr', hb'⟩ := h'
  simp only [Bool.false_eq_true, if_false]
  rw [i32_eq_self (by omega) (by omega), i32_eq_self (by omega) (by omega)]

theorem union (h : p.Around r) (h' : p.Around r') : p.Around (r.union r') := by
  rw [h.union_eq h']
  obtain ⟨hw, hh, hl, ht, hr, hb⟩ := h
  obtain ⟨hw', hh', hl', ht', hr', hb'⟩ := h'
  constructor <;> dsimp only <;> omega

theorem union_contains (h : p.Around r) (h' : p.Around r') (hhas : r.Contains x y ∨ r'.Contains x y) :
    (r.union r').Contains x y := by
  rw [h.union_eq h']
  unfold Rect.Contains at hhas ⊢
  dsimp only
  omega

theorem clip_contains (h : p.Around r) {w h' : Int} (hhas : r.Contains x y) (hx : 0 ≤ x ∧ x < w)
    (hy : 0 ≤ y ∧ y < h') : ∃ r', r.clip w h' = some r' ∧ r'.Contains x y := by
  unfold Rect.Contains at hhas
  have hsize : ¬(min (r.x + r.w) w ≤ max r.x 0 ∨ min (r.y + r.h) h' ≤ max r.y 0) := by omega
  refine ⟨_, by rw [Rect.clip, h.right_eq, h.bottom_eq, if_neg hsize], ?_⟩
  unfold Rect.Contains
  dsimp only
  omega

theorem contains_of_clip (h : p.Around r) {w h' : Int} {r' : Rect} (hclip : r.clip w h' = some r')
    (hhas : r'.Contains x y) : r.Contains x y := by
  rw [Rect.clip, h.right_eq, h.bottom_eq] at hclip
  split at hclip
  · cases hclip
  · obtain rfl : _ = r' := Option.some.inj hclip
    unfold Rect.Contains at hhas ⊢
    dsimp only at hhas
    omega

end Span.Around

namespace DamageAccumulator

variable {p : Span} {d : DamageAccumulator} {r : Rect} {x y w h : Int}

def Fits (p : Span) (d : DamageAccumulator) : Prop := ∀ b, d.bbox = some b → p.Around b

def Covers (d : DamageAccumulator) (x y : Int) : Prop := d.full = true ∨ ∃ b, d.bbox = some b ∧ b.Contains x y

theorem fits_new : new.Fits p := by simp [Fits, new]

theorem Covers.markFull : d.markFull.Covers x y := .inl rfl

theorem fits_markFull (hd : d.Fits p) : d.markFull.Fits p := hd

theorem add_eq (hr : r.isEmpty = false) :
    d.add r = { d with bbox := some (match d.bbox with | some b => b.union r | none => r) } := by
  rw [add, hr]
  rfl

theorem Fits.add (hd : d.Fits p) (hr : r.isEmpty = true ∨ p.Around r) : (d.add r).Fits p := by
  obtain hr | hr := hr
  · rwa [DamageAccumulator.add, if_pos hr]
  · rw [add_eq hr.not_isEmpty]
    rintro b ⟨⟩
    cases hb : d.bbox with
    | none => exact hr
    | some b => exact (hd b hb).union hr

theorem Covers.add (hd : d.Fits p) (hr : r.isEmpty = true ∨ p.Around r) (hc : d.Covers x y ∨ r.Contains x y) :
    (d.add r).Covers x y := by
  obtain hemp | hr := hr
  · rw [DamageAccumulator.add, if_pos hemp]
    refine hc.resolve_right fun hhas => ?_
    rw [Rect.isEmpty, Bool.or_eq_true, decide_eq_true_eq, decide_eq_true_eq] at hemp
    unfold Rect.Contains at hhas
    omega
  · rw [add_eq hr.not_isEmpty]
    cases hb : d.bbox with
    | none =>
      obtain (hfull | ⟨b, hbox, -⟩) | hhas := hc
      · exact .inl hfull
      · exact absurd (hb.symm.trans hbox) (by simp)
      · exact .inr ⟨r, rfl, hhas⟩
    | some b =>
      obtain (hfull | ⟨b', hbox, hhas⟩) | hhas := hc
      · exact .inl hfull
      · obtain rfl : b = b' := Option.some.inj (hb.symm.trans hbox)
        exact .inr ⟨_, rfl, (hd b hb).union_contains hr (.inl hhas)⟩
      · exact .inr ⟨_, rfl, (hd b hb).union_contains hr (.inr hhas)⟩

theorem Covers.foldl_add {rs : List Rect} (hd : d.Fits p) (hrs : ∀ r ∈ rs, r.isEmpty = true ∨ p.Around r)
    (hc : d.Covers x y ∨ ∃ r ∈ rs, r.Contains x y) :
    (rs.foldl DamageAccumulator.add d).Fits p ∧ (rs.foldl DamageAccumulator.add d).Covers x y := by
  induction rs generalizing d with
  | nil =>
    obtain hc | ⟨r, hr, -⟩ := hc
    · exact ⟨hd, hc⟩
    · cases hr
  | cons r rs ih =>
    obtain ⟨hr, hrs⟩ := List.forall_mem_cons.mp hrs
    rw [List.foldl_cons]
    refine ih (hd.add hr) hrs ?_
    obtain hc | ⟨r', hr', hhas⟩ := hc
    · exact .inl (Covers.add hd hr (.inl hc))
    · obtain rfl | hr' := List.mem_cons.mp hr'
      · exact .inl (Covers.add hd hr (.inr hhas))
      · exact .inr ⟨r', hr', hhas⟩

theorem take_of_full (hfull : d.full = true) (hw : 0 < w ∧ w < 2 ^ 31) (hh : 0 < h ∧ h < 2 ^ 31) :
    d.take w h = some ⟨0, 0, w, h⟩ := by
  have hsize : ¬(min w w ≤ max 0 0 ∨ min h h ≤ max 0 0) := by omega
  rw [DamageAccumulator.take, if_pos hfull, Rect.clip]
  dsimp only
  rw [Int.zero_add, Int.zero_add, i32_eq_self (by omega) (by omega), i32_eq_self (by omega) (by omega), if_neg hsize]
  simp

theorem Covers.take (hd : d.Fits p) (hc : d.Covers x y) (hw : w < 2 ^ 31) (hh : h < 2 ^ 31) (hx : 0 ≤ x ∧ x < w)
    (hy : 0 ≤ y ∧ y < h) : ∃ r, d.take w h = some r ∧ r.Contains x y := by
  by_cases hfull : d.full = true
  · refine ⟨_, take_of_full hfull (by omega) (by omega), ?_⟩
    unfold Rect.Contains
    dsimp only
    omega
  · obtain ⟨b, hb, hhas⟩ := hc.resolve_left hfull
    obtain ⟨r, hclip, hr⟩ := (hd b hb).clip_contains hhas hx hy
    refine ⟨r, ?_, hr⟩
    rw [DamageAccumulator.take, if_neg hfull, hb]
    exact hclip

theorem covers_of_take (hd : d.Fits p) (htake : d.take w h = some r) (hhas : r.Contains x y) : d.Covers x y := by
  rw [DamageAccumulator.take] at htake
  split at htake
  · next hfull => exact .inl hfull
  · obtain ⟨b, hb, hclip⟩ := Option.bind_eq_some_iff.mp htake
    exact .inr ⟨b, hb, (hd b hb).contains_of_clip hclip hhas⟩

end DamageAccumulator

end X11Web.WaylandPixels
