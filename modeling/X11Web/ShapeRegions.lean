import X11Web.BitRuns
import X11Web.CheckedRegions
import X11Web.DrawRequests

namespace X11Web.ShapeRegions

open Boxes CheckedRuns CheckedRegions BitRuns List
open Windows (Bytes)
open Regions hiding between
open DrawRequests (Pixmap)

def intersectRects (a b : List RegionRect) : Checked (List RegionRect) := do
  let result ← XFixesRegion.checkedIntersect ⟨a⟩ ⟨b⟩
  pure result.rects

def subtractRects (a b : List RegionRect) : Checked (List RegionRect) := do
  let result ← XFixesRegion.checkedSubtract ⟨a⟩ ⟨b⟩
  pure result.rects

def computeExtents (rects : List RegionRect) : Checked RegionRect := XFixesRegion.checkedExtents ⟨rects⟩

def shifted (r : RegionRect) (xOffset yOffset : Int16) : Checked RegionRect := do
  let x ← addI16 r.x xOffset
  let y ← addI16 r.y yOffset
  pure ⟨x, y, r.width, r.height⟩

/-- Some byte of a pixel is not zero, and the pixel is there. -/
def isMarked (data : Bytes) (w y x : Nat) : Bool :=
  let off := (y * w + x) * 4
  off + 4 ≤ data.length ∧
    (data.getD (off + 3) 0 ≠ 0 ∨ data.getD (off + 2) 0 ≠ 0 ∨ data.getD (off + 1) 0 ≠ 0 ∨ data.getD off 0 ≠ 0)

def spans (pix : Pixmap) : List (Nat × Nat × Nat) :=
  (List.range pix.height.toNat).flatMap fun y =>
    (runs (isMarked pix.framebuffer.data pix.width.toNat y) pix.width.toNat).map fun run => (y, run)

def spanRect (xOffset yOffset : Int16) (span : Nat × Nat × Nat) : Checked RegionRect := do
  let x ← addI16 (Int16.ofNat span.2.1) xOffset
  let y ← addI16 (Int16.ofNat span.1) yOffset
  pure ⟨x, y, UInt16.ofNat span.2.2, 1⟩

/-- The loop over the sorted rectangles, `a` the one that may still grow. -/
def coalesceOnto (a : RegionRect) : List RegionRect → Checked (List RegionRect)
  | [] => pure [a]
  | b :: rest =>
    if a.x = b.x ∧ a.width = b.width then do
      let bottom ← addI16 a.y a.height.toInt16
      if bottom = b.y then do
        let height ← addU16 a.height b.height
        coalesceOnto { a with height } rest
      else do
        let tail ← coalesceOnto b rest
        pure (a :: tail)
    else do
      let tail ← coalesceOnto b rest
      pure (a :: tail)

def coalesceRects (rects : List RegionRect) : Checked (List RegionRect) :=
  match rects.mergeSort fun a b => a.x < b.x ∨ a.x = b.x ∧ a.y ≤ b.y with
  | [] => pure []
  | a :: rest => coalesceOnto a rest

def extractShapeFromPixmap (pix : Pixmap) (xOffset yOffset : Int16) : Checked (List RegionRect) := do
  let rects ← (spans pix).mapM (spanRect xOffset yOffset)
  coalesceRects rects

def pointsOf (rects : List RegionRect) : Set (Int × Int) := (XFixesRegion.mk rects).points

section Operations

variable {a b rest rects : List RegionRect} {r s bounds : RegionRect}

theorem mem_pointsOf {p : Int × Int} : p ∈ pointsOf rects ↔ ∃ r ∈ rects, p ∈ r.points := .rfl

theorem pointsOf_cons (r : RegionRect) (rects : List RegionRect) :
    pointsOf (r :: rects) = r.points ∪ pointsOf rects := by
  ext p
  simp [mem_pointsOf]

theorem pointsOf_append (a b : List RegionRect) : pointsOf (a ++ b) = pointsOf a ∪ pointsOf b :=
  points_union ⟨a⟩ ⟨b⟩

theorem value_intersectRects (a b : List RegionRect) :
    (intersectRects a b).value = (XFixesRegion.intersect ⟨a⟩ ⟨b⟩).rects :=
  congrArg XFixesRegion.rects (value_intersect ⟨a⟩ ⟨b⟩)

theorem value_subtractRects (a b : List RegionRect) :
    (subtractRects a b).value = (XFixesRegion.subtract ⟨a⟩ ⟨b⟩).rects :=
  congrArg XFixesRegion.rects (value_subtract ⟨a⟩ ⟨b⟩)

theorem noOverflow_intersectRects (ha : ∀ r ∈ a, r.Fits) (hb : ∀ r ∈ b, r.Fits) : NoOverflow (intersectRects a b) :=
  within_bind.mpr ⟨noOverflow_intersect ha hb, within_pure _⟩

theorem noOverflow_subtractRects (ha : ∀ r ∈ a, r.Fits) (hb : ∀ r ∈ b, r.Fits) : NoOverflow (subtractRects a b) :=
  within_bind.mpr ⟨noOverflow_subtract ha hb, within_pure _⟩

theorem pointsOf_intersectRects (ha : ∀ r ∈ a, r.Fits) (hb : ∀ r ∈ b, r.Fits) :
    pointsOf (intersectRects a b).value = pointsOf a ∩ pointsOf b := by
  rw [value_intersectRects]
  exact points_intersect ha hb

theorem pointsOf_subtractRects (ha : ∀ r ∈ a, r.Fits) (hb : ∀ r ∈ b, r.Fits) :
    pointsOf (subtractRects a b).value = pointsOf a \ pointsOf b := by
  rw [value_subtractRects]
  exact points_subtract ha hb

theorem box_stacked (hr : r.Fits) (hy : r.y + r.height.toInt16 = s.y)
    (hht : r.height.toNat + s.height.toNat < 2 ^ 16) :
    r.box.bottom = s.box.top ∧ (RegionRect.mk r.x r.y r.width (r.height + s.height)).box =
      ⟨r.box.left, r.box.top, r.box.right, s.box.bottom⟩ := by
  have hbot : r.box.bottom = s.box.top := by
    rw [← toInt_y2 hr, RegionRect.y2, hy]
    rfl
  refine ⟨hbot, ?_⟩
  simp only [RegionRect.box] at hbot
  simp only [RegionRect.box, UInt16.toNat_add, Nat.mod_eq_of_lt hht]
  congr 1
  omega

theorem points_stacked (hr : r.Fits) (hx : r.x = s.x) (hwd : r.width = s.width) (hy : r.y + r.height.toInt16 = s.y)
    (hht : r.height.toNat + s.height.toNat < 2 ^ 16) :
    (RegionRect.mk r.x r.y r.width (r.height + s.height)).points = r.points ∪ s.points := by
  obtain ⟨hbot, hbox⟩ := box_stacked hr hy hht
  have hleft : s.box.left = r.box.left := by simp only [RegionRect.box, hx]
  have hright : s.box.right = r.box.right := by simp only [RegionRect.box, hx, hwd]
  have hr' := (upright r).2
  have hs := (upright s).2
  ext p
  simp only [RegionRect.points, hbox, Box.mem_points, Set.mem_union, hleft, hright]
  omega

/-- A list of rectangles within bounds, for the points and the rectangles that were there before. -/
structure Coalesced (bounds : RegionRect) (rects result : List RegionRect) : Prop where
  points : pointsOf result = pointsOf rects
  inside : ∀ s ∈ result, s.box.Inside bounds.box
  isEmpty : result = [] ↔ rects = []

theorem coalesceOnto_spec (hbds : bounds.Fits) (hr : r.box.Inside bounds.box)
    (hrest : ∀ s ∈ rest, s.box.Inside bounds.box) :
    NoOverflow (coalesceOnto r rest) ∧ Coalesced bounds (r :: rest) (coalesceOnto r rest).value := by
  induction rest generalizing r with
  | nil => exact ⟨within_pure _, rfl, forall_mem_singleton.mpr hr, Iff.rfl⟩
  | cons s rest ih =>
    obtain ⟨hs, hrest⟩ := forall_mem_cons.mp hrest
    have hfits := fits_of_inside hbds hr
    obtain ⟨-, hkept⟩ := ih hs hrest
    have htail : NoOverflow (do let tail ← coalesceOnto s rest; pure (r :: tail)) ∧
        Coalesced bounds (r :: s :: rest) (do let tail ← coalesceOnto s rest; pure (r :: tail) : Checked _).value := by
      refine ⟨within_bind.mpr ⟨(ih hs hrest).1, within_pure _⟩, ?_, ?_,
        iff_of_false (cons_ne_nil _ _) (cons_ne_nil _ _)⟩
      · rw [value_bind, value_pure, pointsOf_cons, hkept.points, pointsOf_cons r]
      · exact forall_mem_cons.mpr ⟨hr, hkept.inside⟩
    rw [coalesceOnto]
    by_cases hcol : r.x = s.x ∧ r.width = s.width
    · rw [if_pos hcol]
      have hbot : (addI16 r.y r.height.toInt16).value = r.y + r.height.toInt16 := rfl
      rw [NoOverflow, within_bind, value_bind, hbot, within_addI16, and_assoc]
      refine ⟨(fitsI16_corner hfits).2, ?_⟩
      by_cases hy : r.y + r.height.toInt16 = s.y
      · have hht : r.height.toNat + s.height.toNat < 2 ^ 16 := by
          have h1 := hr.2.1
          have h2 := hs.2.2
          have h3 := toInt_add_toInt16 hfits.height hfits.bottom
          rw [hy] at h3
          have h4 := hbds.height
          simp only [RegionRect.box] at h1 h2
          omega
        rw [if_pos hy]
        obtain ⟨hgrown, hpts⟩ := ih (r := ⟨r.x, r.y, r.width, r.height + s.height⟩)
          (by rw [(box_stacked hfits hy hht).2]; exact ⟨hr.1, hr.2.1, hs.2.2⟩) hrest
        refine ⟨within_bind.mpr ⟨within_addU16.mpr hht, hgrown⟩, hpts.points.trans ?_, hpts.inside,
          hpts.isEmpty.trans (iff_of_false (cons_ne_nil _ _) (cons_ne_nil _ _))⟩
        rw [pointsOf_cons, points_stacked hfits hcol.1 hcol.2 hy hht, pointsOf_cons, pointsOf_cons,
          Set.union_assoc]
      · rw [if_neg hy]
        exact htail
    · rw [if_neg hcol]
      exact htail

theorem coalesceRects_spec (hbds : bounds.Fits) (hrects : ∀ s ∈ rects, s.box.Inside bounds.box) :
    NoOverflow (coalesceRects rects) ∧ Coalesced bounds rects (coalesceRects rects).value := by
  have hperm := rects.mergeSort_perm fun a b => a.x < b.x ∨ a.x = b.x ∧ a.y ≤ b.y
  have hpts : pointsOf (rects.mergeSort fun a b => a.x < b.x ∨ a.x = b.x ∧ a.y ≤ b.y) = pointsOf rects := by
    ext p
    simp only [mem_pointsOf, hperm.mem_iff]
  rw [coalesceRects]
  split
  · next hsorted =>
    obtain rfl := nil_perm.mp (hsorted ▸ hperm)
    exact ⟨within_pure _, rfl, nofun, Iff.rfl⟩
  · next a rest hsorted =>
    have hall : ∀ s ∈ a :: rest, s.box.Inside bounds.box := fun s hs => hrects s (hperm.mem_iff.mp (hsorted ▸ hs))
    obtain ⟨hnone, hkept⟩ :=
      coalesceOnto_spec hbds (hall a mem_cons_self) fun s hs => hall s (mem_cons_of_mem a hs)
    refine ⟨hnone, hkept.points.trans (hsorted ▸ hpts), hkept.inside, hkept.isEmpty.trans (iff_of_false nofun ?_)⟩
    rintro rfl
    rw [mergeSort_nil] at hsorted
    cases hsorted

end Operations

section Masks

variable {pix : Pixmap} {xOffset yOffset : Int16} {bounds : RegionRect}

/-- The pixels of a bitmap that are not zero: those with a colour, whatever their alpha. -/
def nonZero (pix : Pixmap) : Set (Nat × Nat) :=
  { p | (p.1 < pix.width.toNat ∧ p.2 < pix.height.toNat) ∧
    ∃ k < 3, pix.framebuffer.data.getD ((p.2 * pix.width.toNat + p.1) * 4 + k) 0 ≠ 0 }

/-- The buffer holds all pixels, one of no colour has no alpha either, and moved by the offset
the pixels that are not zero lie within bounds that fit. -/
structure MaskFits (pix : Pixmap) (xOffset yOffset : Int16) (bounds : RegionRect) : Prop where
  fits : bounds.Fits
  whole : pix.height.toNat * pix.width.toNat * 4 ≤ pix.framebuffer.data.length
  clear : ∀ x < pix.width.toNat, ∀ y < pix.height.toNat, (x, y) ∉ nonZero pix →
    pix.framebuffer.data.getD ((y * pix.width.toNat + x) * 4 + 3) 0 = 0
  inside : ∀ p ∈ nonZero pix, (p.1 < 2 ^ 15 ∧ p.2 < 2 ^ 15) ∧
    (p.1 + xOffset.toInt, p.2 + yOffset.toInt) ∈ bounds.points

theorem mem_nonZero {x y : Nat} (hx : x < pix.width.toNat) (hy : y < pix.height.toNat) : (x, y) ∈ nonZero pix ↔
    ∃ k < 3, pix.framebuffer.data.getD ((y * pix.width.toNat + x) * 4 + k) 0 ≠ 0 :=
  and_iff_right ⟨hx, hy⟩

/-- Where no pixel has an alpha alone, those that the code finds are those that are not zero. -/
theorem MaskFits.marked (h : MaskFits pix xOffset yOffset bounds) :
    ∀ x < pix.width.toNat, ∀ y < pix.height.toNat,
      (isMarked pix.framebuffer.data pix.width.toNat y x = true ↔ (x, y) ∈ nonZero pix) := by
  intro x hx y hy
  have hrow : (y + 1) * pix.width.toNat ≤ pix.height.toNat * pix.width.toNat := Nat.mul_le_mul_right _ hy
  have hthere : (y * pix.width.toNat + x) * 4 + 4 ≤ pix.framebuffer.data.length := by
    rw [Nat.succ_mul] at hrow
    have hwhole := h.whole
    omega
  simp only [isMarked, hthere, true_and, decide_eq_true_eq]
  constructor
  · intro hmarked
    by_contra hzero
    have hclear := h.clear x hx y hy hzero
    rw [mem_nonZero hx hy] at hzero
    rcases hmarked with halpha | hred | hgreen | hblue
    · exact halpha hclear
    · exact hzero ⟨2, by decide, hred⟩
    · exact hzero ⟨1, by decide, hgreen⟩
    · exact hzero ⟨0, by decide, hblue⟩
  · intro hnonZero
    obtain ⟨k, hk, hbyte⟩ := (mem_nonZero hx hy).mp hnonZero
    obtain rfl | rfl | rfl : k = 0 ∨ k = 1 ∨ k = 2 := by omega
    · exact .inr (.inr (.inr hbyte))
    · exact .inr (.inr (.inl hbyte))
    · exact .inr (.inl hbyte)

theorem mem_spans {x y : Nat} :
    (∃ start len, (y, start, len) ∈ spans pix ∧ start ≤ x ∧ x < start + len) ↔
      y < pix.height.toNat ∧ x < pix.width.toNat ∧ isMarked pix.framebuffer.data pix.width.toNat y x = true := by
  rw [← mem_runs_iff]
  simp [spans, and_assoc]

theorem spanRect_spec (h : MaskFits pix xOffset yOffset bounds) {span : Nat × Nat × Nat} (hspan : span ∈ spans pix) :
    NoOverflow (spanRect xOffset yOffset span) ∧ (spanRect xOffset yOffset span).value.box =
      ⟨span.2.1 + xOffset.toInt, span.1 + yOffset.toInt, span.2.1 + xOffset.toInt + span.2.2,
        span.1 + yOffset.toInt + 1⟩ ∧
      (spanRect xOffset yOffset span).value.box.Inside bounds.box := by
  simp only [spans, mem_flatMap, mem_range, mem_map] at hspan
  obtain ⟨y, hy, ⟨start, len⟩, hrun, rfl⟩ := hspan
  obtain ⟨hpos, hwd⟩ := runsFrom_fits hrun
  have hins : ∀ x, start ≤ x → x < start + len → (x < 2 ^ 15 ∧ y < 2 ^ 15) ∧
      ((x : Int) + xOffset.toInt, (y : Int) + yOffset.toInt) ∈ bounds.points := by
    intro x hx hlt
    obtain ⟨hxw, hmarked⟩ := mem_runs_iff.mp ⟨_, hrun, hx, hlt⟩
    exact h.inside (x, y) ((h.marked x hxw y hy).mp hmarked)
  obtain ⟨⟨hst, hrow⟩, hfst⟩ := hins start le_rfl (by omega)
  obtain ⟨-, hlast⟩ := hins (start + len - 1) (by omega) (by omega)
  obtain ⟨hw, hh, hr, hb⟩ := h.fits
  have hleft := Int16.le_toInt bounds.x
  have htop := Int16.le_toInt bounds.y
  have hx : (Int16.ofNat start).toInt = start := Int16.toInt_ofNat_of_lt hst
  have hy' : (Int16.ofNat y).toInt = y := Int16.toInt_ofNat_of_lt hrow
  simp only [RegionRect.points, RegionRect.box, Box.mem_points] at hfst hlast
  have hxFits : FitsI16 ((Int16.ofNat start).toInt + xOffset.toInt) := by
    unfold FitsI16
    omega
  have hyFits : FitsI16 ((Int16.ofNat y).toInt + yOffset.toInt) := by
    unfold FitsI16
    omega
  have hbox : (spanRect xOffset yOffset (y, start, len)).value.box =
      ⟨start + xOffset.toInt, y + yOffset.toInt, start + xOffset.toInt + len, y + yOffset.toInt + 1⟩ := by
    have hlen : (UInt16.ofNat len).toNat = len := Nat.mod_eq_of_lt (by omega)
    have hsum : ∀ {a b : Int16}, FitsI16 (a.toInt + b.toInt) → (addI16 a b).value.toInt = a.toInt + b.toInt := by
      intro a b hfits
      have hadd : (addI16 a b).value.toInt = (a + b).toInt := rfl
      rw [hadd, Int16.toInt_add, Int.bmod_def]
      unfold FitsI16 at hfits
      omega
    simp only [spanRect, value_bind, value_pure, RegionRect.box, hsum hxFits, hsum hyFits, hx, hy', hlen]
    rfl
  refine ⟨?_, hbox, ?_⟩
  · rw [NoOverflow, spanRect, within_bind, within_bind, within_addI16, within_addI16]
    exact ⟨hxFits, hyFits, within_pure _⟩
  · rw [hbox]
    simp only [Box.Inside, RegionRect.box]
    omega

theorem extractShapeFromPixmap_spec (h : MaskFits pix xOffset yOffset bounds) :
    NoOverflow (extractShapeFromPixmap pix xOffset yOffset) ∧
      pointsOf (extractShapeFromPixmap pix xOffset yOffset).value =
        { p | ∃ q ∈ nonZero pix, p = (q.1 + xOffset.toInt, q.2 + yOffset.toInt) } ∧
      (∀ r ∈ (extractShapeFromPixmap pix xOffset yOffset).value, r.box.Inside bounds.box) ∧
      ((extractShapeFromPixmap pix xOffset yOffset).value = [] ↔ nonZero pix = ∅) := by
  have hspans : ∀ r ∈ ((spans pix).mapM (spanRect xOffset yOffset)).value, r.box.Inside bounds.box := by
    intro r hr
    rw [value_mapM] at hr
    obtain ⟨span, hspan, rfl⟩ := mem_map.mp hr
    exact (spanRect_spec h hspan).2.2
  obtain ⟨hcoalesced, hkept⟩ := coalesceRects_spec h.fits hspans
  refine ⟨within_bind.mpr ⟨within_mapM.mpr fun span hspan => (spanRect_spec h hspan).1, hcoalesced⟩, ?_,
    hkept.inside, hkept.isEmpty.trans ?_⟩
  · rw [extractShapeFromPixmap, value_bind, hkept.points, value_mapM]
    ext p
    simp only [mem_pointsOf, mem_map, exists_exists_and_eq_and]
    constructor
    · rintro ⟨⟨y, start, len⟩, hspan, hp⟩
      rw [RegionRect.points, (spanRect_spec h hspan).2.1, Box.mem_points] at hp
      dsimp only at hp
      obtain ⟨x, hx⟩ : ∃ x : Nat, (x : Int) = p.1 - xOffset.toInt := ⟨(p.1 - xOffset.toInt).toNat, by omega⟩
      obtain ⟨hy, hxw, hmarked⟩ := mem_spans.mp ⟨start, len, hspan, by omega, (by omega : x < start + len)⟩
      refine ⟨(x, y), (h.marked x hxw y hy).mp hmarked, Prod.ext ?_ ?_⟩ <;> dsimp only <;> omega
    · rintro ⟨⟨x, y⟩, hq, rfl⟩
      obtain ⟨start, len, hspan, hx⟩ := mem_spans.mpr ⟨hq.1.2, hq.1.1, (h.marked x hq.1.1 y hq.1.2).mpr hq⟩
      refine ⟨_, hspan, ?_⟩
      rw [RegionRect.points, (spanRect_spec h hspan).2.1, Box.mem_points]
      dsimp only
      omega
  · rw [value_mapM, map_eq_nil_iff, eq_nil_iff_forall_not_mem, Set.eq_empty_iff_forall_notMem]
    constructor
    · rintro hnone ⟨x, y⟩ hq
      obtain ⟨start, len, hspan, -⟩ := mem_spans.mpr ⟨hq.1.2, hq.1.1, (h.marked x hq.1.1 y hq.1.2).mpr hq⟩
      exact hnone _ hspan
    · rintro hnone ⟨y, start, len⟩ hspan
      obtain ⟨_, -, ⟨_, _⟩, hrun, heq⟩ := by simpa only [spans, mem_flatMap, mem_map] using hspan
      obtain ⟨rfl, rfl, rfl⟩ := by simpa only [Prod.mk.injEq] using heq
      obtain ⟨hy, hx, hmarked⟩ := mem_spans.mp ⟨_, _, hspan, le_rfl, Nat.lt_add_of_pos_right (runsFrom_fits hrun).1⟩
      exact hnone _ ((h.marked _ hx _ hy).mp hmarked)

end Masks

end X11Web.ShapeRegions
