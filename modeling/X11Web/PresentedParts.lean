import Mathlib.Data.List.TakeWhile
import X11Web.Exposures
import X11Web.Presenting

namespace X11Web.PresentedParts

open HashMaps Windows Overwrites Pixels DirtyMirror Compositing List
open ImagePixels BlitPixels Presenting
open CopyArea (sheet sheet_wellFormed)
open CopyRequests (checkI16)
open Exposures (checkI16_of_fits checkI16_of_not_fits)
open HitTesting (IsI16)
open Regions (RegionRect XFixesRegion)

section Rectangles

variable {srcW srcH : UInt16} {r : RegionRect} {i j : Int}

theorem toNat_min_ofNat (a : UInt16) {n : Nat} (hn : n < 2 ^ 16) : (min a (.ofNat n)).toNat = min a.toNat n := by
  have hofNat : (UInt16.ofNat n).toNat = n := by rw [UInt16.toNat_ofNat', Nat.mod_eq_of_lt hn]
  have hmin : min a (.ofNat n) = if a ≤ .ofNat n then a else .ofNat n := rfl
  rw [hmin, min_def]
  simp only [UInt16.le_iff_toNat_le, hofNat]
  split
  · rfl
  · exact hofNat

theorem clamp_axis (corner : Int16) (size srcSize : UInt16) :
    (max corner 0).toInt = max corner.toInt 0 ∧
      ((min size (.ofNat (srcSize.toNat - asU16 (max corner 0).toInt))).toNat : Int) =
        min (size.toNat : Int) (max (srcSize.toNat - max corner.toInt 0) 0) := by
  have hcor : (max corner 0).toInt = max corner.toInt 0 := Regions.toInt_max corner 0
  have hlow := Int16.toInt_lt corner
  have hsrc := srcSize.toNat_lt
  refine ⟨hcor, ?_⟩
  rw [toNat_min_ofNat _ (by omega), hcor, asU16]
  omega

/-- The rectangle lies in the source, as far as it has a size. -/
structure InSource (srcW srcH : UInt16) (r : RegionRect) : Prop where
  left : 0 ≤ r.x.toInt
  top : 0 ≤ r.y.toInt
  right : 0 < r.width.toNat → r.x.toInt + r.width.toNat ≤ srcW.toNat
  bottom : 0 < r.height.toNat → r.y.toInt + r.height.toNat ≤ srcH.toNat

theorem clampRect_inSource (srcW srcH : UInt16) (r : RegionRect) : InSource srcW srcH (clampRect srcW srcH r) := by
  obtain ⟨hx, hw⟩ := clamp_axis r.x r.width srcW
  obtain ⟨hy, hh⟩ := clamp_axis r.y r.height srcH
  rw [clampRect]
  constructor <;> dsimp only <;> omega

theorem copyRects_inSource {rects : Option (List RegionRect)} (hr : r ∈ copyRects srcW srcH rects) :
    InSource srcW srcH r := by
  cases rects with
  | none =>
    obtain rfl := mem_singleton.mp hr
    constructor <;> simp
  | some rects =>
    rw [copyRects] at hr
    have hmem : r ∈ rects.map (clampRect srcW srcH) := by
      split at hr
      · exact mem_of_mem_filter hr
      · exact hr
    obtain ⟨r', -, rfl⟩ := mem_map.mp hmem
    exact clampRect_inSource srcW srcH r'

theorem mem_points : (i, j) ∈ r.points ↔
    (r.x.toInt ≤ i ∧ i < r.x.toInt + r.width.toNat) ∧ r.y.toInt ≤ j ∧ j < r.y.toInt + r.height.toNat := Iff.rfl

instance (p : Int × Int) (r : RegionRect) : Decidable (p ∈ r.points) :=
  inferInstanceAs (Decidable ((_ ∧ _) ∧ _ ∧ _))

def Shifted (r : RegionRect) (i j : Int) : Prop :=
  (max r.x.toInt 0 ≤ i ∧ i < max r.x.toInt 0 + r.width.toNat) ∧
    max r.y.toInt 0 ≤ j ∧ j < max r.y.toInt 0 + r.height.toNat

theorem mem_clampRect : (i, j) ∈ (clampRect srcW srcH r).points ↔
    ((0 ≤ i ∧ i < srcW.toNat) ∧ 0 ≤ j ∧ j < srcH.toNat) ∧ Shifted r i j := by
  obtain ⟨hx, hw⟩ := clamp_axis r.x r.width srcW
  obtain ⟨hy, hh⟩ := clamp_axis r.y r.height srcH
  rw [mem_points, clampRect, Shifted]
  dsimp only
  omega

/-- The code copies this point of the source: there is no rectangle with a size, or one
covers it once its corner is moved. -/
def Copied : Option XFixesRegion → Int → Int → Prop
  | none, _, _ => True
  | some region, i, j =>
    (∀ r ∈ region.rects, r.width.toNat = 0 ∨ r.height.toNat = 0) ∨ ∃ r ∈ region.rects, Shifted r i j

def givenRegion (regions : HashMap XId XFixesRegion) (req : PresentPixmapRequest) : Option XFixesRegion :=
  if req.regionId ≠ 0 then regions.lookup req.regionId else none

theorem regionRects_eq (regions : HashMap XId XFixesRegion) (req : PresentPixmapRequest) :
    regionRects regions req = (givenRegion regions req).bind fun region =>
      let v := region.rects.filter fun r => 0 < r.width ∧ 0 < r.height
      if v = [] then none else some v := by
  rw [regionRects, givenRegion]
  split
  · congr 1
    funext region
    by_cases hnil : region.rects = []
    · rw [if_pos hnil, hnil]
      rfl
    · rw [if_neg hnil]
  · rfl

theorem has_size_iff {r : RegionRect} :
    (decide (0 < r.width ∧ 0 < r.height)) = true ↔ 0 < r.width.toNat ∧ 0 < r.height.toNat := by
  rw [decide_eq_true_eq, UInt16.lt_iff_toNat_lt, UInt16.lt_iff_toNat_lt]
  rfl

theorem mem_copyRects_some {rects : List RegionRect} :
    (∃ r ∈ copyRects srcW srcH (some rects), (i, j) ∈ r.points) ↔
      ((0 ≤ i ∧ i < srcW.toNat) ∧ 0 ≤ j ∧ j < srcH.toNat) ∧ ∃ r ∈ rects, Shifted r i j := by
  have hall : (∃ r ∈ rects.map (clampRect srcW srcH), (i, j) ∈ r.points) ↔
      ((0 ≤ i ∧ i < srcW.toNat) ∧ 0 ≤ j ∧ j < srcH.toNat) ∧ ∃ r ∈ rects, Shifted r i j := by
    simp only [mem_map, exists_exists_and_eq_and, mem_clampRect]
    grind
  rw [copyRects]
  split
  · rw [← hall]
    refine exists_congr fun r => ?_
    rw [mem_filter, has_size_iff, and_assoc]
    refine and_congr_right fun _ => and_iff_right_of_imp fun hin => ?_
    rw [mem_points] at hin
    omega
  · exact hall

theorem mem_copyRects (regions : HashMap XId XFixesRegion) (req : PresentPixmapRequest) :
    (∃ r ∈ copyRects srcW srcH (regionRects regions req), (i, j) ∈ r.points) ↔
      ((0 ≤ i ∧ i < srcW.toNat) ∧ 0 ≤ j ∧ j < srcH.toNat) ∧ Copied (givenRegion regions req) i j := by
  have hwhole : (∃ r ∈ copyRects srcW srcH none, (i, j) ∈ r.points) ↔
      (0 ≤ i ∧ i < srcW.toNat) ∧ 0 ≤ j ∧ j < srcH.toNat := by
    simp [copyRects, mem_points]
  rw [regionRects_eq]
  cases givenRegion regions req with
  | none => exact hwhole.trans (iff_of_eq (and_true _)).symm
  | some region =>
    rw [Option.bind_some]
    dsimp only
    by_cases hnone : region.rects.filter (fun r => 0 < r.width ∧ 0 < r.height) = []
    · rw [if_pos hnone, hwhole]
      refine (and_iff_left (Or.inl fun r hr => ?_)).symm
      have hfails := filter_eq_nil_iff.mp hnone r hr
      rw [has_size_iff] at hfails
      omega
    · rw [if_neg hnone, mem_copyRects_some]
      refine and_congr_right fun hin => ?_
      obtain ⟨r, hr⟩ := exists_mem_of_ne_nil _ hnone
      obtain ⟨hmem, hsize⟩ := mem_filter.mp hr
      rw [has_size_iff] at hsize
      rw [Copied, or_iff_right fun hall => by have := hall r hmem; omega]
      refine exists_congr fun r' => ?_
      rw [mem_filter, has_size_iff, and_assoc]
      refine and_congr_right fun _ => and_iff_right_of_imp fun hshift => ?_
      rw [Shifted] at hshift
      omega

end Rectangles

section Images

def shownPixel (depth : UInt8) (p : Bytes) : Bytes :=
  if depth ≤ 1 then bitColor (p.getD 0 0) (p.getD 1 0) (p.getD 2 0) else p

theorem expandBits_slice (data : Bytes) {k : Nat} (hk : k * 4 + 4 ≤ data.length) :
    slice (expandBits data) (k * 4) 4 =
      bitColor ((slice data (k * 4) 4).getD 0 0) ((slice data (k * 4) 4).getD 1 0)
        ((slice data (k * 4) 4).getD 2 0) := by
  have hlen : ∀ b g r : UInt8, (bitColor b g r).length = 4 := fun _ _ _ => rfl
  rw [expandBits, part_foldl_range (r := k) (fun b => slice b (k * 4) 4) (fun b => b.length = data.length) rfl
    (fun b hb n _ => ?_) (fun b hb n _ hne => ?_) (fun b hb hsame _ => ?_)]
  · exact if_pos (by omega)
  · dsimp only
    split
    · rw [length_overwrite (by rw [hlen]; omega), hb]
    · exact hb
  · dsimp only
    split
    · refine slice_overwrite_disjoint (by rw [hlen]; omega) ?_
      rw [hlen]
      omega
    · rfl
  · dsimp only at hsame ⊢
    rw [if_pos (by omega)]
    refine (slice_overwrite (by rw [hlen]; omega)).trans ?_
    rw [← hsame, getD_slice (by decide : 0 < 4), getD_slice (by decide : 1 < 4), getD_slice (by decide : 2 < 4)]
    rfl

theorem length_expandBits (data : Bytes) : (expandBits data).length = data.length := by
  refine (ChangesOnly.foldl (S := Set.univ) _ fun b _ n _ => ⟨?_, fun i hi => absurd (Set.mem_univ i) hi⟩).length
  dsimp only
  split
  · refine length_overwrite ?_
    simp only [bitColor, length_cons, length_nil]
    omega
  · rfl

def SourceImage.Whole (src : SourceImage) : Prop := src.data.length = src.width.toNat * src.height.toNat * 4

variable {src : SourceImage}

theorem converted_size : src.converted.width = src.width ∧ src.converted.height = src.height := by
  rw [SourceImage.converted]
  split <;> exact ⟨rfl, rfl⟩

theorem converted_whole (h : SourceImage.Whole src) : SourceImage.Whole src.converted := by
  rw [SourceImage.Whole, SourceImage.converted]
  split
  · exact (length_expandBits _).trans h
  · exact h

theorem pixel_fits {w h c r : Nat} (hc : c < w) (hr : r < h) : (r * w + c) * 4 + 4 ≤ w * h * 4 := by
  have hrow := row_fits (w := w) hr
  rw [Nat.add_mul, Nat.mul_assoc]
  omega

theorem imagePixel_converted (h : SourceImage.Whole src) {c r : Nat} (hc : c < src.width.toNat)
    (hr : r < src.height.toNat) :
    imagePixel src.converted.data src.width.toNat c r =
      shownPixel src.depth (imagePixel src.data src.width.toNat c r) := by
  rw [SourceImage.converted, shownPixel]
  split
  · refine expandBits_slice src.data ?_
    rw [h]
    exact pixel_fits hc hr
  · rfl

variable {r : RegionRect}

theorem asUsize_of_nonneg {a : Int16} (h : 0 ≤ a.toInt) : asUsize a.toInt = a.toInt.toNat := by
  have hlow := Int16.toInt_lt a
  rw [asUsize]
  omega

theorem subImage_eq (hwhole : SourceImage.Whole src) (h : InSource src.width src.height r) (hw : 0 < r.width.toNat)
    (hh : 0 < r.height.toNat) :
    subImage src r =
      (sheet src.data src.width.toNat src.height.toNat).extractPixels r.x r.y r.width r.height := by
  have hright := h.right hw
  have hbot := h.bottom hh
  have htop := h.top
  have hleft := h.left
  have hrows : (List.range r.height.toNat).takeWhile
      (fun row => decide (r.y.toInt.toNat + row < src.height.toNat)) = List.range r.height.toNat := by
    refine takeWhile_eq_self_iff.mpr fun row hrow => decide_eq_true ?_
    rw [mem_range] at hrow
    omega
  rw [extractPixels_rows (by omega) (by omega), subImage, asUsize_of_nonneg htop, asUsize_of_nonneg hleft]
  dsimp only
  rw [hrows, Nat.mul_right_comm r.width.toNat 4]
  refine foldl_ext _ _ _ fun sub row hrow => ?_
  rw [mem_range] at hrow
  have hdata := hwhole ▸ row_fits (w := src.width.toNat) (by omega : r.y.toInt.toNat + row < src.height.toNat)
  have hline : (r.y.toInt + row).toNat = r.y.toInt.toNat + row := by omega
  have hwd : min r.width.toNat ((src.width.toNat : Int) - r.x.toInt).toNat = r.width.toNat := by omega
  simp only [takeRow, sheet, max_eq_left hleft, hline, hwd]
  rw [if_pos (by omega), if_neg (by omega), if_neg (by omega), Nat.mul_assoc row]

def placement (req : PresentPixmapRequest) (src : SourceImage) (r : RegionRect) : Placement where
  x := .ofInt (req.xOff.toInt + r.x.toInt)
  y := .ofInt (req.yOff.toInt + r.y.toInt)
  width := r.width
  height := r.height
  data := if r.x ≠ 0 ∨ r.y ≠ 0 ∨ r.width ≠ src.width ∨ r.height ≠ src.height then subImage src r else src.data

variable {req : PresentPixmapRequest}

theorem place_of_fits (hx : IsI16 (req.xOff.toInt + r.x.toInt)) (hy : IsI16 (req.yOff.toInt + r.y.toInt)) :
    place req src r = some (placement req src r) := by
  rw [place, placement]
  by_cases hsub : r.x ≠ 0 ∨ r.y ≠ 0 ∨ r.width ≠ src.width ∨ r.height ≠ src.height
  · rw [if_pos hsub, checkI16_of_fits hx, checkI16_of_fits hy, if_pos hsub]
    rfl
  · rw [if_neg hsub, if_neg hsub]
    simp only [not_or, not_not] at hsub
    obtain ⟨hleft, htop, hwd, hht⟩ := hsub
    rw [hleft, htop, hwd, hht, Int16.toInt_zero, Int.add_zero, Int.add_zero, Int16.ofInt_toInt,
      Int16.ofInt_toInt]

theorem place_of_not_fits (h : ¬ (IsI16 (req.xOff.toInt + r.x.toInt) ∧ IsI16 (req.yOff.toInt + r.y.toInt))) :
    place req src r = none := by
  have hsub : r.x ≠ 0 ∨ r.y ≠ 0 ∨ r.width ≠ src.width ∨ r.height ≠ src.height := by
    by_contra hsub
    simp only [not_or, not_not] at hsub
    rw [hsub.1, hsub.2.1, Int16.toInt_zero, Int.add_zero, Int.add_zero] at h
    exact h ⟨⟨Int16.le_toInt _, Int16.toInt_lt _⟩, Int16.le_toInt _, Int16.toInt_lt _⟩
  rw [place, if_pos hsub]
  by_cases hx : IsI16 (req.xOff.toInt + r.x.toInt)
  · rw [checkI16_of_fits hx, Option.bind_some, checkI16_of_not_fits fun hy => h ⟨hx, hy⟩]
    rfl
  · rw [checkI16_of_not_fits hx]
    rfl

theorem placement_length (hwhole : SourceImage.Whole src) (h : InSource src.width src.height r) :
    r.width.toNat * r.height.toNat * 4 ≤ (placement req src r).data.length := by
  rw [placement]
  dsimp only
  split
  · by_cases hemp : r.width.toNat = 0 ∨ r.height.toNat = 0
    · have hzero : r.width.toNat * r.height.toNat = 0 := Nat.mul_eq_zero.mpr hemp
      omega
    · rw [subImage_eq hwhole h (by omega) (by omega), length_extractPixels]
  · next hsub =>
    simp only [not_or, not_not] at hsub
    rw [hsub.2.2.1, hsub.2.2.2, hwhole]

theorem imagePixel_placement (hwhole : SourceImage.Whole src) (h : InSource src.width src.height r) {c k : Nat}
    (hc : c < r.width.toNat) (hk : k < r.height.toNat) :
    imagePixel (placement req src r).data r.width.toNat c k =
      imagePixel src.data src.width.toNat (r.x.toInt.toNat + c) (r.y.toInt.toNat + k) := by
  have hright := h.right (by omega)
  have hbot := h.bottom (by omega)
  have hleft := h.left
  have htop := h.top
  rw [placement]
  dsimp only
  split
  · rw [subImage_eq hwhole h (by omega) (by omega), imagePixel_extractPixels_at (sheet_wellFormed hwhole) hc hk,
      max_eq_left hleft]
    have hcolumn : r.x.toInt + c = ((r.x.toInt.toNat + c : Nat) : Int) := by omega
    have hline : r.y.toInt + k = ((r.y.toInt.toNat + k : Nat) : Int) := by omega
    rw [hcolumn, hline, copiedAt_of_inside (by simp only [sheet]; omega) (by simp only [sheet]; omega)]
    exact imagePixel_offset ..
  · next hsub =>
    simp only [not_or, not_not] at hsub
    rw [hsub.1, hsub.2.1, hsub.2.2.1]
    simp

/-- The first column has no negation, and some row of the image is on the framebuffer. -/
def Negates (fbHeight : Nat) (x y : Int) (r : RegionRect) : Prop :=
  x = -2 ^ 15 ∧ 0 < r.width.toNat ∧ ∃ row < r.height.toNat, 0 ≤ y + row ∧ y + row < fbHeight

theorem negationOverflows_iff (hwhole : SourceImage.Whole src) (h : InSource src.width src.height r) (fbHeight : Nat)
    (x y : Int16) : negationOverflows fbHeight x y (placement req src r) ↔ Negates fbHeight x.toInt y.toInt r := by
  have hlen : r.width.toNat * r.height.toNat * 4 ≤ (placement req src r).data.length :=
    placement_length hwhole h
  have hsize : (placement req src r).width.toNat * 4 * (placement req src r).height.toNat =
      r.width.toNat * r.height.toNat * 4 := Nat.mul_right_comm _ _ _
  rw [negationOverflows, Negates, hsize]
  refine and_congr_right fun _ => ?_
  constructor
  · rintro ⟨hpos, -, row, hrow, hon⟩
    rw [not_or] at hpos
    exact ⟨Nat.pos_of_ne_zero hpos.1, row, mem_range.mp hrow, by omega, by omega⟩
  · rintro ⟨hpos, row, hrow, htop, hbot⟩
    have hprod : 0 < r.width.toNat * r.height.toNat := Nat.mul_pos hpos (by omega)
    refine ⟨?_, by omega, row, mem_range.mpr hrow, by omega⟩
    rintro (hzero | hzero | hnil)
    · exact absurd hzero (by simp only [placement]; omega)
    · exact absurd hzero (by simp only [placement]; omega)
    · rw [hnil, length_nil] at hlen
      omega

theorem pixelAt_placement {fb : Framebuffer} (hfb : WellFormed fb) (hwhole : SourceImage.Whole src)
    (h : InSource src.width src.height r) (hx : IsI16 (req.xOff.toInt + r.x.toInt))
    (hy : IsI16 (req.yOff.toInt + r.y.toInt))
    (hsafe : ¬ Negates fb.height (req.xOff.toInt + r.x.toInt) (req.yOff.toInt + r.y.toInt) r) {col row : Nat}
    (hcol : col < fb.width) (hrow : row < fb.height) :
    let p := placement req src r
    pixelAt (fb.putImage p.x p.y p.width p.height p.data) col row =
      if ((col : Int) - req.xOff.toInt, (row : Int) - req.yOff.toInt) ∈ r.points then
        imagePixel src.data src.width.toNat (col - req.xOff.toInt).toNat (row - req.yOff.toInt).toNat
      else pixelAt fb col row := by
  intro p
  have hleft := h.left
  have htop := h.top
  have hpx : p.x.toInt = req.xOff.toInt + r.x.toInt := Int16.toInt_ofInt_of_le hx.1 hx.2
  have hpy : p.y.toInt = req.yOff.toInt + r.y.toInt := Int16.toInt_ofInt_of_le hy.1 hy.2
  have hon : OnImage p.x p.y p.width p.height col row ↔
      ((col : Int) - req.xOff.toInt, (row : Int) - req.yOff.toInt) ∈ r.points := by
    rw [OnImage, mem_points, hpx, hpy, show p.width = r.width from rfl, show p.height = r.height from rfl]
    constructor
    · rintro ⟨-, hcolumn, hline⟩
      omega
    · intro hin
      refine ⟨fun hmin => hsafe ⟨hmin, by omega, (row - (req.yOff.toInt + r.y.toInt)).toNat, by omega⟩, by omega⟩
  have hlen : p.width.toNat * p.height.toNat * 4 ≤ p.data.length := placement_length hwhole h
  rw [pixelAt_putImage hfb hlen hcol hrow]
  by_cases hin : ((col : Int) - req.xOff.toInt, (row : Int) - req.yOff.toInt) ∈ r.points
  · rw [if_pos (hon.mpr hin), if_pos hin, hpx, hpy]
    rw [mem_points] at hin
    refine (imagePixel_placement hwhole h (by omega) (by omega)).trans ?_
    congr 1 <;> omega
  · rw [if_neg fun himg => hin (hon.mp himg), if_neg hin]

end Images

end X11Web.PresentedParts
