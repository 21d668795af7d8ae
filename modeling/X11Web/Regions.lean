import Mathlib.Data.UInt
import X11Web.Boxes

namespace X11Web.Regions

open Boxes

structure RegionRect where
  x : Int16
  y : Int16
  width : UInt16
  height : UInt16
  deriving DecidableEq

structure XFixesRegion where
  rects : List RegionRect

/-- `i16::saturating_add`. -/
def saturatingAdd (a b : Int16) : Int16 := Int16.ofIntClamp (a.toInt + b.toInt)

namespace RegionRect

/-- `x + width as i16`. -/
def x2 (r : RegionRect) : Int16 := r.x + r.width.toInt16

/-- `y + height as i16`. -/
def y2 (r : RegionRect) : Int16 := r.y + r.height.toInt16

def intersect (a b : RegionRect) : Option RegionRect :=
  let x1 := max a.x b.x
  let y1 := max a.y b.y
  let x2 := min a.x2 b.x2
  let y2 := min a.y2 b.y2
  if x2 > x1 ∧ y2 > y1 then some ⟨x1, y1, (x2 - x1).toUInt16, (y2 - y1).toUInt16⟩ else none

/-- `subtract_rect`: what is left of `r`, in the order it is pushed, by the wrapping sums of a release build. -/
def subtractRect (r sub : RegionRect) : List RegionRect :=
  if sub.x ≥ r.x2 ∨ sub.x2 ≤ r.x ∨ sub.y ≥ r.y2 ∨ sub.y2 ≤ r.y then [r]
  else
    let midY := max r.y sub.y
    let midY2 := min r.y2 sub.y2
    (if sub.y > r.y then [⟨r.x, r.y, r.width, (sub.y - r.y).toUInt16⟩] else []) ++
    (if midY < midY2 then
      (if sub.x > r.x then [⟨r.x, midY, (sub.x - r.x).toUInt16, (midY2 - midY).toUInt16⟩] else []) ++
      (if sub.x2 < r.x2 then [⟨sub.x2, midY, (r.x2 - sub.x2).toUInt16, (midY2 - midY).toUInt16⟩] else [])
    else []) ++
    (if sub.y2 < r.y2 then [⟨r.x, sub.y2, r.width, (r.y2 - sub.y2).toUInt16⟩] else [])

end RegionRect

open RegionRect

structure Edges where
  x1 : Int16
  y1 : Int16
  x2 : Int16
  y2 : Int16

def Edges.extend (e : Edges) (r : RegionRect) : Edges where
  x1 := min e.x1 r.x
  y1 := min e.y1 r.y
  x2 := max e.x2 (saturatingAdd r.x r.width.toInt16)
  y2 := max e.y2 (saturatingAdd r.y r.height.toInt16)

namespace XFixesRegion

def extents (A : XFixesRegion) : RegionRect :=
  if A.rects.isEmpty then ⟨0, 0, 0, 0⟩
  else
    let e := A.rects.foldl Edges.extend ⟨Int16.maxValue, Int16.maxValue, Int16.minValue, Int16.minValue⟩
    ⟨e.x1, e.y1, (e.x2 - e.x1).toUInt16, (e.y2 - e.y1).toUInt16⟩

def union (A B : XFixesRegion) : XFixesRegion := ⟨A.rects ++ B.rects⟩

def intersect (A B : XFixesRegion) : XFixesRegion :=
  ⟨A.rects.flatMap fun a => B.rects.filterMap fun b => a.intersect b⟩

def subtract (A B : XFixesRegion) : XFixesRegion :=
  ⟨B.rects.foldl (fun result sub => result.flatMap fun r => subtractRect r sub) A.rects⟩

def translate (A : XFixesRegion) (dx dy : Int16) : XFixesRegion :=
  ⟨A.rects.map fun r => { r with x := saturatingAdd r.x dx, y := saturatingAdd r.y dy }⟩

def invert (A : XFixesRegion) (bounds : RegionRect) : XFixesRegion := subtract ⟨[bounds]⟩ A

end XFixesRegion

/-! ## The points of a region -/

def RegionRect.box (r : RegionRect) : Box Int :=
  ⟨r.x.toInt, r.y.toInt, r.x.toInt + r.width.toNat, r.y.toInt + r.height.toNat⟩

/-- The sides that the code compares: the far ones are `i16` sums, and may wrap. -/
def RegionRect.sides (r : RegionRect) : Box Int := ⟨r.x.toInt, r.y.toInt, r.x2.toInt, r.y2.toInt⟩

def RegionRect.points (r : RegionRect) : Set (Int × Int) := r.box.points

/-- The grid points that some rectangle of the region covers. -/
def XFixesRegion.points (A : XFixesRegion) : Set (Int × Int) := { p | ∃ r ∈ A.rects, p ∈ r.points }

/-- The extents and the sum of corner and extent are `i16` values on both axes. -/
structure RegionRect.Fits (r : RegionRect) : Prop where
  width : r.width.toNat ≤ 32767
  height : r.height.toNat ≤ 32767
  right : r.x.toInt + r.width.toNat ≤ 32767
  bottom : r.y.toInt + r.height.toNat ≤ 32767

def XFixesRegion.Fits (A : XFixesRegion) : Prop := ∀ r ∈ A.rects, r.Fits

def XFixesRegion.Apart (A : XFixesRegion) : Prop := A.rects.Pairwise fun r s => Disjoint r.points s.points

section Words

variable {a b : Int16} {w : UInt16}

theorem toInt_toInt16 (h : w.toNat ≤ 32767) : w.toInt16.toInt = w.toNat := by
  have hbits : w.toInt16.toInt = (w.toNat : Int).bmod (2 ^ 16) := BitVec.toInt_eq_toNat_bmod _
  rw [hbits, Int.bmod_def]
  omega

theorem toNat_sub (h : a.toInt ≤ b.toInt) : ((b - a).toUInt16.toNat : Int) = b.toInt - a.toInt := by
  have hsub := Int16.toInt_sub b a
  have hbits : (b - a).toInt = ((b - a).toUInt16.toNat : Int).bmod (2 ^ 16) := BitVec.toInt_eq_toNat_bmod _
  have hlt := (b - a).toUInt16.toNat_lt
  have ha := Int16.le_toInt a
  have hb := Int16.toInt_lt b
  rw [Int.bmod_def] at hsub hbits
  omega

@[simp] theorem toInt_max (a b : Int16) : (max a b).toInt = max a.toInt b.toInt := by
  have hmax : max a b = if a ≤ b then b else a := rfl
  rw [hmax]
  split
  · next h => rw [max_eq_right (Int16.le_iff_toInt_le.mp h)]
  · next h =>
    rw [Int16.le_iff_toInt_le] at h
    omega

@[simp] theorem toInt_min (a b : Int16) : (min a b).toInt = min a.toInt b.toInt := by
  have hmin : min a b = if a ≤ b then a else b := rfl
  rw [hmin]
  split
  · next h => rw [min_eq_left (Int16.le_iff_toInt_le.mp h)]
  · next h =>
    rw [Int16.le_iff_toInt_le] at h
    omega

theorem toInt_saturatingAdd (h : a.toInt + b.toInt ≤ 32767) (hb : 0 ≤ b.toInt) :
    (saturatingAdd a b).toInt = a.toInt + b.toInt := by
  have ha := Int16.le_toInt a
  exact Int16.toInt_ofIntClamp (by rw [Int16.toInt_minValue]; omega) (by rw [Int16.toInt_maxValue]; omega)

end Words

section Rectangles

variable {r s : RegionRect}

theorem toInt_add_toInt16 {x : Int16} {w : UInt16} (hw : w.toNat ≤ 32767) (h : x.toInt + w.toNat ≤ 32767) :
    (x + w.toInt16).toInt = x.toInt + w.toNat := by
  have hx := Int16.le_toInt x
  rw [Int16.toInt_add, toInt_toInt16 hw, Int.bmod_def]
  omega

theorem toInt_x2 (h : r.Fits) : r.x2.toInt = r.box.right := toInt_add_toInt16 h.width h.right

theorem toInt_y2 (h : r.Fits) : r.y2.toInt = r.box.bottom := toInt_add_toInt16 h.height h.bottom

theorem sides_eq_box (h : r.Fits) : r.sides = r.box := by
  rw [RegionRect.sides, toInt_x2 h, toInt_y2 h]
  rfl

theorem sides_inside_box (r : RegionRect) : r.sides.Inside r.box := by
  have hwrap : ∀ (x : Int16) (w : UInt16), (x + w.toInt16).toInt ≤ x.toInt + w.toNat := by
    intro x w
    have hbits : w.toInt16.toInt = (w.toNat : Int).bmod (2 ^ 16) := BitVec.toInt_eq_toNat_bmod _
    have hx := Int16.le_toInt x
    rw [Int16.toInt_add, hbits, Int.add_bmod_bmod, Int.bmod_def]
    omega
  exact ⟨⟨le_refl _, hwrap r.x r.width⟩, le_refl _, hwrap r.y r.height⟩

theorem upright (r : RegionRect) : r.box.Upright := by
  constructor <;> simp [RegionRect.box]

def between (x1 y1 x2 y2 : Int16) : RegionRect := ⟨x1, y1, (x2 - x1).toUInt16, (y2 - y1).toUInt16⟩

theorem box_between {x1 y1 x2 y2 : Int16} (hx : x1.toInt ≤ x2.toInt) (hy : y1.toInt ≤ y2.toInt) :
    (between x1 y1 x2 y2).box = ⟨x1.toInt, y1.toInt, x2.toInt, y2.toInt⟩ := by
  simp only [between, RegionRect.box, toNat_sub hx, toNat_sub hy]
  congr 1 <;> omega

theorem box_topStrip (h : r.y.toInt ≤ s.y.toInt) :
    (RegionRect.mk r.x r.y r.width (s.y - r.y).toUInt16).box = ⟨r.box.left, r.box.top, r.box.right, s.box.top⟩ := by
  simp only [RegionRect.box, toNat_sub h]
  congr 1
  omega

theorem box_bottomStrip (hr : r.Fits) (h : s.y2.toInt ≤ r.y2.toInt) :
    (RegionRect.mk r.x s.y2 r.width (r.y2 - s.y2).toUInt16).box =
      ⟨r.box.left, s.sides.bottom, r.box.right, r.box.bottom⟩ := by
  rw [← toInt_y2 hr]
  simp only [RegionRect.box, RegionRect.sides, toNat_sub h]
  congr 1
  omega

theorem map_box_strip {c : Prop} [Decidable c] {f : RegionRect} {b : Box Int} (h : c → f.box = b) :
    (if c then [f] else []).map RegionRect.box = if c then [b] else [] := by
  split
  · next hc => rw [List.map_singleton, h hc]
  · rfl

theorem subtractRect_sides (hr : r.Fits) (s : RegionRect) :
    (subtractRect r s).map RegionRect.box = r.box.cut s.sides := by
  have hx2 := toInt_x2 hr
  have hy2 := toInt_y2 hr
  have sx2 : s.x2.toInt = s.sides.right := rfl
  have sy2 : s.y2.toInt = s.sides.bottom := rfl
  have hmidTop : (max r.y s.y).toInt = max r.box.top s.sides.top := toInt_max _ _
  have hmidBot : (min r.y2 s.y2).toInt = min r.box.bottom s.sides.bottom := by rw [toInt_min, hy2, sy2]
  rw [subtractRect, Box.cut]
  simp only [ge_iff_le, gt_iff_lt, Int16.le_iff_toInt_le, Int16.lt_iff_toInt_lt, hx2, hy2, sx2, sy2, hmidTop,
    hmidBot]
  by_cases hapart : r.box.right ≤ s.sides.left ∨ s.sides.right ≤ r.box.left ∨ r.box.bottom ≤ s.sides.top ∨
      s.sides.bottom ≤ r.box.top
  · exact (congrArg _ (if_pos hapart)).trans (if_pos hapart).symm
  refine (congrArg _ (if_neg hapart)).trans (Eq.trans ?_ (if_neg hapart).symm)
  rw [List.map_append, List.map_append]
  refine congrArg₂ _ (congrArg₂ _ ?_ ?_) ?_
  · exact map_box_strip fun h => box_topStrip h.le
  · by_cases hmid : max r.box.top s.sides.top < min r.box.bottom s.sides.bottom
    · rw [if_pos hmid, if_pos hmid, List.map_append]
      refine congrArg₂ _ ?_ ?_
      · refine map_box_strip fun h => ?_
        exact (box_between (Int.le_of_lt h) (by rw [hmidTop, hmidBot]; exact hmid.le)).trans
          (by rw [hmidTop, hmidBot]; rfl)
      · refine map_box_strip fun h => ?_
        exact (box_between (by rw [hx2, sx2]; exact h.le) (by rw [hmidTop, hmidBot]; exact hmid.le)).trans
          (by rw [hmidTop, hmidBot, hx2, sx2])
    · rw [if_neg hmid, if_neg hmid]
      rfl
  · exact map_box_strip fun h => box_bottomStrip hr (by rw [hy2, sy2]; exact h.le)

theorem fits_of_inside (hr : r.Fits) (h : s.box.Inside r.box) : s.Fits := by
  obtain ⟨hw, hh, hx, hy⟩ := hr
  obtain ⟨⟨h1, h2⟩, h3, h4⟩ := h
  simp only [RegionRect.box] at h1 h2 h3 h4
  constructor <;> omega

theorem subtractRect_fits (hr : r.Fits) {f : RegionRect} (hf : f ∈ subtractRect r s) : f.Fits := by
  refine fits_of_inside hr (inside_of_mem_cut (s := s.sides) ?_)
  rw [← subtractRect_sides hr]
  exact List.mem_map_of_mem hf

theorem intersect_sides (r s : RegionRect) :
    (r.intersect s).map RegionRect.box =
      if (r.sides.meet s.sides).Nondegenerate then some (r.sides.meet s.sides) else none := by
  have hx1 : (max r.x s.x).toInt = max r.sides.left s.sides.left := toInt_max _ _
  have hy1 : (max r.y s.y).toInt = max r.sides.top s.sides.top := toInt_max _ _
  have hx2 : (min r.x2 s.x2).toInt = min r.sides.right s.sides.right := toInt_min _ _
  have hy2 : (min r.y2 s.y2).toInt = min r.sides.bottom s.sides.bottom := toInt_min _ _
  rw [RegionRect.intersect]
  simp only [gt_iff_lt, Int16.lt_iff_toInt_lt, hx1, hy1, hx2, hy2]
  by_cases hmeet : (r.sides.meet s.sides).Nondegenerate
  · refine (congrArg _ (if_pos hmeet)).trans (Eq.trans ?_ (if_pos hmeet).symm)
    have hx : (max r.x s.x).toInt ≤ (min r.x2 s.x2).toInt := by rw [hx1, hx2]; exact hmeet.1.le
    have hy : (max r.y s.y).toInt ≤ (min r.y2 s.y2).toInt := by rw [hy1, hy2]; exact hmeet.2.le
    have hbox := box_between hx hy
    rw [hx1, hy1, hx2, hy2] at hbox
    exact congrArg some hbox
  · exact (congrArg _ (if_neg hmeet)).trans (if_neg hmeet).symm

end Rectangles

section Regions

variable {A B : XFixesRegion}

def XFixesRegion.boxes (A : XFixesRegion) : List (Box Int) := A.rects.map RegionRect.box

def XFixesRegion.sides (A : XFixesRegion) : List (Box Int) := A.rects.map RegionRect.sides

/-- The grid points between the sides that the code compares. -/
def XFixesRegion.reach (A : XFixesRegion) : Set (Int × Int) := area A.sides

theorem XFixesRegion.Fits.sides (h : A.Fits) : A.sides = A.boxes :=
  List.map_congr_left fun r hr => sides_eq_box (h r hr)

theorem points_eq_area (A : XFixesRegion) : A.points = area A.boxes := by
  ext p
  simp [XFixesRegion.points, XFixesRegion.boxes, mem_area, RegionRect.points]

theorem apart_iff : A.Apart ↔ Boxes.Apart A.boxes := by
  rw [XFixesRegion.Apart, Boxes.Apart, XFixesRegion.boxes, List.pairwise_map]
  rfl

theorem boxes_union (A B : XFixesRegion) : (A.union B).boxes = A.boxes ++ B.boxes := List.map_append

theorem XFixesRegion.Fits.reach (h : A.Fits) : A.reach = A.points := by
  rw [XFixesRegion.reach, h.sides, points_eq_area]

theorem XFixesRegion.reach_subset (A : XFixesRegion) : A.reach ⊆ A.points := by
  rintro p ⟨b, hb, hp⟩
  obtain ⟨r, hr, rfl⟩ := List.mem_map.mp hb
  obtain ⟨⟨hleft, hright⟩, htop, hbot⟩ := sides_inside_box r
  exact ⟨r, hr, ⟨hleft.trans hp.1.1, hp.1.2.trans_le hright⟩, htop.trans hp.2.1, hp.2.2.trans_le hbot⟩

theorem boxes_intersect (A B : XFixesRegion) : (A.intersect B).boxes = meets A.sides B.sides := by
  have hrow : ∀ a ∈ A.rects, (B.rects.filterMap fun b => a.intersect b).map RegionRect.box =
      (B.sides.map a.sides.meet).filter fun b => b.Nondegenerate := by
    intro a _
    rw [List.map_filterMap, XFixesRegion.sides, List.map_map, ← List.filterMap_eq_filter, List.filterMap_map]
    refine List.filterMap_congr fun b _ => ?_
    rw [intersect_sides]
    simp [Option.guard]
  calc (A.intersect B).boxes
    _ = A.rects.flatMap fun a => (B.sides.map a.sides.meet).filter fun b => b.Nondegenerate := by
      rw [XFixesRegion.boxes, XFixesRegion.intersect, List.map_flatMap, List.flatMap_congr hrow]
    _ = meets (A.rects.map RegionRect.sides) B.sides := by rw [meets, List.flatMap_map]

theorem boxes_subtract (hA : A.Fits) (B : XFixesRegion) :
    (A.subtract B).boxes = cutAll A.boxes B.sides ∧ (A.subtract B).Fits := by
  obtain ⟨subs⟩ := B
  induction subs generalizing A with
  | nil => exact ⟨rfl, hA⟩
  | cons sub subs ih =>
    have hcut : (XFixesRegion.mk (A.rects.flatMap fun r => subtractRect r sub)).boxes =
        A.boxes.flatMap fun b => b.cut sub.sides := by
      rw [XFixesRegion.boxes, XFixesRegion.boxes, List.map_flatMap, List.flatMap_map]
      exact List.flatMap_congr fun r hr => subtractRect_sides (hA r hr) sub
    have hfits : (XFixesRegion.mk (A.rects.flatMap fun r => subtractRect r sub)).Fits := by
      intro f hf
      obtain ⟨r, hr, hf⟩ := List.mem_flatMap.mp hf
      exact subtractRect_fits (hA r hr) hf
    have hrest := ih hfits
    rw [hcut] at hrest
    exact hrest

theorem points_union (A B : XFixesRegion) : (A.union B).points = A.points ∪ B.points := by
  rw [points_eq_area, points_eq_area, points_eq_area, boxes_union, area_append]

theorem points_intersect_reach (A B : XFixesRegion) : (A.intersect B).points = A.reach ∩ B.reach := by
  rw [points_eq_area, boxes_intersect, area_meets]
  rfl

theorem points_intersect (hA : A.Fits) (hB : B.Fits) : (A.intersect B).points = A.points ∩ B.points := by
  rw [points_intersect_reach, hA.reach, hB.reach]

theorem points_subtract_reach (hA : A.Fits) (B : XFixesRegion) : (A.subtract B).points = A.points \ B.reach := by
  rw [points_eq_area, points_eq_area, (boxes_subtract hA B).1, area_cutAll]
  rfl

theorem points_subtract (hA : A.Fits) (hB : B.Fits) : (A.subtract B).points = A.points \ B.points := by
  rw [points_subtract_reach hA, hB.reach]

theorem points_single (r : RegionRect) : (XFixesRegion.mk [r]).points = r.points := by
  ext p
  simp [XFixesRegion.points]

theorem points_invert (hA : A.Fits) {bounds : RegionRect} (hbds : bounds.Fits) :
    (A.invert bounds).points = bounds.points \ A.points := by
  have hfits : (XFixesRegion.mk [bounds]).Fits := fun r hr => List.mem_singleton.mp hr ▸ hbds
  rw [XFixesRegion.invert, points_subtract hfits hA, points_single]

theorem apart_subtract (hA : A.Fits) (hB : B.Fits) (h : A.Apart) : (A.subtract B).Apart := by
  rw [apart_iff, (boxes_subtract hA B).1, hB.sides]
  refine apart_cutAll (apart_iff.mp h) fun s hs => ?_
  obtain ⟨r, -, rfl⟩ := List.mem_map.mp hs
  exact upright r

end Regions

section Extents

variable {A : XFixesRegion} {e : Edges}

def Edges.box (e : Edges) : Box Int := ⟨e.x1.toInt, e.y1.toInt, e.x2.toInt, e.y2.toInt⟩

theorem extend_box {r : RegionRect} (hr : r.Fits) (e : Edges) : (e.extend r).box = e.box.join r.box := by
  have hw := toInt_toInt16 hr.width
  have hh := toInt_toInt16 hr.height
  have hx := hr.right
  have hy := hr.bottom
  simp only [Edges.extend, Edges.box, Box.join, toInt_max, toInt_min, RegionRect.box]
  rw [toInt_saturatingAdd (by omega) (by omega), toInt_saturatingAdd (by omega) (by omega), hw, hh]

theorem foldl_extend_box (hA : A.Fits) (e : Edges) :
    (A.rects.foldl Edges.extend e).box = A.boxes.foldl Box.join e.box := by
  obtain ⟨rects⟩ := A
  induction rects generalizing e with
  | nil => rfl
  | cons r rects ih =>
    obtain ⟨hr, hrects⟩ := List.forall_mem_cons.mp hA
    have hrest := ih (e.extend r) hrects
    rw [extend_box hr] at hrest
    exact hrest

def RegionRect.Positive (r : RegionRect) : Prop := 0 < r.width.toNat ∧ 0 < r.height.toNat

theorem nondegenerate_box {r : RegionRect} (h : r.Positive) : r.box.Nondegenerate := by
  obtain ⟨hw, hh⟩ := h
  constructor <;> simp only [RegionRect.box] <;> omega

def noEdges : Edges := ⟨Int16.maxValue, Int16.maxValue, Int16.minValue, Int16.minValue⟩

theorem noEdges_inside {r : RegionRect} {s : Box Int} (h : r.box.Inside s) : noEdges.box.Inside s := by
  obtain ⟨⟨h1, h2⟩, h3, h4⟩ := h
  have hx := Int16.toInt_le r.x
  have hy := Int16.toInt_le r.y
  have hx' := Int16.le_toInt r.x
  have hy' := Int16.le_toInt r.y
  simp only [RegionRect.box] at h1 h2 h3 h4
  refine ⟨⟨h1.trans hx, le_trans ?_ h2⟩, h3.trans hy, le_trans ?_ h4⟩ <;>
    simp only [noEdges, Edges.box, Int16.toInt_minValue] <;> omega

theorem extents_eq (hne : A.rects ≠ []) :
    A.extents = between (A.rects.foldl Edges.extend noEdges).x1 (A.rects.foldl Edges.extend noEdges).y1
      (A.rects.foldl Edges.extend noEdges).x2 (A.rects.foldl Edges.extend noEdges).y2 :=
  if_neg fun h => hne (List.isEmpty_iff.mp h)

theorem extents_least (hA : A.Fits) (hne : A.rects ≠ []) (hpos : ∀ r ∈ A.rects, r.Positive) (s : Box Int) :
    A.extents.points ⊆ s.points ↔ A.points ⊆ s.points := by
  have hnon : ∀ b ∈ A.boxes, b.Nondegenerate := by
    intro b hb
    obtain ⟨r, hr, rfl⟩ := List.mem_map.mp hb
    exact nondegenerate_box (hpos r hr)
  have hins : ∀ t, (A.rects.foldl Edges.extend noEdges).box.Inside t ↔
      noEdges.box.Inside t ∧ ∀ b ∈ A.boxes, b.Inside t := fun t => by
    rw [foldl_extend_box hA, inside_foldl_join]
  obtain ⟨r, hr⟩ := List.exists_mem_of_ne_nil _ hne
  have hrbox : r.box ∈ A.boxes := List.mem_map_of_mem hr
  -- the rectangles lie within the edges that the loop ends with, so these are the right way round
  have hedges : (A.rects.foldl Edges.extend noEdges).box.Nondegenerate :=
    (((hins _).mp Box.inside_rfl).2 r.box hrbox).nondegenerate (hnon _ hrbox)
  have hbox : A.extents.box = (A.rects.foldl Edges.extend noEdges).box := by
    rw [extents_eq hne, box_between hedges.1.le hedges.2.le]
    rfl
  rw [RegionRect.points, hbox, subset_iff_inside hedges, points_eq_area, area_subset_iff hnon, hins]
  exact and_iff_right_of_imp fun h => noEdges_inside (h r.box hrbox)

end Extents

end X11Web.Regions
