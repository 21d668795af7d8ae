import X11Web.CheckedRuns
import X11Web.Regions

namespace X11Web.CheckedRegions

open Boxes CheckedRuns List
open Regions hiding between

/-! The region operations with their `i16` sums and differences, which a build that checks
its arithmetic panics at where they do not fit. -/

namespace RegionRect

/-- The sums that are the far corner, `x2` and `y2`. -/
def checkedCorner (r : RegionRect) : Checked Unit := do
  let _ ← addI16 r.x r.width.toInt16
  let _ ← addI16 r.y r.height.toInt16
  pure ()

def checkedBetween (x1 y1 x2 y2 : Int16) : Checked RegionRect := do
  let width ← subI16 x2 x1
  let height ← subI16 y2 y1
  pure ⟨x1, y1, width.toUInt16, height.toUInt16⟩

def checkedIntersect (a b : RegionRect) : Checked (Option RegionRect) := do
  checkedCorner a
  checkedCorner b
  let x1 := max a.x b.x
  let y1 := max a.y b.y
  let x2 := min a.x2 b.x2
  let y2 := min a.y2 b.y2
  if x2 > x1 ∧ y2 > y1 then do return some (← checkedBetween x1 y1 x2 y2) else pure none

def checkedStrip (c : Prop) [Decidable c] (strip : Checked RegionRect) : Checked (List RegionRect) :=
  if c then do return [← strip] else pure []

def checkedMiddle (r sub : RegionRect) : Checked (List RegionRect) :=
  let midY := max r.y sub.y
  let midY2 := min r.y2 sub.y2
  if midY < midY2 then do
    let left ← checkedStrip (sub.x > r.x) (checkedBetween r.x midY sub.x midY2)
    let right ← checkedStrip (sub.x2 < r.x2) (checkedBetween sub.x2 midY r.x2 midY2)
    pure (left ++ right)
  else pure []

def checkedSubtract (r sub : RegionRect) : Checked (List RegionRect) := do
  checkedCorner r
  checkedCorner sub
  if sub.x ≥ r.x2 ∨ sub.x2 ≤ r.x ∨ sub.y ≥ r.y2 ∨ sub.y2 ≤ r.y then pure [r]
  else do
    let top ← checkedStrip (sub.y > r.y) do
      let height ← subI16 sub.y r.y
      pure ⟨r.x, r.y, r.width, height.toUInt16⟩
    let middle ← checkedMiddle r sub
    let bottom ← checkedStrip (sub.y2 < r.y2) do
      let height ← subI16 r.y2 sub.y2
      pure ⟨r.x, sub.y2, r.width, height.toUInt16⟩
    pure (top ++ middle ++ bottom)

end RegionRect

namespace XFixesRegion

def checkedIntersect (A B : XFixesRegion) : Checked XFixesRegion := do
  let rects ← A.rects.mapM fun a => do
    let row ← B.rects.mapM fun b => RegionRect.checkedIntersect a b
    pure (row.filterMap id)
  pure ⟨rects.flatten⟩

def checkedSubtract (A B : XFixesRegion) : Checked XFixesRegion := do
  let rects ← B.rects.foldlM (fun result sub => do
    let parts ← result.mapM fun r => RegionRect.checkedSubtract r sub
    pure parts.flatten) A.rects
  pure ⟨rects⟩

def checkedInvert (A : XFixesRegion) (bounds : RegionRect) : Checked XFixesRegion := checkedSubtract ⟨[bounds]⟩ A

def checkedExtents (A : XFixesRegion) : Checked RegionRect :=
  if A.rects.isEmpty then pure ⟨0, 0, 0, 0⟩
  else
    let e := A.rects.foldl Edges.extend ⟨Int16.maxValue, Int16.maxValue, Int16.minValue, Int16.minValue⟩
    RegionRect.checkedBetween e.x1 e.y1 e.x2 e.y2

end XFixesRegion

section Rectangles

variable {a b r s : RegionRect} {x1 y1 x2 y2 : Int16}

theorem value_checkedBetween (x1 y1 x2 y2 : Int16) :
    (RegionRect.checkedBetween x1 y1 x2 y2).value = Regions.between x1 y1 x2 y2 := (rfl)

theorem value_subI16 (x y : Int16) : (subI16 x y).value = x - y := (rfl)

theorem value_checkedStrip (c : Prop) [Decidable c] (strip : Checked RegionRect) :
    (RegionRect.checkedStrip c strip).value = if c then [strip.value] else [] := value_ite

theorem value_checkedIntersect (a b : RegionRect) : (RegionRect.checkedIntersect a b).value = a.intersect b := by
  simp only [RegionRect.checkedIntersect, value_bind, value_ite, value_pure, value_checkedBetween]
  rfl

theorem value_checkedMiddle (r s : RegionRect) : (RegionRect.checkedMiddle r s).value =
    if max r.y s.y < min r.y2 s.y2 then
      (if s.x > r.x then [Regions.between r.x (max r.y s.y) s.x (min r.y2 s.y2)] else []) ++
        (if s.x2 < r.x2 then [Regions.between s.x2 (max r.y s.y) r.x2 (min r.y2 s.y2)] else [])
    else [] := by
  simp only [RegionRect.checkedMiddle, value_ite, value_bind, value_pure, value_checkedStrip, value_checkedBetween]

theorem value_checkedSubtract (r s : RegionRect) : (RegionRect.checkedSubtract r s).value = r.subtractRect s := by
  rw [RegionRect.checkedSubtract, value_bind, value_bind, value_ite, value_pure, value_bind, value_bind, value_bind,
    value_pure, value_checkedStrip, value_checkedMiddle, value_checkedStrip, value_bind, value_bind, value_pure,
    value_pure, value_subI16, value_subI16]
  rfl

theorem noOverflow_checkedBetween : NoOverflow (RegionRect.checkedBetween x1 y1 x2 y2) ↔
    FitsI16 (x2.toInt - x1.toInt) ∧ FitsI16 (y2.toInt - y1.toInt) := by
  rw [NoOverflow, RegionRect.checkedBetween, within_bind, within_bind, within_subI16, within_subI16,
    and_iff_left (within_pure _)]

theorem noOverflow_checkedStrip {c : Prop} [Decidable c] {strip : Checked RegionRect} (h : c → NoOverflow strip) :
    NoOverflow (RegionRect.checkedStrip c strip) := by
  rw [RegionRect.checkedStrip]
  split
  · next hc => exact within_bind.mpr ⟨h hc, within_pure _⟩
  · exact within_pure _

theorem fitsI16_corner (h : r.Fits) :
    FitsI16 (r.x.toInt + r.width.toInt16.toInt) ∧ FitsI16 (r.y.toInt + r.height.toInt16.toInt) := by
  obtain ⟨hw, hh, hx, hy⟩ := h
  have hleft := Int16.le_toInt r.x
  have htop := Int16.le_toInt r.y
  rw [toInt_toInt16 hw, toInt_toInt16 hh]
  constructor <;> unfold FitsI16 <;> omega

theorem noOverflow_checkedCorner (h : r.Fits) : NoOverflow (RegionRect.checkedCorner r) :=
  within_bind.mpr ⟨within_addI16.mpr (fitsI16_corner h).1,
    within_bind.mpr ⟨within_addI16.mpr (fitsI16_corner h).2, within_pure _⟩⟩

/-- Sides between those of a rectangle that fits are no further apart than its own. -/
theorem noOverflow_inside (hr : r.Fits) (hx : r.x.toInt ≤ x1.toInt ∧ x1.toInt ≤ x2.toInt ∧ x2.toInt ≤ r.x2.toInt)
    (hy : r.y.toInt ≤ y1.toInt ∧ y1.toInt ≤ y2.toInt ∧ y2.toInt ≤ r.y2.toInt) :
    NoOverflow (RegionRect.checkedBetween x1 y1 x2 y2) := by
  rw [toInt_x2 hr] at hx
  rw [toInt_y2 hr] at hy
  obtain ⟨hw, hh, -, -⟩ := hr
  rw [noOverflow_checkedBetween]
  simp only [RegionRect.box] at hx hy
  constructor <;> unfold FitsI16 <;> omega

theorem noOverflow_checkedIntersect (ha : a.Fits) (hb : b.Fits) : NoOverflow (RegionRect.checkedIntersect a b) := by
  refine within_bind.mpr ⟨noOverflow_checkedCorner ha, within_bind.mpr ⟨noOverflow_checkedCorner hb, ?_⟩⟩
  dsimp only
  split
  · next hmeet =>
    refine within_bind.mpr ⟨noOverflow_inside ha ?_ ?_, within_pure _⟩
    · have hless := Int16.lt_iff_toInt_lt.mp hmeet.1
      rw [toInt_max, toInt_min] at hless ⊢
      omega
    · have hless := Int16.lt_iff_toInt_lt.mp hmeet.2
      rw [toInt_max, toInt_min] at hless ⊢
      omega
  · exact within_pure _

theorem noOverflow_checkedMiddle (hr : r.Fits) (hleft : s.x.toInt < r.x2.toInt) (hright : r.x.toInt < s.x2.toInt) :
    NoOverflow (RegionRect.checkedMiddle r s) := by
  rw [RegionRect.checkedMiddle]
  split
  · next hmid =>
    have hless := Int16.lt_iff_toInt_lt.mp hmid
    have hbetween : r.y.toInt ≤ (max r.y s.y).toInt ∧ (max r.y s.y).toInt ≤ (min r.y2 s.y2).toInt ∧
        (min r.y2 s.y2).toInt ≤ r.y2.toInt := by
      rw [toInt_max, toInt_min] at hless ⊢
      omega
    refine within_bind.mpr ⟨noOverflow_checkedStrip fun h => ?_,
      within_bind.mpr ⟨noOverflow_checkedStrip fun h => ?_, within_pure _⟩⟩
    · exact noOverflow_inside hr ⟨le_rfl, (Int16.lt_iff_toInt_lt.mp h).le, hleft.le⟩ hbetween
    · exact noOverflow_inside hr ⟨hright.le, (Int16.lt_iff_toInt_lt.mp h).le, le_rfl⟩ hbetween
  · exact within_pure _

theorem noOverflow_height {α : Type} (hr : r.Fits) (hy : r.y.toInt ≤ y1.toInt ∧ y1.toInt ≤ y2.toInt ∧ y2.toInt ≤ r.y2.toInt)
    {f : Int16 → α} : NoOverflow (do let height ← subI16 y2 y1; pure (f height)) := by
  have hbetween := @noOverflow_inside r r.x y1 r.x y2 hr ⟨le_rfl, le_rfl, ?_⟩ hy
  · exact within_bind.mpr ⟨within_subI16.mpr (noOverflow_checkedBetween.mp hbetween).2, within_pure _⟩
  · rw [toInt_x2 hr]
    exact (upright r).1

theorem noOverflow_checkedSubtract (hr : r.Fits) (hs : s.Fits) : NoOverflow (RegionRect.checkedSubtract r s) := by
  refine within_bind.mpr ⟨noOverflow_checkedCorner hr, within_bind.mpr ⟨noOverflow_checkedCorner hs, ?_⟩⟩
  split
  · exact within_pure _
  · next hmeet =>
    simp only [ge_iff_le, Int16.le_iff_toInt_le, not_or, Int.not_le] at hmeet
    obtain ⟨hleft, hright, htop, hbot⟩ := hmeet
    refine within_bind.mpr ⟨noOverflow_checkedStrip fun h => ?_,
      within_bind.mpr ⟨noOverflow_checkedMiddle hr hleft hright,
        within_bind.mpr ⟨noOverflow_checkedStrip fun h => ?_, within_pure _⟩⟩⟩
    · exact noOverflow_height hr ⟨le_rfl, (Int16.lt_iff_toInt_lt.mp h).le, htop.le⟩
    · exact noOverflow_height hr ⟨hbot.le, (Int16.lt_iff_toInt_lt.mp h).le, le_rfl⟩

end Rectangles

section Regions

variable {A B : XFixesRegion}

theorem value_intersect (A B : XFixesRegion) : (XFixesRegion.checkedIntersect A B).value = A.intersect B := by
  simp only [XFixesRegion.checkedIntersect, XFixesRegion.intersect, value_bind, value_pure, value_mapM,
    value_checkedIntersect, filterMap_map, flatMap_def]
  rfl

theorem value_subtract (A B : XFixesRegion) : (XFixesRegion.checkedSubtract A B).value = A.subtract B := by
  simp only [XFixesRegion.checkedSubtract, XFixesRegion.subtract, value_bind, value_pure, value_foldlM, value_mapM,
    value_checkedSubtract, flatMap_def]

theorem noOverflow_intersect (hA : A.Fits) (hB : B.Fits) : NoOverflow (XFixesRegion.checkedIntersect A B) := by
  refine within_bind.mpr ⟨within_mapM.mpr fun a ha => ?_, within_pure _⟩
  exact within_bind.mpr ⟨within_mapM.mpr fun b hb => noOverflow_checkedIntersect (hA a ha) (hB b hb), within_pure _⟩

theorem noOverflow_subtract (hA : A.Fits) (hB : B.Fits) : NoOverflow (XFixesRegion.checkedSubtract A B) := by
  refine within_bind.mpr ⟨?_, within_pure _⟩
  have hfits : ∀ r ∈ A.rects, r.Fits := hA
  refine (within_foldlM (I := fun result => ∀ r ∈ result, r.Fits) (C := fun _ => True) ?_ ?_ hfits).mpr
    fun _ _ => trivial
  · intro result sub _ hresult r hr
    simp only [value_bind, value_pure, value_mapM, value_checkedSubtract, mem_flatten, mem_map] at hr
    obtain ⟨_, ⟨r', hr', rfl⟩, hr⟩ := hr
    exact subtractRect_fits (hresult r' hr') hr
  · intro result sub hsub hresult
    refine iff_of_true (within_bind.mpr ⟨within_mapM.mpr fun r hr => ?_, within_pure _⟩) trivial
    exact noOverflow_checkedSubtract (hresult r hr) (hB sub hsub)

theorem Inside.trans {r s t : Box Int} (h : r.Inside s) (h' : s.Inside t) : r.Inside t :=
  ⟨⟨h'.1.1.trans h.1.1, h.1.2.trans h'.1.2⟩, h'.2.1.trans h.2.1, h.2.2.trans h'.2.2⟩

theorem intersect_inside (hA : A.Fits) (hB : B.Fits) {r : RegionRect} (hr : r ∈ (A.intersect B).rects) :
    ∃ a ∈ A.rects, ∃ b ∈ B.rects, r.box.Inside a.box ∧ r.box.Inside b.box := by
  obtain ⟨a, ha, hr⟩ := mem_flatMap.mp hr
  obtain ⟨b, hb, hr⟩ := mem_filterMap.mp hr
  have hbox := intersect_sides a b
  rw [hr, sides_eq_box (hA a ha), sides_eq_box (hB b hb)] at hbox
  split at hbox
  · rw [Option.some.inj hbox]
    exact ⟨a, ha, b, hb, ⟨⟨le_max_left _ _, min_le_left _ _⟩, le_max_left _ _, min_le_left _ _⟩,
      ⟨le_max_right _ _, min_le_right _ _⟩, le_max_right _ _, min_le_right _ _⟩
  · cases hbox

theorem subtract_inside {b : Box Int} (hA : A.Fits) (h : ∀ r ∈ A.rects, r.box.Inside b) (B : XFixesRegion) :
    ∀ r ∈ (A.subtract B).rects, r.box.Inside b := by
  obtain ⟨subs⟩ := B
  induction subs generalizing A with
  | nil => exact h
  | cons sub subs ih =>
    refine @ih ⟨A.rects.flatMap fun r => r.subtractRect sub⟩ (fun f hf => ?_) fun f hf => ?_
    · obtain ⟨r, hr, hf⟩ := mem_flatMap.mp hf
      exact subtractRect_fits (hA r hr) hf
    · obtain ⟨r, hr, hf⟩ := mem_flatMap.mp hf
      have hcut := subtractRect_sides (hA r hr) sub ▸ mem_map_of_mem hf
      exact Inside.trans (inside_of_mem_cut hcut) (h r hr)

theorem fits_single {bounds : RegionRect} (h : bounds.Fits) : (XFixesRegion.mk [bounds]).Fits :=
  fun _ hr => mem_singleton.mp hr ▸ h

end Regions

section Extents

variable {A : XFixesRegion} {r : RegionRect} {boxes : List (Box Int)}

theorem value_extents (A : XFixesRegion) : (XFixesRegion.checkedExtents A).value = A.extents := by
  rw [XFixesRegion.checkedExtents, value_ite, value_checkedBetween]
  rfl

/-- The sides that the extents are taken over: the far ones are saturating sums. -/
def reachBox (r : RegionRect) : Box Int :=
  ⟨r.x.toInt, r.y.toInt, (saturatingAdd r.x r.width.toInt16).toInt, (saturatingAdd r.y r.height.toInt16).toInt⟩

def Small (b : Box Int) : Prop := b.right - b.left ≤ 32767 ∧ b.bottom - b.top ≤ 32767

theorem foldl_extend_reachBox (rects : List RegionRect) (e : Edges) :
    (rects.foldl Edges.extend e).box = (rects.map reachBox).foldl Box.join e.box := by
  induction rects generalizing e with
  | nil => rfl
  | cons r rects ih =>
    have hextend : (e.extend r).box = e.box.join (reachBox r) := by
      simp only [Edges.extend, Edges.box, Box.join, toInt_max, toInt_min, reachBox]
    rw [foldl_cons, ih, hextend]
    rfl

theorem saturatingAdd_between {x : Int16} {w : UInt16} (hw : w.toNat ≤ 32767) :
    x.toInt ≤ (saturatingAdd x w.toInt16).toInt ∧ (saturatingAdd x w.toInt16).toInt ≤ x.toInt + w.toNat := by
  have hwd := toInt_toInt16 hw
  by_cases hfit : x.toInt + w.toInt16.toInt ≤ 32767
  · rw [toInt_saturatingAdd hfit (by omega), hwd]
    omega
  · have hx : x.toInt ≤ 32767 := Int16.toInt_le x
    have hmax : saturatingAdd x w.toInt16 = Int16.maxValue := by
      rw [saturatingAdd, Int16.ofIntClamp]
      split
      · split
        · next hle => exact absurd hle hfit
        · rfl
      · next hlow =>
        rw [Int16.toInt_minValue] at hlow
        omega
    have hval : Int16.maxValue.toInt = 32767 := rfl
    rw [hmax, hval]
    omega

/-- Boxes of `i16` sides: the smallest box around them is as narrow as any two of them are. -/
theorem foldl_join_narrow {k : Int} (hk : 0 ≤ k)
    (hsides : ∀ b ∈ boxes, (b.left ≤ 32767 ∧ -32768 ≤ b.right ∧ b.right ≤ 32767) ∧
      b.top ≤ 32767 ∧ -32768 ≤ b.bottom ∧ b.bottom ≤ 32767) (hne : boxes ≠ []) :
    ((boxes.foldl Box.join noEdges.box).right - (boxes.foldl Box.join noEdges.box).left ≤ k ∧
      (boxes.foldl Box.join noEdges.box).bottom - (boxes.foldl Box.join noEdges.box).top ≤ k) ↔
      ∀ b ∈ boxes, ∀ c ∈ boxes, c.right - b.left ≤ k ∧ c.bottom - b.top ≤ k := by
  obtain ⟨hinit, hall⟩ := (inside_foldl_join boxes).mp (Box.inside_rfl (r := boxes.foldl Box.join noEdges.box))
  have hins := fun t => @inside_foldl_join Int _ noEdges.box t boxes
  generalize boxes.foldl Box.join noEdges.box = F at hinit hall hins ⊢
  have hfar : noEdges.box = ⟨32767, 32767, -32768, -32768⟩ := rfl
  rw [hfar] at hinit hins
  constructor
  · intro h b hb c hc
    obtain ⟨⟨hleft, -⟩, htop, -⟩ := hall b hb
    obtain ⟨⟨-, hright⟩, -, hbot⟩ := hall c hc
    omega
  · intro h
    obtain ⟨⟨-, hright⟩, -, hbot⟩ := hinit
    dsimp only at hright hbot
    -- no box begins further left, or higher, than `k` before the far side of another one
    have hnear : ∀ c ∈ boxes, c.right - k ≤ F.left ∧ c.bottom - k ≤ F.top := by
      intro c hc
      have hc' := hsides c hc
      have ht := (hins ⟨c.right - k, c.bottom - k, F.right, F.bottom⟩).mpr ⟨?_, fun b hb => ?_⟩
      · exact ⟨ht.1.1, ht.2.1⟩
      · constructor <;> dsimp only <;> omega
      · obtain ⟨⟨-, hright'⟩, -, hbot'⟩ := hall b hb
        have hpair := h b hb c hc
        constructor <;> dsimp only <;> omega
    obtain ⟨c, hc⟩ := exists_mem_of_ne_nil _ hne
    have hc' := hnear c hc
    have hcsides := hsides c hc
    have ht := (hins ⟨F.left, F.top, F.left + k, F.top + k⟩).mpr ⟨?_, fun b hb => ?_⟩
    · obtain ⟨⟨-, hx⟩, -, hy⟩ := ht
      dsimp only at hx hy
      omega
    · have hinit' := hall c hc
      obtain ⟨⟨hleft, -⟩, htop, -⟩ := hinit'
      constructor <;> dsimp only <;> omega
    · obtain ⟨⟨hleft, -⟩, htop, -⟩ := hall b hb
      have hnear' := hnear b hb
      constructor <;> dsimp only <;> omega

theorem reachBox_inside (hw : r.width.toNat ≤ 32767) (hh : r.height.toNat ≤ 32767) :
    (reachBox r).Upright ∧ (reachBox r).Inside r.box := by
  have hx := saturatingAdd_between (x := r.x) hw
  have hy := saturatingAdd_between (x := r.y) hh
  exact ⟨⟨hx.1, hy.1⟩, ⟨le_rfl, hx.2⟩, le_rfl, hy.2⟩

theorem reachBox_eq (h : r.Fits) : reachBox r = r.box := by
  obtain ⟨hw, hh, hx, hy⟩ := h
  have hwd := toInt_toInt16 hw
  have hht := toInt_toInt16 hh
  rw [reachBox, toInt_saturatingAdd (by omega) (by omega), toInt_saturatingAdd (by omega) (by omega), hwd, hht]
  rfl

theorem reachBox_sides (r : RegionRect) :
    ((reachBox r).left ≤ 32767 ∧ -32768 ≤ (reachBox r).right ∧ (reachBox r).right ≤ 32767) ∧
      (reachBox r).top ≤ 32767 ∧ -32768 ≤ (reachBox r).bottom ∧ (reachBox r).bottom ≤ 32767 :=
  ⟨⟨Int16.toInt_le _, Int16.le_toInt _, Int16.toInt_le _⟩, Int16.toInt_le _, Int16.le_toInt _, Int16.toInt_le _⟩

/-- The extents of rectangles that are not wider than `i16` overflow exactly where two
of them are too far apart. -/
theorem noOverflow_extents_iff (hsizes : ∀ r ∈ A.rects, r.width.toNat ≤ 32767 ∧ r.height.toNat ≤ 32767) :
    NoOverflow (XFixesRegion.checkedExtents A) ↔ ∀ r ∈ A.rects, ∀ s ∈ A.rects,
      (reachBox s).right - (reachBox r).left ≤ 32767 ∧ (reachBox s).bottom - (reachBox r).top ≤ 32767 := by
  obtain ⟨rects⟩ := A
  cases rects with
  | nil => exact iff_of_true (within_pure _) nofun
  | cons r rects =>
    have hbox := foldl_extend_reachBox (r :: rects) noEdges
    have hnarrow := @foldl_join_narrow ((r :: rects).map reachBox) 32767 (by omega)
      (forall_mem_map.mpr fun r _ => reachBox_sides r) (cons_ne_nil _ _)
    simp only [forall_mem_map] at hnarrow
    -- the edges are the right way round, as those of the first rectangle are
    have hupright : ((r :: rects).foldl Edges.extend noEdges).box.Upright := by
      obtain ⟨hsize, -⟩ := forall_mem_cons.mp hsizes
      obtain ⟨⟨hx, hy⟩, -⟩ := reachBox_inside hsize.1 hsize.2
      have hins := ((@inside_foldl_join Int _ noEdges.box _ ((r :: rects).map reachBox)).mp Box.inside_rfl).2
        (reachBox r) mem_cons_self
      rw [← hbox] at hins
      exact ⟨(hins.1.1.trans hx).trans hins.1.2, (hins.2.1.trans hy).trans hins.2.2⟩
    rw [← hnarrow, ← hbox]
    refine noOverflow_checkedBetween.trans ?_
    obtain ⟨hx, hy⟩ := hupright
    simp only [Edges.box] at hx hy ⊢
    unfold FitsI16
    rw [← noEdges]
    omega

theorem noOverflow_extents_of_inside {b : Box Int} (hb : Small b) (h : ∀ r ∈ A.rects, r.box.Inside b) :
    NoOverflow (XFixesRegion.checkedExtents A) := by
  obtain ⟨hbx, hby⟩ := hb
  have hsizes : ∀ r ∈ A.rects, r.width.toNat ≤ 32767 ∧ r.height.toNat ≤ 32767 := by
    intro r hr
    obtain ⟨⟨hleft, hright⟩, htop, hbot⟩ := h r hr
    simp only [RegionRect.box] at hleft hright htop hbot
    omega
  refine (noOverflow_extents_iff hsizes).mpr fun r hr s hs => ?_
  obtain ⟨⟨hleft, -⟩, htop, -⟩ := h r hr
  obtain ⟨⟨-, hright⟩, -, hbot⟩ := Inside.trans (reachBox_inside (hsizes s hs).1 (hsizes s hs).2).2 (h s hs)
  simp only [RegionRect.box] at hleft htop
  simp only [reachBox] at hright hbot ⊢
  omega

end Extents

section Builds

variable {A B : XFixesRegion} {checked : Bool}

/-- The computation ends in a build: in one that checks its arithmetic it overflows nowhere. -/
def Ends {α : Type} (checked : Bool) (x : Checked α) : Prop := checked = true → NoOverflow x

/-- The operations end and are those on the sets of points, rectangles that are apart stay
apart, and the extents of a region of rectangles with points are the least box around it. -/
structure Denotes (checked : Bool) (A B : XFixesRegion) : Prop where
  union : (A.union B).points = A.points ∪ B.points
  intersect : Ends checked (XFixesRegion.checkedIntersect A B) ∧
    (XFixesRegion.checkedIntersect A B).value.points = A.points ∩ B.points
  subtract : Ends checked (XFixesRegion.checkedSubtract A B) ∧
    (XFixesRegion.checkedSubtract A B).value.points = A.points \ B.points
  apart : A.Apart → (XFixesRegion.checkedSubtract A B).value.Apart
  invert : ∀ bounds : RegionRect, bounds.Fits → Ends checked (XFixesRegion.checkedInvert A bounds) ∧
    (XFixesRegion.checkedInvert A bounds).value.points = bounds.points \ A.points
  extents : A.rects ≠ [] → (∀ r ∈ A.rects, r.Positive) → Ends checked (XFixesRegion.checkedExtents A) ∧
    A.points ⊆ (XFixesRegion.checkedExtents A).value.points ∧
    ∀ s : Box Int, A.points ⊆ s.points → (XFixesRegion.checkedExtents A).value.points ⊆ s.points

/-- No two rectangles of a region, all with points, reach over more than 32767 columns
or rows, where the build checks its arithmetic. -/
def Narrow (checked : Bool) (A : XFixesRegion) : Prop :=
  checked = true → (∀ r ∈ A.rects, r.Positive) → ∀ r ∈ A.rects, ∀ s ∈ A.rects,
    s.box.right - r.box.left ≤ 32767 ∧ s.box.bottom - r.box.top ≤ 32767

theorem noOverflow_extents_of_fits (hA : A.Fits) : NoOverflow (XFixesRegion.checkedExtents A) ↔
    ∀ r ∈ A.rects, ∀ s ∈ A.rects, s.box.right - r.box.left ≤ 32767 ∧ s.box.bottom - r.box.top ≤ 32767 := by
  rw [noOverflow_extents_iff fun r hr => ⟨(hA r hr).width, (hA r hr).height⟩]
  refine forall₂_congr fun r hr => forall₂_congr fun s hs => ?_
  rw [reachBox_eq (hA r hr), reachBox_eq (hA s hs)]

/-- Region algebra is the algebra of the point sets exactly where the extents do not overflow. -/
theorem regionAlgebra_denotes_iff (checked : Bool) {A B : XFixesRegion} (hA : A.Fits) (hB : B.Fits) :
    Denotes checked A B ↔ Narrow checked A := by
  constructor
  · intro h hchecked hpos r hr
    have hne : A.rects ≠ [] := ne_nil_of_mem hr
    exact (noOverflow_extents_of_fits hA).mp ((h.extents hne hpos).1 hchecked) r hr
  · intro h
    refine ⟨points_union A B, ⟨fun _ => noOverflow_intersect hA hB, ?_⟩, ⟨fun _ => noOverflow_subtract hA hB, ?_⟩, ?_,
      fun bounds hbds => ⟨fun _ => noOverflow_subtract (fits_single hbds) hA, ?_⟩, fun hne hpos => ⟨?_, ?_, ?_⟩⟩
    · rw [value_intersect, points_intersect hA hB]
    · rw [value_subtract, points_subtract hA hB]
    · rw [value_subtract]
      exact apart_subtract hA hB
    · rw [XFixesRegion.checkedInvert, value_subtract]
      exact points_invert hA hbds
    · exact fun hchecked => (noOverflow_extents_of_fits hA).mpr (h hchecked hpos)
    · rw [value_extents]
      exact (extents_least hA hne hpos A.extents.box).mp subset_rfl
    · rw [value_extents]
      exact fun s => (extents_least hA hne hpos s).mpr

end Builds

def square : XFixesRegion := ⟨[⟨0, 0, 30, 30⟩]⟩

def hole : XFixesRegion := ⟨[⟨10, 10, 10, 10⟩]⟩

/-- A square and a hole in it, in a build that checks its arithmetic. -/
theorem regionAlgebra_denotes_hole : (XFixesRegion.checkedSubtract square hole).value.rects =
      [⟨0, 0, 30, 10⟩, ⟨0, 10, 10, 10⟩, ⟨20, 10, 10, 10⟩, ⟨0, 20, 30, 10⟩] ∧ Denotes true square hole := by
  refine ⟨by decide, (regionAlgebra_denotes_iff true ?_ ?_).mpr fun _ _ => ?_⟩
  · exact fits_single ⟨by decide, by decide, by decide, by decide⟩
  · exact fits_single ⟨by decide, by decide, by decide, by decide⟩
  · exact forall_mem_singleton.mpr (forall_mem_singleton.mpr (by decide))

def farApart : XFixesRegion := ⟨[⟨-32768, 0, 1, 1⟩, ⟨0, 0, 1, 1⟩]⟩

theorem extents_overflow : ¬ ∀ (checked : Bool) (A B : XFixesRegion), A.Fits → B.Fits → Denotes checked A B := by
  intro h
  have hfits : farApart.Fits := forall_mem_cons.mpr ⟨⟨by decide, by decide, by decide, by decide⟩,
    fits_single ⟨by decide, by decide, by decide, by decide⟩⟩
  have hpos : ∀ r ∈ farApart.rects, r.Positive := forall_mem_cons.mpr ⟨⟨by decide, by decide⟩,
    forall_mem_singleton.mpr ⟨by decide, by decide⟩⟩
  have hends := ((h true farApart farApart hfits hfits).extents (cons_ne_nil _ _) hpos).1 rfl
  have hspan := (noOverflow_checkedBetween.mp hends).1
  revert hspan
  decide

end X11Web.CheckedRegions
