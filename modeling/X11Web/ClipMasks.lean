import Mathlib.Data.Finite.Prod
import Mathlib.Order.Interval.Finset.Defs
import X11Web.BitMasks
import X11Web.Exposures
import X11Web.GraphicsContexts
import X11Web.PlacedMasks

namespace X11Web.ClipMasks

open HashMaps Windows Overwrites Pixels ImagePixels BitRuns List Option
open GraphicsContexts
open Exposures (checkI16_eq_some)
open HitTesting (IsI16 asI16_of_isI16)
open DrawRequests (Pixmap)
open PlacedMasks

section Bits

variable {bits : List UInt8} {w h x y x₀ y₀ : Nat}

theorem bitOf_toBitVec (x : Nat) : (bitOf x).toBitVec = BitVec.twoPow 8 (x % 8) := by
  have hbit : ∀ k < 8, ((1 : UInt8) <<< UInt8.ofNat k).toBitVec = BitVec.twoPow 8 k := by decide
  exact hbit _ (Nat.mod_lt _ (by decide))

/-- Setting the bit of one column shows in this column, and in those of the same place
in a byte. -/
theorem or_bitOf (b : UInt8) (x x₀ : Nat) :
    (b ||| bitOf x) &&& bitOf x₀ ≠ 0 ↔ b &&& bitOf x₀ ≠ 0 ∨ x % 8 = x₀ % 8 := by
  have hne : ∀ c : UInt8, c ≠ 0 ↔ c.toBitVec ≠ 0#8 := fun c => not_congr UInt8.toBitVec_inj.symm
  have hbit : ∀ x, BitMasks.IsBit (bitOf x).toBitVec := fun x =>
    ⟨⟨x % 8, Nat.mod_lt _ (by decide)⟩, bitOf_toBitVec x⟩
  have hsame : (bitOf x).toBitVec = (bitOf x₀).toBitVec ↔ x % 8 = x₀ % 8 := by
    rw [bitOf_toBitVec, bitOf_toBitVec]
    constructor
    · intro heq
      exact congrArg Fin.val (BitMasks.twoPow_injective (i := ⟨x % 8, Nat.mod_lt _ (by decide)⟩)
        (j := ⟨x₀ % 8, Nat.mod_lt _ (by decide)⟩) heq)
    · intro heq
      rw [heq]
  rw [hne, hne, ← hsame]
  exact BitMasks.has_or (hbit x) (hbit x₀)

def bitAt (stride : Nat) (bits : List UInt8) (x y : Nat) : Bool := bits.getD (y * stride + x / 8) 0 &&& bitOf x != 0

def setPixel (data : Bytes) (w stride y : Nat) (bits : List UInt8) (x : Nat) : List UInt8 :=
  if pixelSet data ((y * w + x) * 4) then
    bits.set (y * stride + x / 8) (bits.getD (y * stride + x / 8) 0 ||| bitOf x)
  else bits

theorem setPixel_length (data : Bytes) (w stride y : Nat) (bits : List UInt8) (x : Nat) :
    (setPixel data w stride y bits x).length = bits.length := by
  rw [setPixel]
  split
  · exact length_set
  · rfl

theorem bitAt_setPixel {stride : Nat} (data : Bytes) (hw : w ≤ stride * 8) (hlen : bits.length = stride * h)
    (hx : x < w) (hy : y < h) (hx₀ : x₀ < w) :
    bitAt stride (setPixel data w stride y bits x) x₀ y₀ =
      (bitAt stride bits x₀ y₀ || (decide (x = x₀ ∧ y = y₀) && pixelSet data ((y * w + x) * 4))) := by
  have hcell : x / 8 < stride := by omega
  have hfits : y * stride + x / 8 < bits.length := by
    have hrow := Nat.mul_le_mul_left stride hy
    rw [hlen, Nat.mul_comm y]
    rw [Nat.mul_succ] at hrow
    omega
  rw [setPixel]
  by_cases hset : pixelSet data ((y * w + x) * 4)
  · rw [if_pos hset, hset, Bool.and_true]
    simp only [bitAt, getD_eq_getElem?_getD, List.getElem?_set]
    by_cases hbyte : y * stride + x / 8 = y₀ * stride + x₀ / 8
    · obtain ⟨hrow, hcol⟩ := pixel_index_inj hcell (by omega : x₀ / 8 < stride) hbyte
      rw [if_pos hbyte, if_pos hfits, hbyte, getD_some, Bool.eq_iff_iff, Bool.or_eq_true, bne_iff_ne,
        bne_iff_ne, or_bitOf, decide_eq_true_eq]
      refine or_congr_right ⟨fun hmod => ⟨by omega, hrow⟩, fun hsame => by rw [hsame.1]⟩
    · have hne : ¬ (x = x₀ ∧ y = y₀) := fun hsame => hbyte (by rw [hsame.1, hsame.2])
      rw [if_neg hbyte, decide_eq_false hne, Bool.or_false]
  · rw [if_neg hset]
    simp [hset]

theorem bitAt_replicate (stride n x y : Nat) : bitAt stride (List.replicate n 0) x y = false := by
  have hzero : (List.replicate n (0 : UInt8)).getD (y * stride + x / 8) 0 = 0 := by
    rw [getD_eq_getElem?_getD, List.getElem?_replicate]
    split <;> rfl
  rw [bitAt, hzero, UInt8.zero_and]
  rfl

theorem bitAt_rows {stride : Nat} (data : Bytes) (hw : w ≤ stride * 8) (hx₀ : x₀ < w) (hy₀ : y₀ < h) :
    let row := fun bits y => (List.range w).foldl (setPixel data w stride y) bits
    ((List.range h).foldl row (List.replicate (stride * h) 0)).length = stride * h ∧
      bitAt stride ((List.range h).foldl row (List.replicate (stride * h) 0)) x₀ y₀ =
        pixelSet data ((y₀ * w + x₀) * 4) := by
  intro row
  have hlen : ∀ (bits : List UInt8) y, (row bits y).length = bits.length := fun bits y =>
    List.foldlRecOn (motive := fun bits' => bits'.length = bits.length) _ _ rfl
      fun bits' hbits' x _ => (setPixel_length data w stride y bits' x).trans hbits'
  have hrow : ∀ bits : List UInt8, bits.length = stride * h → ∀ y < h,
      bitAt stride (row bits y) x₀ y₀ =
        if y = y₀ then bitAt stride bits x₀ y₀ || pixelSet data ((y₀ * w + x₀) * 4) else bitAt stride bits x₀ y₀ := by
    intro bits hbits y hy
    have hround := fun (bits : List UInt8) (hbits : bits.length = stride * h) x (hx : x < w) =>
      @bitAt_setPixel bits w h x y x₀ y₀ stride data hw hbits hx hy hx₀
    have hkps := fun (bits : List UInt8) (hbits : bits.length = stride * h) x (_ : x < w) =>
      (setPixel_length data w stride y bits x).trans hbits
    by_cases hsame : y = y₀
    · subst hsame
      refine (part_foldl_range (r := x₀) (fun bits => bitAt stride bits x₀ y) (fun bits => bits.length = stride * h)
        hbits hkps (fun bits hbits x hx hne => ?_) (fun bits hbits hbef hx => ?_)).trans (if_pos hx₀)
      · rw [hround bits hbits x hx]
        simp [hne]
      · rw [if_pos rfl, hround bits hbits x₀ hx, hbef]
        simp
    · rw [if_neg hsame]
      refine (part_foldl_range (r := w) (v := false) (fun bits => bitAt stride bits x₀ y₀)
        (fun bits => bits.length = stride * h) hbits hkps (fun bits hbits x hx _ => ?_)
        (fun bits _ _ hlt => absurd hlt (Nat.lt_irrefl w))).trans (if_neg (Nat.lt_irrefl w))
      rw [hround bits hbits x hx]
      simp [hsame]
  refine ⟨?_, ?_⟩
  · exact List.foldlRecOn (motive := fun bits => bits.length = stride * h) _ _ length_replicate
      fun bits hbits y _ => (hlen bits y).trans hbits
  · refine (part_foldl_range (r := y₀) (fun bits => bitAt stride bits x₀ y₀) (fun bits => bits.length = stride * h)
      length_replicate (fun bits hbits y _ => (hlen bits y).trans hbits) (fun bits hbits y hy hne => ?_)
      (fun bits hbits hbef hy => ?_)).trans (if_pos hy₀)
    · rw [hrow bits hbits y hy, if_neg hne]
    · rw [hrow bits hbits y₀ hy, if_pos rfl, hbef, bitAt_replicate, Bool.false_or]

theorem isSet_eq_bitAt {bm : ClipMaskBitmap} (h : y * bm.stride + x / 8 < bm.bits.length) :
    bm.isSet y x = bitAt bm.stride bm.bits x y := by
  rw [ClipMaskBitmap.isSet, decide_eq_false (Nat.not_le.mpr h), Bool.false_or]
  rfl

end Bits

def ones (bm : ClipMaskBitmap) : Set (Int × Int) :=
  {p | (0 ≤ p.1 ∧ p.1 < bm.width.toNat) ∧ (0 ≤ p.2 ∧ p.2 < bm.height.toNat) ∧
    bm.isSet p.2.toNat p.1.toNat = true}

def pixelOnes (pix : Pixmap) : Set (Int × Int) :=
  {p | (0 ≤ p.1 ∧ p.1 < pix.width.toNat) ∧ (0 ≤ p.2 ∧ p.2 < pix.height.toNat) ∧
    pixelSet pix.framebuffer.data ((p.2.toNat * pix.width.toNat + p.1.toNat) * 4) = true}

theorem ones_resolveClipMask {pixmaps : HashMap XId Pixmap} {pixmapId : XId} {bm : ClipMaskBitmap}
    (h : resolveClipMask pixmaps pixmapId = some bm) :
    ∃ pix, pixmaps.lookup pixmapId = some pix ∧ ones bm = pixelOnes pix := by
  rw [resolveClipMask] at h
  split at h
  · exact absurd h (by simp)
  · obtain ⟨pix, hpix, rfl⟩ := map_eq_some_iff.mp h
    refine ⟨pix, hpix, Set.ext fun p => and_congr_right fun hx => and_congr_right fun hy => ?_⟩
    have hx : 0 ≤ p.1 ∧ p.1 < pix.width.toNat := hx
    have hy : 0 ≤ p.2 ∧ p.2 < pix.height.toNat := hy
    have hw : pix.width.toNat ≤ (pix.width.toNat + 7) / 8 * 8 := by omega
    obtain ⟨hlen, hbit⟩ := bitAt_rows pix.framebuffer.data hw (by omega : p.1.toNat < pix.width.toNat)
      (by omega : p.2.toNat < pix.height.toNat)
    have hrow := Nat.mul_le_mul_left ((pix.width.toNat + 7) / 8) (by omega : p.2.toNat + 1 ≤ pix.height.toNat)
    rw [Nat.mul_succ, Nat.mul_comm _ p.2.toNat] at hrow
    rw [← hbit]
    refine iff_of_eq (congrArg (· = true) (isSet_eq_bitAt ?_))
    refine Nat.lt_of_lt_of_eq ?_ hlen.symm
    show p.2.toNat * ((pix.width.toNat + 7) / 8) + p.1.toNat / 8 < (pix.width.toNat + 7) / 8 * pix.height.toNat
    omega

section Rectangles

variable {rects : List ClipRect} {bm : ClipMaskBitmap} {originX originY : Int16}

def InClipRect (r : ClipRect) (p : Int × Int) : Prop :=
  (r.x.toInt ≤ p.1 ∧ p.1 < r.x.toInt + r.width.toNat) ∧ r.y.toInt ≤ p.2 ∧ p.2 < r.y.toInt + r.height.toNat

def covered (rects : List ClipRect) : Set (Int × Int) := {p | ∃ r ∈ rects, InClipRect r p}

def admitted (rects : List ClipRect) : Set (Int × Int) := {p | clippedAway p.1 p.2 rects = false}

theorem admitted_nil : admitted [] = Set.univ := Set.eq_univ_of_forall fun _ => rfl

theorem admitted_of_ne_nil (h : rects ≠ []) : admitted rects = covered rects := by
  ext p
  show clippedAway p.1 p.2 rects = false ↔ ∃ r ∈ rects, _
  rw [clippedAway, isEmpty_eq_false_iff.mpr h, Bool.not_false, Bool.true_and, Bool.not_eq_false',
    pointInClipRects, List.any_eq_true]
  refine exists_congr fun r => and_congr_right fun _ => ?_
  rw [decide_eq_true_eq, InClipRect]
  tauto

theorem covered_finite (rects : List ClipRect) : (covered rects).Finite := by
  refine Set.Finite.subset (Set.Finite.biUnion (finite_toSet rects) fun r _ =>
    (Set.finite_Ico r.x.toInt (r.x.toInt + r.width.toNat)).prod (Set.finite_Ico r.y.toInt (r.y.toInt + r.height.toNat)))
    fun p ⟨r, hr, hx, hy⟩ => ?_
  exact Set.mem_biUnion hr ⟨hx, hy⟩

theorem ones_finite (bm : ClipMaskBitmap) : (ones bm).Finite :=
  Set.Finite.subset ((Set.finite_Ico (0 : Int) bm.width.toNat).prod (Set.finite_Ico (0 : Int) bm.height.toNat))
    fun _ hp => ⟨hp.1, hp.2.1⟩

theorem offsetRect_eq_some (clipX clipY : Int16) (r b : ClipRect) :
    offsetRect clipX clipY r = some b ↔
      (IsI16 (r.x.toInt + clipX.toInt) ∧ IsI16 (r.y.toInt + clipY.toInt)) ∧
        ⟨.ofInt (r.x.toInt + clipX.toInt), .ofInt (r.y.toInt + clipY.toInt), r.width, r.height⟩ = b := by
  simp only [offsetRect, bind_eq_some_iff, map_eq_some_iff, checkI16_eq_some]
  constructor
  · rintro ⟨_, ⟨hx, rfl⟩, _, ⟨hy, rfl⟩, rfl⟩
    exact ⟨⟨hx, hy⟩, rfl⟩
  · rintro ⟨⟨hx, hy⟩, rfl⟩
    exact ⟨_, ⟨hx, rfl⟩, _, ⟨hy, rfl⟩, rfl⟩

theorem covered_offsetRects {clipX clipY : Int16} {rects' : List ClipRect}
    (h : rects.mapM (offsetRect clipX clipY) = some rects') :
    covered rects' = PlacedMask.points ⟨some (covered rects), (clipX.toInt, clipY.toInt)⟩ := by
  obtain ⟨hfits, rfl⟩ := (Runs.mapM_eq_some_iff fun r _ b => offsetRect_eq_some clipX clipY r b).mp h
  ext p
  show (∃ r ∈ rects.map _, _) ↔ ∃ r ∈ rects, _
  simp only [List.mem_map, exists_exists_and_eq_and]
  refine exists_congr fun r => and_congr_right fun hr => ?_
  obtain ⟨hx, hy⟩ := hfits r hr
  rw [InClipRect, InClipRect, Int16.toInt_ofInt_of_le hx.1 hx.2, Int16.toInt_ofInt_of_le hy.1 hy.2, Prod.fst_sub,
    Prod.snd_sub]
  dsimp only
  omega

def runRect (originX originY : Int16) (r : Nat × Nat × Nat) : ClipRect :=
  ⟨.ofInt (asI16 r.1 + originX.toInt), .ofInt (asI16 r.2.1 + originY.toInt), .ofNat r.2.2, 1⟩

theorem toClipRects_eq_some {rects : List ClipRect} : bm.toClipRects originX originY = some rects ↔
    (∀ r ∈ bm.rowRuns, IsI16 (asI16 r.1 + originX.toInt) ∧ IsI16 (asI16 r.2.1 + originY.toInt)) ∧
      bm.rowRuns.map (runRect originX originY) = rects := by
  refine Runs.mapM_eq_some_iff fun r _ b => ?_
  simp only [bind_eq_some_iff, map_eq_some_iff, checkI16_eq_some]
  constructor
  · rintro ⟨_, ⟨hx, rfl⟩, _, ⟨hy, rfl⟩, rfl⟩
    exact ⟨⟨hx, hy⟩, rfl⟩
  · rintro ⟨⟨hx, hy⟩, rfl⟩
    exact ⟨_, ⟨hx, rfl⟩, _, ⟨hy, rfl⟩, rfl⟩

variable {r : Nat × Nat × Nat}

theorem mem_rowRuns :
    r ∈ bm.rowRuns ↔ r.2.1 < bm.height.toNat ∧ (r.1, r.2.2) ∈ runs (bm.isSet r.2.1) bm.width.toNat := by
  obtain ⟨x, y, n⟩ := r
  simp only [ClipMaskBitmap.rowRuns, List.mem_flatMap, List.mem_range, List.mem_map, Prod.mk.injEq]
  constructor
  · rintro ⟨y', hy', run, hrun, rfl, rfl, rfl⟩
    exact ⟨hy', hrun⟩
  · rintro ⟨hy, hrun⟩
    exact ⟨y, hy, _, hrun, rfl, rfl, rfl⟩

/-- There are points, and the first of each run has its place at the origin in 16
bits. -/
structure ClipFits (S : Set (Int × Int)) (origin : Int × Int) : Prop where
  nonempty : S.Nonempty
  starts : ∀ p ∈ S, (p.1 - 1, p.2) ∉ S →
    (p.1 < 2 ^ 15 ∧ IsI16 (p.1 + origin.1)) ∧ p.2 < 2 ^ 15 ∧ IsI16 (p.2 + origin.2)

theorem mem_ones_nat {x y : Nat} :
    ((x : Int), (y : Int)) ∈ ones bm ↔ (x < bm.width.toNat ∧ bm.isSet y x = true) ∧ y < bm.height.toNat := by
  simp only [ones, Set.mem_ofPred_eq, Int.toNat_natCast, Int.natCast_nonneg, true_and, Int.ofNat_lt]
  tauto

theorem exists_natCast {p : Int × Int} (h : p ∈ ones bm) : ∃ x y : Nat, p = (↑x, ↑y) :=
  ⟨p.1.toNat, p.2.toNat, Prod.ext (Int.toNat_of_nonneg h.1.1).symm (Int.toNat_of_nonneg h.2.1.1).symm⟩

theorem starts_row_iff {x y : Nat} : (((x : Int), (y : Int)) ∈ ones bm ∧ ((x : Int) - 1, (y : Int)) ∉ ones bm) ↔
    ∃ n, (x, y, n) ∈ bm.rowRuns := by
  have hbef : ((x : Int), (y : Int)) ∈ ones bm →
      (((x : Int) - 1, (y : Int)) ∉ ones bm ↔ x = 0 ∨ bm.isSet y (x - 1) = false) := by
    intro hin
    cases x with
    | zero => exact iff_of_true (fun hneg => absurd hneg.1.1 (by simp)) (Or.inl rfl)
    | succ x =>
      rw [Nat.cast_succ, add_sub_cancel_right, mem_ones_nat, Nat.add_sub_cancel, or_iff_right (Nat.succ_ne_zero x),
        ← Bool.not_eq_true]
      obtain ⟨⟨hx, -⟩, hy⟩ := mem_ones_nat.mp hin
      exact not_congr ⟨fun h => h.1.2, fun h => ⟨⟨Nat.lt_of_succ_lt hx, h⟩, hy⟩⟩
  rw [and_congr_right hbef, mem_ones_nat]
  simp only [mem_rowRuns]
  have hsts := @starts_iff (bm.isSet y) bm.width.toNat x
  constructor
  · rintro ⟨⟨⟨hx, hset⟩, hy⟩, hfst⟩
    obtain ⟨⟨_, n⟩, hr, rfl⟩ := hsts.mpr ⟨hx, hset, hfst⟩
    exact ⟨n, hy, hr⟩
  · rintro ⟨n, hy, hr⟩
    obtain ⟨hx, hset, hfst⟩ := hsts.mp ⟨_, hr, rfl⟩
    exact ⟨⟨⟨hx, hset⟩, hy⟩, hfst⟩

theorem mem_ones_iff {x y : Nat} :
    ((x : Int), (y : Int)) ∈ ones bm ↔ ∃ r ∈ bm.rowRuns, (r.1 ≤ x ∧ x < r.1 + r.2.2) ∧ y = r.2.1 := by
  rw [mem_ones_nat, ← mem_runs_iff]
  constructor
  · rintro ⟨⟨r, hr, hin⟩, hy⟩
    exact ⟨(r.1, y, r.2), mem_rowRuns.mpr ⟨hy, hr⟩, hin, rfl⟩
  · rintro ⟨r, hr, hin, rfl⟩
    obtain ⟨hy, hr⟩ := mem_rowRuns.mp hr
    exact ⟨⟨_, hr, hin⟩, hy⟩

theorem rowRuns_ne_nil_iff : bm.rowRuns ≠ [] ↔ (ones bm).Nonempty := by
  constructor
  · intro h
    obtain ⟨⟨x, y, n⟩, hr⟩ := exists_mem_of_ne_nil _ h
    exact ⟨_, (starts_row_iff.mpr ⟨n, hr⟩).1⟩
  · rintro ⟨p, hp⟩ hnil
    obtain ⟨x, y, rfl⟩ := exists_natCast hp
    obtain ⟨r, hr, -⟩ := mem_ones_iff.mp hp
    rw [hnil] at hr
    exact absurd hr (by simp)

theorem mem_runRect (hr : r ∈ bm.rowRuns)
    (hx : IsI16 (asI16 r.1 + originX.toInt)) (hy : IsI16 (asI16 r.2.1 + originY.toInt)) (p : Int × Int) :
    InClipRect (runRect originX originY r) p ↔
      (asI16 r.1 ≤ p.1 - originX.toInt ∧ p.1 - originX.toInt < asI16 r.1 + r.2.2) ∧
        p.2 - originY.toInt = asI16 r.2.1 := by
  have hfits := runsFrom_fits (mem_rowRuns.mp hr).2
  have hwd := bm.width.toNat_lt
  have hsize : (UInt16.ofNat r.2.2).toNat = r.2.2 := by
    rw [UInt16.toNat_ofNat', Nat.mod_eq_of_lt (by dsimp only at hfits; omega)]
  have hone : (1 : UInt16).toNat = 1 := rfl
  rw [InClipRect, runRect, hsize, hone, Int16.toInt_ofInt_of_le hx.1 hx.2, Int16.toInt_ofInt_of_le hy.1 hy.2]
  generalize asI16 r.1 = column
  generalize asI16 r.2.1 = line
  clear hx hy hwd hfits hsize hone
  omega

theorem isI16_of_asI16_nonneg {n : Nat} (hn : n < 2 ^ 16) (h : 0 ≤ asI16 n) : (n : Int) < 2 ^ 15 := by
  rw [asI16, Int.bmod_def] at h
  split at h <;> omega

def RunsFit (bm : ClipMaskBitmap) (originX originY : Int16) : Prop :=
  ∀ r ∈ bm.rowRuns, ((r.1 : Int) < 2 ^ 15 ∧ IsI16 (r.1 + originX.toInt)) ∧
    (r.2.1 : Int) < 2 ^ 15 ∧ IsI16 (r.2.1 + originY.toInt)

theorem clipFits_ones_iff :
    ClipFits (ones bm) (originX.toInt, originY.toInt) ↔ bm.rowRuns ≠ [] ∧ RunsFit bm originX originY := by
  constructor
  · intro h
    refine ⟨rowRuns_ne_nil_iff.mpr h.nonempty, fun r hr => ?_⟩
    obtain ⟨hin, hfst⟩ := starts_row_iff.mpr ⟨r.2.2, hr⟩
    obtain ⟨⟨hcol, hx⟩, hline, hy⟩ := h.starts _ hin hfst
    exact ⟨⟨hcol, hx⟩, hline, hy⟩
  · rintro ⟨hne, hfit⟩
    refine ⟨rowRuns_ne_nil_iff.mp hne, fun p hp hfst => ?_⟩
    obtain ⟨x, y, rfl⟩ := exists_natCast hp
    obtain ⟨n, hr⟩ := starts_row_iff.mp ⟨hp, hfst⟩
    obtain ⟨⟨hcol, hx⟩, hline, hy⟩ := hfit _ hr
    exact ⟨⟨hcol, hx⟩, hline, hy⟩

theorem RunsFit.cast (h : RunsFit bm originX originY) (hr : r ∈ bm.rowRuns) :
    asI16 r.1 = r.1 ∧ asI16 r.2.1 = r.2.1 := by
  obtain ⟨⟨hcol, -⟩, hline, -⟩ := h r hr
  have hcol' : IsI16 r.1 := ⟨by omega, hcol⟩
  have hline' : IsI16 r.2.1 := ⟨by omega, hline⟩
  exact ⟨asI16_of_isI16 hcol', asI16_of_isI16 hline'⟩

theorem runsFit_of_covered
    (hfits : ∀ r ∈ bm.rowRuns, IsI16 (asI16 r.1 + originX.toInt) ∧ IsI16 (asI16 r.2.1 + originY.toInt))
    (hcvd : covered (bm.rowRuns.map (runRect originX originY)) ⊆
      PlacedMask.points ⟨some (ones bm), (originX.toInt, originY.toInt)⟩) : RunsFit bm originX originY := by
  rintro ⟨x, y, n⟩ hr
  obtain ⟨hx, hy⟩ := hfits _ hr
  have hpos := (runsFrom_fits (mem_rowRuns.mp hr).2).1
  have hmem : (asI16 x + originX.toInt, asI16 y + originY.toInt) ∈
      PlacedMask.points ⟨some (ones bm), (originX.toInt, originY.toInt)⟩ := by
    refine hcvd ⟨_, mem_map_of_mem hr, (mem_runRect hr hx hy _).mpr ?_⟩
    dsimp only at hpos ⊢
    omega
  rw [PlacedMask.points_some, Set.mem_ofPred_eq, Prod.mk_sub_mk, add_sub_cancel_right, add_sub_cancel_right] at hmem
  simp only [ones, Set.mem_ofPred_eq] at hmem
  obtain ⟨⟨hleft, -⟩, ⟨htop, -⟩, -⟩ := hmem
  have hsize := bm.width.toNat_lt
  have hrows := bm.height.toNat_lt
  have hin := mem_ones_nat.mp (starts_row_iff.mpr ⟨n, hr⟩).1
  have hcol : (x : Int) < 2 ^ 15 := isI16_of_asI16_nonneg (by omega) hleft
  have hline : (y : Int) < 2 ^ 15 := isI16_of_asI16_nonneg (by omega) htop
  have hcol' : IsI16 x := ⟨by omega, hcol⟩
  have hline' : IsI16 y := ⟨by omega, hline⟩
  dsimp only at hx hy
  rw [asI16_of_isI16 hcol'] at hx
  rw [asI16_of_isI16 hline'] at hy
  exact ⟨⟨hcol, hx⟩, hline, hy⟩

theorem RunsFit.covered_eq (h : RunsFit bm originX originY) :
    covered (bm.rowRuns.map (runRect originX originY)) =
      PlacedMask.points ⟨some (ones bm), (originX.toInt, originY.toInt)⟩ := by
  ext p
  show (∃ r ∈ bm.rowRuns.map _, _) ↔ (p.1 - originX.toInt, p.2 - originY.toInt) ∈ ones bm
  simp only [List.mem_map, exists_exists_and_eq_and]
  have hrect : ∀ r ∈ bm.rowRuns, (InClipRect (runRect originX originY r) p ↔
      ((r.1 : Int) ≤ p.1 - originX.toInt ∧ p.1 - originX.toInt < r.1 + r.2.2) ∧ p.2 - originY.toInt = r.2.1) := by
    intro r hr
    obtain ⟨⟨-, hx⟩, -, hy⟩ := h r hr
    obtain ⟨hcol, hline⟩ := h.cast hr
    rw [← hcol] at hx
    rw [← hline] at hy
    rw [mem_runRect hr hx hy, hcol, hline]
  constructor
  · rintro ⟨r, hr, hin⟩
    obtain ⟨hrow, hline⟩ := (hrect r hr).mp hin
    have hcast : p.1 - originX.toInt = ((p.1 - originX.toInt).toNat : Int) := by omega
    rw [hline, hcast]
    exact mem_ones_iff.mpr ⟨r, hr, by omega, rfl⟩
  · intro hin
    obtain ⟨x, y, hxy⟩ := exists_natCast hin
    rw [hxy] at hin
    obtain ⟨r, hr, hrow, rfl⟩ := mem_ones_iff.mp hin
    obtain ⟨hx, hy⟩ := Prod.mk.injEq .. ▸ hxy
    refine ⟨r, hr, (hrect r hr).mpr ?_⟩
    rw [hx, hy]
    exact ⟨by omega, rfl⟩

theorem toClipRects_follows_iff :
    (∃ rects, bm.toClipRects originX originY = some rects ∧
      admitted rects = PlacedMask.points ⟨some (ones bm), (originX.toInt, originY.toInt)⟩) ↔
      ClipFits (ones bm) (originX.toInt, originY.toInt) := by
  have hadm : bm.rowRuns ≠ [] → admitted (bm.rowRuns.map (runRect originX originY)) =
      covered (bm.rowRuns.map (runRect originX originY)) := fun hne => admitted_of_ne_nil (by simpa using hne)
  rw [clipFits_ones_iff]
  constructor
  · rintro ⟨rects, hrects, hfols⟩
    obtain ⟨hfits, rfl⟩ := toClipRects_eq_some.mp hrects
    have hne : bm.rowRuns ≠ [] := by
      intro hnil
      have hemp : ones bm = ∅ := by
        rw [← Set.not_nonempty_iff_eq_empty, ← rowRuns_ne_nil_iff, not_not, hnil]
      rw [hnil, hemp, map_nil, admitted_nil, PlacedMask.points_empty] at hfols
      exact Set.empty_ne_univ hfols.symm
    exact ⟨hne, runsFit_of_covered hfits ((hadm hne).symm.trans hfols).subset⟩
  · rintro ⟨hne, hfit⟩
    have hfits : ∀ r ∈ bm.rowRuns, IsI16 (asI16 r.1 + originX.toInt) ∧ IsI16 (asI16 r.2.1 + originY.toInt) := by
      intro r hr
      rw [(hfit.cast hr).1, (hfit.cast hr).2]
      exact ⟨(hfit r hr).1.2, (hfit r hr).2.2⟩
    exact ⟨_, toClipRects_eq_some.mpr ⟨hfits, rfl⟩, (hadm hne).trans hfit.covered_eq⟩

end Rectangles

end X11Web.ClipMasks
