import X11Web.CopyArea
import X11Web.Crosses
import X11Web.HitTesting

namespace X11Web.Exposures

open Windows Pixels Drawables CopyRequests Crosses List
open HitTesting (IsI16 asI16_of_isI16)
open DrawRequests (DrawError)

variable {n : Int}

theorem checkI16_of_fits (h : IsI16 n) : checkI16 n = some n := if_pos h

theorem checkI16_of_not_fits (h : ¬ IsI16 n) : checkI16 n = none := if_neg h

theorem checkI16_eq_some {n m : Int} : checkI16 n = some m ↔ IsI16 n ∧ n = m := by
  by_cases h : IsI16 n
  · rw [checkI16_of_fits h, Option.some_inj, and_iff_right h]
  · rw [checkI16_of_not_fits h]
    simp [h]

section Axis

variable (src dst : Int16) (size srcSize : UInt16)

structure AxisInRange : Prop where
  negation : src.toInt < 0 → IsI16 (-src.toInt)
  stop : IsI16 (src.toInt + asI16 size.toNat)
  beyond : asI16 srcSize.toNat < src.toInt + asI16 size.toNat →
    IsI16 (src.toInt + asI16 size.toNat - asI16 srcSize.toNat) ∧ IsI16 (dst.toInt + asI16 size.toNat) ∧
      IsI16 (dst.toInt + asI16 size.toNat - (src.toInt + asI16 size.toNat - asI16 srcSize.toNat))

/-- The strips of one axis, where no operation overflows. -/
def strips : List (Int × Nat) :=
  (if src.toInt < 0 then [(dst.toInt, asU16 (min (-src.toInt) (asI16 size.toNat)))] else []) ++
    if asI16 srcSize.toNat < src.toInt + asI16 size.toNat then
      [(dst.toInt - src.toInt + asI16 srcSize.toNat,
        asU16 (min (src.toInt + asI16 size.toNat - asI16 srcSize.toNat) (asI16 size.toNat)))]
    else []

variable {src dst size srcSize}

theorem stripBefore_eq (h : src.toInt < 0 → IsI16 (-src.toInt)) :
    stripBefore src size =
      some (if src.toInt < 0 then [asU16 (min (-src.toInt) (asI16 size.toNat))] else []) := by
  rw [stripBefore]
  by_cases hneg : src.toInt < 0
  · rw [if_pos hneg, if_pos hneg, checkI16_of_fits (h hneg)]
    rfl
  · rw [if_neg hneg, if_neg hneg]

theorem stripBeyond_eq (h : AxisInRange src dst size srcSize) :
    stripBeyond src dst size srcSize =
      some (if asI16 srcSize.toNat < src.toInt + asI16 size.toNat then
        [(dst.toInt - src.toInt + asI16 srcSize.toNat,
          asU16 (min (src.toInt + asI16 size.toNat - asI16 srcSize.toNat) (asI16 size.toNat)))]
      else []) := by
  rw [stripBeyond, checkI16_of_fits h.stop, Option.bind_some]
  by_cases hbyd : asI16 srcSize.toNat < src.toInt + asI16 size.toNat
  · obtain ⟨hover, hstop, hpos⟩ := h.beyond hbyd
    rw [if_pos hbyd, if_pos hbyd, checkI16_of_fits hover, Option.bind_some, max_eq_left (by omega),
      checkI16_of_fits hstop, Option.bind_some, checkI16_of_fits hpos, Option.map_some]
    have hposition : dst.toInt + asI16 size.toNat - (src.toInt + asI16 size.toNat - asI16 srcSize.toNat) =
        dst.toInt - src.toInt + asI16 srcSize.toNat := by omega
    rw [hposition]
  · rw [if_neg hbyd, if_neg hbyd]

theorem axisInRange_iff :
    AxisInRange src dst size srcSize ↔
      (stripBefore src size).isSome ∧ (stripBeyond src dst size srcSize).isSome := by
  constructor
  · intro h
    rw [stripBefore_eq h.negation, stripBeyond_eq h]
    exact ⟨rfl, rfl⟩
  · rintro ⟨hbef, hbyd⟩
    refine ⟨fun hneg => ?_, ?_, fun hover => ?_⟩
    · by_contra hfits
      rw [stripBefore, if_pos hneg, checkI16_of_not_fits hfits] at hbef
      exact absurd hbef (by simp)
    · by_contra hfits
      rw [stripBeyond, checkI16_of_not_fits hfits] at hbyd
      exact absurd hbyd (by simp)
    · have hstop : IsI16 (src.toInt + asI16 size.toNat) := by
        by_contra hfits
        rw [stripBeyond, checkI16_of_not_fits hfits] at hbyd
        exact absurd hbyd (by simp)
      rw [stripBeyond, checkI16_of_fits hstop, Option.bind_some, if_pos hover] at hbyd
      by_cases hsize : IsI16 (src.toInt + asI16 size.toNat - asI16 srcSize.toNat)
      · rw [checkI16_of_fits hsize, Option.bind_some, max_eq_left (by omega)] at hbyd
        by_cases hdst : IsI16 (dst.toInt + asI16 size.toNat)
        · rw [checkI16_of_fits hdst, Option.bind_some] at hbyd
          refine ⟨hsize, hdst, ?_⟩
          by_contra hfits
          rw [checkI16_of_not_fits hfits] at hbyd
          exact absurd hbyd (by simp)
        · rw [checkI16_of_not_fits hdst] at hbyd
          exact absurd hbyd (by simp)
      · rw [checkI16_of_not_fits hsize] at hbyd
        exact absurd hbyd (by simp)

variable (src dst size srcSize)

def span (dst : Int16) (size : UInt16) : Set Int := {d | dst.toInt ≤ d ∧ d < dst.toInt + size.toNat}

def reported : Set Int := {d | ∃ s ∈ strips src dst size srcSize, s.1 ≤ d ∧ d < s.1 + s.2}

/-- The points whose source is before or beyond the source drawable. -/
def missing : Set Int :=
  {d | (dst.toInt ≤ d ∧ d < dst.toInt + size.toNat) ∧
    ¬ (0 ≤ src.toInt + (d - dst.toInt) ∧ src.toInt + (d - dst.toInt) < srcSize.toNat)}

def AxisWithin (src : Int16) (size srcSize : UInt16) : Prop :=
  if size.toNat < 2 ^ 15 then src.toInt ≤ asI16 srcSize.toNat
  else src.toInt + size.toNat - 2 ^ 16 ≤ asI16 srcSize.toNat

def AxisGone (src : Int16) (size srcSize : UInt16) : Prop :=
  src.toInt + size.toNat ≤ 0 ∨ srcSize.toNat ≤ src.toInt ∨ srcSize.toNat = 0

def AxisWhole (src : Int16) (size srcSize : UInt16) : Prop :=
  if size.toNat < 2 ^ 15 then srcSize.toNat < 2 ^ 15 → AxisGone src size srcSize else src.toInt < 0

def AxisExact (src : Int16) (size srcSize : UInt16) : Prop :=
  if size.toNat < 2 ^ 15 then
    if srcSize.toNat < 2 ^ 15 then src.toInt ≤ srcSize.toNat
    else src.toInt ≤ srcSize.toNat - 2 ^ 16 ∧ src.toInt + size.toNat ≤ 0
  else (0 ≤ src.toInt ∧ src.toInt + size.toNat ≤ srcSize.toNat) ∨ (src.toInt < 0 ∧ srcSize.toNat = 0)

variable {src dst size srcSize}

theorem asI16_toNat (n : UInt16) : asI16 n.toNat = if n.toNat < 2 ^ 15 then (n.toNat : Int) else n.toNat - 2 ^ 16 := by
  have hn := n.toNat_lt
  rw [asI16, Int.bmod_def]
  split <;> split <;> omega

theorem strip_size (hn : 0 < n) (hfits : n < 2 ^ 15) (size : UInt16) :
    (asU16 (min n (asI16 size.toNat)) : Int) = if size.toNat < 2 ^ 15 then min n size.toNat else size.toNat := by
  have hsize := size.toNat_lt
  rw [asI16_toNat, asU16]
  split
  · omega
  · rw [min_eq_right (by omega)]
    omega

theorem mem_reported (h : AxisInRange src dst size srcSize) {d : Int} : d ∈ reported src dst size srcSize ↔
    (src.toInt < 0 ∧ dst.toInt ≤ d ∧
      d < dst.toInt + if size.toNat < 2 ^ 15 then min (-src.toInt) size.toNat else size.toNat) ∨
    (asI16 srcSize.toNat < src.toInt + asI16 size.toNat ∧ dst.toInt - src.toInt + asI16 srcSize.toNat ≤ d ∧
      d < dst.toInt - src.toInt + asI16 srcSize.toNat +
        if size.toNat < 2 ^ 15 then min (src.toInt + size.toNat - asI16 srcSize.toNat) size.toNat else size.toNat) := by
  have hbef : src.toInt < 0 → (asU16 (min (-src.toInt) (asI16 size.toNat)) : Int) =
      if size.toNat < 2 ^ 15 then min (-src.toInt) size.toNat else size.toNat := fun hneg =>
    strip_size (by omega) (h.negation hneg).2 size
  have hbyd : asI16 srcSize.toNat < src.toInt + asI16 size.toNat →
      (asU16 (min (src.toInt + asI16 size.toNat - asI16 srcSize.toNat) (asI16 size.toNat)) : Int) =
      if size.toNat < 2 ^ 15 then min (src.toInt + size.toNat - asI16 srcSize.toNat) size.toNat
      else size.toNat := by
    intro hover
    rw [strip_size (by omega) (h.beyond hover).1.2 size, asI16_toNat size]
    split <;> rfl
  show (∃ s ∈ strips src dst size srcSize, s.1 ≤ d ∧ d < s.1 + s.2) ↔ _
  simp only [strips, List.mem_append, or_and_right, exists_or]
  refine or_congr ?_ ?_
  · by_cases hneg : src.toInt < 0
    · rw [if_pos hneg]
      simp only [mem_singleton, exists_eq_left, hbef hneg, hneg, true_and]
    · rw [if_neg hneg]
      simp only [not_mem_nil, false_and, exists_false, hneg]
  · by_cases hover : asI16 srcSize.toNat < src.toInt + asI16 size.toNat
    · rw [if_pos hover]
      simp only [mem_singleton, exists_eq_left, hbyd hover, hover, true_and]
    · rw [if_neg hover]
      simp only [not_mem_nil, false_and, exists_false, hover]

theorem mem_span {d : Int} : d ∈ span dst size ↔ dst.toInt ≤ d ∧ d < dst.toInt + size.toNat := Iff.rfl

theorem mem_missing {d : Int} : d ∈ missing src dst size srcSize ↔ d ∈ span dst size ∧
    ¬ (0 ≤ src.toInt + (d - dst.toInt) ∧ src.toInt + (d - dst.toInt) < srcSize.toNat) := Iff.rfl

theorem missing_subset_span : missing src dst size srcSize ⊆ span dst size := fun _ h => h.1

theorem span_nonempty (hsize : 0 < size.toNat) : (span dst size).Nonempty :=
  ⟨dst.toInt, le_rfl, by omega⟩

theorem reported_subset_iff (h : AxisInRange src dst size srcSize) (hsize : 0 < size.toNat) :
    reported src dst size srcSize ⊆ span dst size ↔ AxisWithin src size srcSize := by
  have hsrcSize := srcSize.toNat_lt
  have hsizeLt := size.toNat_lt
  have hstop := h.stop
  have hover := h.beyond
  have hall : reported src dst size srcSize ⊆ span dst size ↔ ∀ d, _ → dst.toInt ≤ d ∧ d < dst.toInt + size.toNat :=
    forall_congr' fun d => imp_congr_left (mem_reported h)
  rw [hall, AxisWithin]
  simp only [asI16_toNat, IsI16] at hstop hover ⊢
  by_cases hlarge : size.toNat < 2 ^ 15 <;> by_cases hsrcLarge : srcSize.toNat < 2 ^ 15 <;>
    simp only [hlarge, hsrcLarge, if_true, if_false] at hstop hover ⊢
  all_goals
    refine ⟨fun hsubset => ?_, fun hwithin d hd => by omega⟩
    have hfst := hsubset (dst.toInt - src.toInt + srcSize.toNat)
    have hsnd := hsubset (dst.toInt - src.toInt + (srcSize.toNat - 2 ^ 16))
    omega

theorem missing_eq_span_iff (hsize : 0 < size.toNat) :
    missing src dst size srcSize = span dst size ↔ AxisGone src size srcSize := by
  have hall : missing src dst size srcSize = span dst size ↔
      ∀ d, dst.toInt ≤ d ∧ d < dst.toInt + size.toNat →
        ¬ (0 ≤ src.toInt + (d - dst.toInt) ∧ src.toInt + (d - dst.toInt) < srcSize.toNat) := by
    rw [Set.Subset.antisymm_iff, and_iff_right missing_subset_span]
    exact forall_congr' fun d => ⟨fun hin hd => (hin hd).2, fun hout hd => ⟨hd, hout hd⟩⟩
  rw [hall, AxisGone]
  refine ⟨fun hgone => ?_, fun hgone d hd => by omega⟩
  have hfst := hgone dst.toInt
  have hleft := hgone (dst.toInt - src.toInt)
  omega

/-- Strips inside the rectangle cover it where it is missing as a whole, and more often
where a cast size turned negative. -/
theorem reported_eq_span_iff (h : AxisInRange src dst size srcSize) (hsize : 0 < size.toNat)
    (hwithin : AxisWithin src size srcSize) :
    reported src dst size srcSize = span dst size ↔ AxisWhole src size srcSize := by
  have hsrcSize := srcSize.toNat_lt
  have hstop := h.stop
  have hover := h.beyond
  have hall : reported src dst size srcSize = span dst size ↔
      ∀ d, dst.toInt ≤ d ∧ d < dst.toInt + size.toNat → d ∈ reported src dst size srcSize := by
    rw [Set.Subset.antisymm_iff, and_iff_right ((reported_subset_iff h hsize).mpr hwithin)]
    exact Iff.rfl
  rw [AxisWithin] at hwithin
  rw [hall, AxisWhole, AxisGone]
  simp only [mem_reported h]
  simp only [asI16_toNat, IsI16] at hstop hover hwithin ⊢
  by_cases hlarge : size.toNat < 2 ^ 15 <;> by_cases hsrcLarge : srcSize.toNat < 2 ^ 15 <;>
    simp only [hlarge, hsrcLarge, if_true, if_false, true_imp_iff, false_imp_iff] at hstop hover hwithin ⊢
  · refine ⟨fun hcvs => ?_, fun hgone d hd => by omega⟩
    have hfst := hcvs dst.toInt
    have hleft := hcvs (dst.toInt - src.toInt)
    omega
  · exact ⟨fun _ => trivial, fun _ d hd => by omega⟩
  · refine ⟨fun hcvs => ?_, fun hneg d hd => by omega⟩
    have hfst := hcvs dst.toInt
    omega
  · refine ⟨fun hcvs => ?_, fun hneg d hd => by omega⟩
    have hfst := hcvs dst.toInt
    omega

theorem reported_eq_missing_iff (h : AxisInRange src dst size srcSize) (hsize : 0 < size.toNat) :
    reported src dst size srcSize = missing src dst size srcSize ↔ AxisExact src size srcSize := by
  have hsrcSize := srcSize.toNat_lt
  have hsizeLt := size.toNat_lt
  have hstop := h.stop
  have hover := h.beyond
  have hneg := h.negation
  have hall : reported src dst size srcSize = missing src dst size srcSize ↔
      ∀ d, _ ↔ (dst.toInt ≤ d ∧ d < dst.toInt + size.toNat) ∧
        ¬ (0 ≤ src.toInt + (d - dst.toInt) ∧ src.toInt + (d - dst.toInt) < srcSize.toNat) :=
    Set.ext_iff.trans (forall_congr' fun d => iff_congr (mem_reported h) Iff.rfl)
  rw [hall, AxisExact]
  simp only [asI16_toNat, IsI16] at hstop hover hneg ⊢
  by_cases hlarge : size.toNat < 2 ^ 15 <;> by_cases hsrcLarge : srcSize.toNat < 2 ^ 15 <;>
    simp only [hlarge, hsrcLarge, if_true, if_false] at hstop hover hneg ⊢
  · refine ⟨fun hsame => ?_, fun hexact d => by omega⟩
    have hfst := hsame (dst.toInt - src.toInt + srcSize.toNat)
    omega
  · refine ⟨fun hsame => ?_, fun hexact d => by omega⟩
    have hfst := hsame (dst.toInt - src.toInt + (srcSize.toNat - 2 ^ 16))
    have hlast := hsame (dst.toInt + size.toNat - 1)
    omega
  · refine ⟨fun hsame => ?_, fun hexact d => by omega⟩
    have hfst := hsame (dst.toInt - src.toInt + srcSize.toNat)
    have hleft := hsame (dst.toInt - src.toInt)
    have hlast := hsame (dst.toInt + size.toNat - 1)
    have hbegin := hsame dst.toInt
    omega
  · refine ⟨fun hsame => ?_, fun hexact d => by omega⟩
    have hfst := hsame (dst.toInt - src.toInt + (srcSize.toNat - 2 ^ 16))
    have hleft := hsame (dst.toInt - src.toInt)
    have hlast := hsame (dst.toInt + size.toNat - 1)
    have hbegin := hsame dst.toInt
    omega

def AxisSilent (src : Int16) (size srcSize : UInt16) : Prop :=
  0 ≤ src.toInt ∧ src.toInt + asI16 size.toNat ≤ asI16 srcSize.toNat

theorem strips_eq_nil_iff (dst : Int16) : strips src dst size srcSize = [] ↔ AxisSilent src size srcSize := by
  rw [strips, append_eq_nil_iff, AxisSilent]
  refine and_congr ?_ ?_ <;> split <;> simp <;> omega

theorem reported_eq_empty_iff (h : AxisInRange src dst size srcSize) (hsize : 0 < size.toNat) :
    reported src dst size srcSize = ∅ ↔ AxisSilent src size srcSize := by
  constructor
  · intro hemp
    have hnot := fun d => Set.eq_empty_iff_forall_notMem.mp hemp d
    simp only [mem_reported h] at hnot
    have hbef := hnot dst.toInt
    have hbyd := hnot (dst.toInt - src.toInt + asI16 srcSize.toNat)
    rw [AxisSilent]
    simp only [asI16_toNat] at hbef hbyd ⊢
    by_cases hlarge : size.toNat < 2 ^ 15 <;> by_cases hsrcLarge : srcSize.toNat < 2 ^ 15 <;>
      simp only [hlarge, hsrcLarge, if_true, if_false] at hbef hbyd ⊢ <;> omega
  · intro hsil
    rw [reported, (strips_eq_nil_iff dst).mpr hsil]
    simp

theorem span_of_size_zero (hsize : size.toNat = 0) : span dst size = ∅ := by
  ext d
  simp only [span, hsize, Set.mem_empty_iff_false, iff_false]
  show ¬ (_ ∧ _)
  omega

/-- The strips begin at positions from 0 on, those of the other axis included. -/
def AxisPlaced (src dst : Int16) (size srcSize : UInt16) (other : Int16) : Prop :=
  (src.toInt < 0 → 0 ≤ dst.toInt ∧ 0 ≤ other.toInt) ∧
    (asI16 srcSize.toNat < src.toInt + asI16 size.toNat →
      0 ≤ dst.toInt - src.toInt + asI16 srcSize.toNat ∧ 0 ≤ other.toInt)

theorem mem_strips {s : Int × Nat} : s ∈ strips src dst size srcSize ↔
    (src.toInt < 0 ∧ s = (dst.toInt, asU16 (min (-src.toInt) (asI16 size.toNat)))) ∨
      (asI16 srcSize.toNat < src.toInt + asI16 size.toNat ∧
        s = (dst.toInt - src.toInt + asI16 srcSize.toNat,
          asU16 (min (src.toInt + asI16 size.toNat - asI16 srcSize.toNat) (asI16 size.toNat)))) := by
  rw [strips, List.mem_append]
  refine or_congr ?_ ?_ <;> split <;> simp [*]

theorem axisPlaced_iff {other : Int16} : AxisPlaced src dst size srcSize other ↔
    ∀ s ∈ strips src dst size srcSize, 0 ≤ s.1 ∧ 0 ≤ other.toInt := by
  simp only [mem_strips, AxisPlaced]
  constructor
  · rintro ⟨hbef, hbyd⟩ s (⟨hneg, rfl⟩ | ⟨hover, rfl⟩)
    · exact hbef hneg
    · exact hbyd hover
  · exact fun h => ⟨fun hneg => h _ (.inl ⟨hneg, rfl⟩), fun hover => h _ (.inr ⟨hover, rfl⟩)⟩

theorem strip_inRange (h : AxisInRange src dst size srcSize) (hsize : 0 < size.toNat) {s : Int × Nat}
    (hs : s ∈ strips src dst size srcSize) : IsI16 s.1 ∧ 0 < s.2 := by
  have hsizeLt := size.toNat_lt
  rcases mem_strips.mp hs with ⟨hneg, rfl⟩ | ⟨hover, rfl⟩
  · have hlen := strip_size (by omega) (h.negation hneg).2 size
    refine ⟨⟨dst.le_toInt, dst.toInt_lt⟩, ?_⟩
    dsimp only
    split at hlen <;> omega
  · obtain ⟨hexcess, -, hpos⟩ := h.beyond hover
    have hlen := strip_size (by omega) hexcess.2 size
    refine ⟨?_, ?_⟩
    · rw [IsI16] at hpos ⊢
      dsimp only
      omega
    · dsimp only
      split at hlen <;> omega

theorem asU16_of_neg (hn : IsI16 n) (hneg : n < 0) : (asU16 n : Int) = n + 2 ^ 16 := by
  rw [IsI16] at hn
  rw [asU16]
  omega

theorem asU16_of_nonneg (hn : IsI16 n) (hpos : 0 ≤ n) : (asU16 n : Int) = n := by
  rw [IsI16] at hn
  rw [asU16]
  omega

theorem corner_nonneg (hcor : (asU16 dst.toInt : Int) ∈ span dst size) : 0 ≤ dst.toInt := by
  by_contra hneg
  have hsizeLt := size.toNat_lt
  rw [asU16_of_neg ⟨dst.le_toInt, dst.toInt_lt⟩ (by omega), mem_span] at hcor
  omega

/-- A strip that begins before 0 is sent beyond the rectangle. -/
theorem strip_nonneg (h : AxisInRange src dst size srcSize) (hsize : 0 < size.toNat) {s : Int × Nat}
    (hs : s ∈ strips src dst size srcSize) (hfst : (asU16 s.1 : Int) ∈ span dst size)
    (hlast : (asU16 s.1 + s.2 - 1 : Int) ∈ span dst size) : 0 ≤ s.1 := by
  by_contra hneg
  rw [asU16_of_neg (strip_inRange h hsize hs).1 (by omega), mem_span] at hfst hlast
  have hsizeLt := size.toNat_lt
  have hsrcSize := srcSize.toNat_lt
  have hsrc := src.toInt_lt
  rcases mem_strips.mp hs with ⟨-, rfl⟩ | ⟨hover, heq⟩
  · dsimp only at hfst
    omega
  · obtain ⟨hpos, hlen⟩ := Prod.ext_iff.mp heq
    have hexcess := (h.beyond hover).1
    have hstrip := strip_size (by omega) hexcess.2 size
    dsimp only at hpos hlen
    rw [← hlen] at hstrip
    simp only [IsI16, asI16_toNat] at hover hexcess hpos hstrip
    split at hstrip <;> omega

end Axis

section Plane

def InRect (r : Rect) (p : Int × Int) : Prop :=
  (r.x ≤ p.1 ∧ p.1 < r.x + r.width) ∧ r.y ≤ p.2 ∧ p.2 < r.y + r.height

variable (req : CopyAreaRequest) (srcW srcH : UInt16)

/-- The destination points whose source point is outside the source drawable. -/
def missingPoints : Set (Int × Int) :=
  {p | ((req.dstX.toInt ≤ p.1 ∧ p.1 < req.dstX.toInt + req.width.toNat) ∧
      (req.dstY.toInt ≤ p.2 ∧ p.2 < req.dstY.toInt + req.height.toNat)) ∧
    ¬ ((0 ≤ req.srcX.toInt + (p.1 - req.dstX.toInt) ∧ req.srcX.toInt + (p.1 - req.dstX.toInt) < srcW.toNat) ∧
      (0 ≤ req.srcY.toInt + (p.2 - req.dstY.toInt) ∧ req.srcY.toInt + (p.2 - req.dstY.toInt) < srcH.toNat))}

variable {req srcW srcH}

theorem missingPoints_eq_cross : missingPoints req srcW srcH =
    cross (span req.dstX req.width) (missing req.srcX req.dstX req.width srcW) (span req.dstY req.height)
      (missing req.srcY req.dstY req.height srcH) := by
  ext p
  rw [mem_cross, mem_missing, mem_missing, mem_span, mem_span]
  show (_ ∧ _) ∧ ¬ (_ ∧ _) ↔ _
  tauto

theorem mem_rects {x y : Int} {w h : Nat} {left top : List Nat} {right bottom : List (Int × Nat)} {r : Rect} :
    r ∈ left.map (fun n => (⟨x, y, n, h⟩ : Rect)) ++ top.map (fun n => (⟨x, y, w, n⟩ : Rect)) ++
        right.map (fun s => (⟨s.1, y, s.2, h⟩ : Rect)) ++ bottom.map (fun s => (⟨x, s.1, w, s.2⟩ : Rect)) ↔
      (r.x, r.width) ∈ left.map (x, ·) ++ right ∧ r.y = y ∧ r.height = h ∨
        (r.x = x ∧ r.width = w) ∧ (r.y, r.height) ∈ top.map (y, ·) ++ bottom := by
  obtain ⟨rx, ry, rw, rh⟩ := r
  simp only [List.mem_append, List.mem_map, Rect.mk.injEq, Prod.mk.injEq]
  constructor
  · rintro (((⟨n, hn, rfl, rfl, rfl, rfl⟩ | ⟨n, hn, rfl, rfl, rfl, rfl⟩) | ⟨s, hs, rfl, rfl, rfl, rfl⟩) |
      ⟨s, hs, rfl, rfl, rfl, rfl⟩)
    · exact .inl ⟨.inl ⟨n, hn, rfl, rfl⟩, rfl, rfl⟩
    · exact .inr ⟨⟨rfl, rfl⟩, .inl ⟨n, hn, rfl, rfl⟩⟩
    · exact .inl ⟨.inr hs, rfl, rfl⟩
    · exact .inr ⟨⟨rfl, rfl⟩, .inr hs⟩
  · rintro (⟨⟨n, hn, rfl, rfl⟩ | hs, rfl, rfl⟩ | ⟨⟨rfl, rfl⟩, ⟨n, hn, rfl, rfl⟩ | hs⟩)
    · exact .inl (.inl (.inl ⟨n, hn, rfl, rfl, rfl, rfl⟩))
    · exact .inl (.inr ⟨_, hs, rfl, rfl, rfl, rfl⟩)
    · exact .inl (.inl (.inr ⟨n, hn, rfl, rfl, rfl, rfl⟩))
    · exact .inr ⟨_, hs, rfl, rfl, rfl, rfl⟩

theorem strips_eq_append (src dst : Int16) (size srcSize : UInt16) {left : List Nat} {right : List (Int × Nat)}
    (h : AxisInRange src dst size srcSize) (hleft : stripBefore src size = some left)
    (hright : stripBeyond src dst size srcSize = some right) :
    strips src dst size srcSize = left.map (dst.toInt, ·) ++ right := by
  rw [stripBefore_eq h.negation] at hleft
  rw [stripBeyond_eq h] at hright
  rw [strips, ← Option.some.inj hleft, ← Option.some.inj hright]
  split <;> rfl

/-- The rectangles are the strips of the columns and those of the rows, as long as the
other side of the copy. -/
theorem mem_exposedRects (hx : AxisInRange req.srcX req.dstX req.width srcW)
    (hy : AxisInRange req.srcY req.dstY req.height srcH) :
    ∃ rects, exposedRects req srcW srcH = some rects ∧ ∀ r, r ∈ rects ↔
      (r.x, r.width) ∈ strips req.srcX req.dstX req.width srcW ∧ r.y = req.dstY.toInt ∧ r.height = req.height.toNat ∨
        (r.x = req.dstX.toInt ∧ r.width = req.width.toNat) ∧
          (r.y, r.height) ∈ strips req.srcY req.dstY req.height srcH := by
  obtain ⟨⟨left, hleft⟩, right, hright⟩ := (axisInRange_iff.mp hx).imp Option.isSome_iff_exists.mp
    Option.isSome_iff_exists.mp
  obtain ⟨⟨top, htop⟩, bottom, hbot⟩ := (axisInRange_iff.mp hy).imp Option.isSome_iff_exists.mp
    Option.isSome_iff_exists.mp
  rw [strips_eq_append req.srcX req.dstX req.width srcW hx hleft hright,
    strips_eq_append req.srcY req.dstY req.height srcH hy htop hbot, exposedRects, hleft, htop, hright, hbot]
  exact ⟨_, rfl, fun r => mem_rects⟩

section Rects

variable {rects : List Rect} (hrects : ∀ r, r ∈ rects ↔
  (r.x, r.width) ∈ strips req.srcX req.dstX req.width srcW ∧ r.y = req.dstY.toInt ∧ r.height = req.height.toNat ∨
    (r.x = req.dstX.toInt ∧ r.width = req.width.toNat) ∧ (r.y, r.height) ∈ strips req.srcY req.dstY req.height srcH)

include hrects

theorem rects_eq_nil_iff :
    rects = [] ↔ AxisSilent req.srcX req.width srcW ∧ AxisSilent req.srcY req.height srcH := by
  rw [← strips_eq_nil_iff req.dstX, ← strips_eq_nil_iff req.dstY]
  simp only [eq_nil_iff_forall_not_mem]
  constructor
  · exact fun h => ⟨fun s hs => h ⟨s.1, _, s.2, _⟩ ((hrects _).mpr (.inl ⟨hs, rfl, rfl⟩)),
      fun s hs => h ⟨_, s.1, _, s.2⟩ ((hrects _).mpr (.inr ⟨⟨rfl, rfl⟩, hs⟩))⟩
  · rintro ⟨hcols, hrows⟩ r hr
    rcases (hrects r).mp hr with ⟨hs, -⟩ | ⟨-, hs⟩
    · exact hcols _ hs
    · exact hrows _ hs

theorem rects_points : {p | ∃ r ∈ rects, InRect r p} =
    cross (span req.dstX req.width) (reported req.srcX req.dstX req.width srcW) (span req.dstY req.height)
      (reported req.srcY req.dstY req.height srcH) := by
  ext p
  rw [mem_cross]
  constructor
  · rintro ⟨⟨x, y, w, h⟩, hr, hp⟩
    rcases (hrects _).mp hr with ⟨hs, rfl, rfl⟩ | ⟨⟨rfl, rfl⟩, hs⟩
    · exact .inl ⟨⟨_, hs, hp.1⟩, hp.2⟩
    · exact .inr ⟨hp.1, _, hs, hp.2⟩
  · rintro (⟨⟨s, hs, hx⟩, hy⟩ | ⟨hx, s, hs, hy⟩)
    · exact ⟨⟨s.1, _, s.2, _⟩, (hrects _).mpr (.inl ⟨hs, rfl, rfl⟩), hx, hy⟩
    · exact ⟨⟨_, s.1, _, s.2⟩, (hrects _).mpr (.inr ⟨⟨rfl, rfl⟩, hs⟩), hx, hy⟩

theorem rects_placed_iff : (∀ r ∈ rects, 0 ≤ r.x ∧ 0 ≤ r.y) ↔
    AxisPlaced req.srcX req.dstX req.width srcW req.dstY ∧ AxisPlaced req.srcY req.dstY req.height srcH req.dstX := by
  rw [axisPlaced_iff, axisPlaced_iff]
  constructor
  · exact fun h => ⟨fun s hs => h ⟨s.1, _, s.2, _⟩ ((hrects _).mpr (.inl ⟨hs, rfl, rfl⟩)),
      fun s hs => (h ⟨_, s.1, _, s.2⟩ ((hrects _).mpr (.inr ⟨⟨rfl, rfl⟩, hs⟩))).symm⟩
  · rintro ⟨hcols, hrows⟩ ⟨x, y, w, h⟩ hr
    rcases (hrects _).mp hr with ⟨hs, rfl, rfl⟩ | ⟨⟨rfl, rfl⟩, hs⟩
    · exact hcols _ hs
    · exact (hrows _ hs).symm

variable (hx : AxisInRange req.srcX req.dstX req.width srcW) (hy : AxisInRange req.srcY req.dstY req.height srcH)
  (hw : 0 < req.width.toNat) (hh : 0 < req.height.toNat)

include hx hy hw hh

theorem rects_inRange {r : Rect} (hr : r ∈ rects) : (IsI16 r.x ∧ 0 < r.width) ∧ IsI16 r.y ∧ 0 < r.height := by
  obtain ⟨x, y, w, h⟩ := r
  rcases (hrects _).mp hr with ⟨hs, rfl, rfl⟩ | ⟨⟨rfl, rfl⟩, hs⟩
  · exact ⟨strip_inRange hx hw hs, ⟨req.dstY.le_toInt, req.dstY.toInt_lt⟩, hh⟩
  · exact ⟨⟨⟨req.dstX.le_toInt, req.dstX.toInt_lt⟩, hw⟩, strip_inRange hy hh hs⟩

/-- What is sent for a rectangle lies within the copy only if its corner is not before 0. -/
theorem rects_placed (hwithin : ∀ r ∈ rects, ∀ p, InRect (sentRect r) p →
    p.1 ∈ span req.dstX req.width ∧ p.2 ∈ span req.dstY req.height) : ∀ r ∈ rects, 0 ≤ r.x ∧ 0 ≤ r.y := by
  rintro ⟨x, y, w, h⟩ hr
  obtain ⟨⟨-, hwd⟩, -, hht⟩ := rects_inRange hrects hx hy hw hh hr
  dsimp only at hwd hht
  have hfst := hwithin _ hr (asU16 x, asU16 y) (by simp only [InRect, sentRect]; omega)
  have hlast := hwithin _ hr (asU16 x + w - 1, asU16 y + h - 1) (by simp only [InRect, sentRect]; omega)
  rcases (hrects _).mp hr with ⟨hs, rfl, rfl⟩ | ⟨⟨rfl, rfl⟩, hs⟩
  · exact ⟨strip_nonneg hx hw hs hfst.1 hlast.1, corner_nonneg hfst.2⟩
  · exact ⟨corner_nonneg hfst.1, strip_nonneg hy hh hs hfst.2 hlast.2⟩

theorem sent_points (hplcd : ∀ r ∈ rects, 0 ≤ r.x ∧ 0 ≤ r.y) :
    {p | ∃ r ∈ rects, InRect (sentRect r) p} = {p | ∃ r ∈ rects, InRect r p} := by
  ext p
  refine exists_congr fun r => and_congr_right fun hr => ?_
  obtain ⟨⟨hcol, -⟩, hrow, -⟩ := rects_inRange hrects hx hy hw hh hr
  rw [InRect, InRect, sentRect, asU16_of_nonneg hcol (hplcd r hr).1, asU16_of_nonneg hrow (hplcd r hr).2]

end Rects

theorem exposedRects_isSome : (exposedRects req srcW srcH).isSome ↔
    AxisInRange req.srcX req.dstX req.width srcW ∧ AxisInRange req.srcY req.dstY req.height srcH := by
  refine ⟨fun h => ?_, fun h => ?_⟩
  · rw [axisInRange_iff, axisInRange_iff]
    rw [exposedRects] at h
    cases hleft : stripBefore req.srcX req.width with
    | none => simp [hleft] at h
    | some left =>
      cases htop : stripBefore req.srcY req.height with
      | none => simp [hleft, htop] at h
      | some top =>
        cases hright : stripBeyond req.srcX req.dstX req.width srcW with
        | none => simp [hleft, htop, hright] at h
        | some right =>
          cases hbot : stripBeyond req.srcY req.dstY req.height srcH with
          | none => simp [hleft, htop, hright, hbot] at h
          | some bottom => simp
  · obtain ⟨rects, hrects, -⟩ := mem_exposedRects h.1 h.2
    rw [hrects]
    rfl

variable (req srcW srcH) in
/-- Both axes are in range, no strip begins before 0, and the strips are those that are
missing: on each axis alone, or since either fill the rectangle. An empty rectangle has
no strip. -/
structure ExposesExactly : Prop where
  columns : AxisInRange req.srcX req.dstX req.width srcW
  rows : AxisInRange req.srcY req.dstY req.height srcH
  empty : req.width.toNat = 0 ∨ req.height.toNat = 0 →
    AxisSilent req.srcX req.width srcW ∧ AxisSilent req.srcY req.height srcH
  placed : 0 < req.width.toNat → 0 < req.height.toNat →
    AxisPlaced req.srcX req.dstX req.width srcW req.dstY ∧ AxisPlaced req.srcY req.dstY req.height srcH req.dstX
  exact : 0 < req.width.toNat → 0 < req.height.toNat →
    (AxisExact req.srcX req.width srcW ∧ AxisExact req.srcY req.height srcH) ∨
      (AxisWithin req.srcX req.width srcW ∧ AxisWithin req.srcY req.height srcH) ∧
        (AxisWhole req.srcX req.width srcW ∨ AxisWhole req.srcY req.height srcH) ∧
        (AxisGone req.srcX req.width srcW ∨ AxisGone req.srcY req.height srcH)

theorem points_eq_missing_iff (hx : AxisInRange req.srcX req.dstX req.width srcW)
    (hy : AxisInRange req.srcY req.dstY req.height srcH) (hw : 0 < req.width.toNat) (hh : 0 < req.height.toNat) :
    cross (span req.dstX req.width) (reported req.srcX req.dstX req.width srcW) (span req.dstY req.height)
        (reported req.srcY req.dstY req.height srcH) = missingPoints req srcW srcH ↔
      (AxisExact req.srcX req.width srcW ∧ AxisExact req.srcY req.height srcH) ∨
        (AxisWithin req.srcX req.width srcW ∧ AxisWithin req.srcY req.height srcH) ∧
          (AxisWhole req.srcX req.width srcW ∨ AxisWhole req.srcY req.height srcH) ∧
          (AxisGone req.srcX req.width srcW ∨ AxisGone req.srcY req.height srcH) := by
  rw [missingPoints_eq_cross, cross_eq_cross_iff (span_nonempty hw) (span_nonempty hh) missing_subset_span
    missing_subset_span, reported_eq_missing_iff hx hw, reported_eq_missing_iff hy hh,
    reported_subset_iff hx hw, reported_subset_iff hy hh, missing_eq_span_iff hw, missing_eq_span_iff hh]
  refine or_congr_right (and_congr_right fun hwithin => ?_)
  rw [reported_eq_span_iff hx hw hwithin.1, reported_eq_span_iff hy hh hwithin.2]

theorem rects_exact_iff {rects : List Rect} (hrects : exposedRects req srcW srcH = some rects) :
    ({p | ∃ r ∈ rects, InRect (sentRect r) p} = missingPoints req srcW srcH ∧
        (rects = [] ↔ missingPoints req srcW srcH = ∅)) ↔
      ExposesExactly req srcW srcH := by
  obtain ⟨hx, hy⟩ := exposedRects_isSome.mp (Option.isSome_of_eq_some hrects)
  obtain ⟨rects', hrects', hmem⟩ := mem_exposedRects hx hy
  obtain rfl : rects' = rects := Option.some.inj (hrects'.symm.trans hrects)
  by_cases hemp : req.width.toNat = 0 ∨ req.height.toNat = 0
  · have hmissing : missingPoints req srcW srcH = ∅ := by
      rw [missingPoints_eq_cross, cross, Set.union_empty_iff, Set.prod_eq_empty_iff, Set.prod_eq_empty_iff]
      rcases hemp with hzero | hzero
      · exact ⟨.inl (Set.subset_eq_empty missing_subset_span (span_of_size_zero hzero)),
          .inl (span_of_size_zero hzero)⟩
      · exact ⟨.inr (span_of_size_zero hzero),
          .inr (Set.subset_eq_empty missing_subset_span (span_of_size_zero hzero))⟩
    rw [hmissing, rects_eq_nil_iff hmem]
    constructor
    · exact fun h => ⟨hx, hy, fun _ => h.2.mpr rfl, by omega, by omega⟩
    · intro h
      have hnil := (rects_eq_nil_iff hmem).mpr (h.empty hemp)
      exact ⟨by simp [hnil], fun _ => rfl, fun _ => h.empty hemp⟩
  · have hw : 0 < req.width.toNat := by omega
    have hh : 0 < req.height.toNat := by omega
    have hpts := rects_points hmem
    constructor
    · rintro ⟨hsent, -⟩
      have hplcd := rects_placed hmem hx hy hw hh fun r hr p hp => (hsent.subset ⟨r, hr, hp⟩ : p ∈ _).1
      rw [sent_points hmem hx hy hw hh hplcd, hpts, points_eq_missing_iff hx hy hw hh] at hsent
      exact ⟨hx, hy, fun hzero => absurd hzero hemp, fun _ _ => (rects_placed_iff hmem).mp hplcd,
        fun _ _ => hsent⟩
    · intro h
      have hexact := (points_eq_missing_iff hx hy hw hh).mpr (h.exact hw hh)
      rw [sent_points hmem hx hy hw hh ((rects_placed_iff hmem).mpr (h.placed hw hh)), hpts]
      refine ⟨hexact, ?_⟩
      rw [← hexact, rects_eq_nil_iff hmem, cross, Set.union_empty_iff,
        Set.prod_eq_empty_iff, Set.prod_eq_empty_iff, reported_eq_empty_iff hx hw, reported_eq_empty_iff hy hh,
        or_iff_left (span_nonempty hh).ne_empty, or_iff_right (span_nonempty hw).ne_empty]

end Plane

inductive CopyRequest
  | area (req : CopyAreaRequest)
  | plane (req : CopyPlaneRequest)

def CopyRequest.base : CopyRequest → CopyAreaRequest
  | .area req => req
  | .plane req => req.toCopyAreaRequest

def CopyRequest.majorOpcode : CopyRequest → Nat
  | .area _ => 62
  | .plane _ => 63

def CopyRequest.handle (s : CopyState) : CopyRequest → CopyState × CopyResponse
  | .area req => handleCopyArea req s
  | .plane req => handleCopyPlane req s

/-- The request passes its checks, with this graphics context. -/
def CopyRequest.Accepted (s : CopyState) (gc : CopyGc) : CopyRequest → Prop
  | .area req => checkCopy 62 req s = .ok gc
  | .plane req =>
    ¬ (req.bitPlane = 0 ∨ req.bitPlane &&& (req.bitPlane - 1) ≠ 0) ∧ checkCopy 63 req.toCopyAreaRequest s = .ok gc

/-- The events of the request: rectangles whose points are those that are missing, and
NoExposure exactly if none is. -/
structure ReportsMissing (r : CopyRequest) (s : CopyState) : Prop where
  answered : (r.handle s).2 = .ok
  events : ∃ events, (r.handle s).1.pendingEvents = s.pendingEvents ++ events ∧
    let size := (getDrawableSize s.toDrawableStore r.base.srcDrawable).getD (0, 0)
    {p | ∃ rect count, .graphicsExposure r.base.dstDrawable rect count r.majorOpcode ∈ events ∧ InRect rect p} =
        missingPoints r.base size.1 size.2 ∧
      (.noExposure r.base.dstDrawable r.majorOpcode ∈ events ↔ missingPoints r.base size.1 size.2 = ∅)

theorem copyPixels_size (req : CopyAreaRequest) (gc : CopyGc) (ds : DrawableStore) (d : XId) :
    getDrawableSize (copyPixels req gc ds) d = getDrawableSize ds d := by
  simp only [copyPixels]
  split
  · split <;> exact getDrawableSize_drawOn ..
  · split
    · rfl
    · split
      · exact getDrawableSize_drawOn ..
      · split <;> exact getDrawableSize_drawOn ..

theorem copyPlane_size (req : CopyPlaneRequest) (gc : CopyGc) (ds : DrawableStore) (d : XId) :
    getDrawableSize (copyPlane req gc ds) d = getDrawableSize ds d := by
  simp only [copyPlane]
  split
  · rfl
  · exact getDrawableSize_drawOn ..

theorem putImageOverflows_iff (fb : Framebuffer) (x y : Int16) {width height : UInt16} {image : Bytes}
    (hlen : image.length = width.toNat * height.toNat * 4) :
    putImageOverflows fb x y width height image ↔
      x.toInt = -2 ^ 15 ∧ 0 < width.toNat ∧ max y.toInt 0 < min (y.toInt + height.toNat) fb.height := by
  have hx := x.le_toInt
  have hxLt := x.toInt_lt
  have hsize : width.toNat * 4 * height.toNat = image.length := by rw [hlen, Nat.mul_right_comm]
  have hleast : x.toInt < 0 ∧ checkI16 (-x.toInt) = none ↔ x.toInt = -2 ^ 15 := by
    by_cases hfits : IsI16 (-x.toInt)
    · rw [checkI16_of_fits hfits]
      rw [IsI16] at hfits
      simp
      omega
    · rw [checkI16_of_not_fits hfits]
      rw [IsI16] at hfits
      simp
      omega
  simp only [putImageOverflows, decide_eq_true_eq, List.any_eq_true, List.mem_range, hleast, hsize, le_refl,
    true_and, not_or]
  constructor
  · rintro ⟨⟨hw, -, -⟩, row, hrow, hon, hcol⟩
    exact ⟨hcol, by omega, by omega⟩
  · rintro ⟨hcol, hw, hrows⟩
    have harea := Nat.mul_pos hw (by omega : 0 < height.toNat)
    refine ⟨⟨by omega, by omega, fun himg => ?_⟩, (-y.toInt).toNat, by omega, by omega, hcol⟩
    rw [himg, length_nil] at hlen
    omega

/-- Pixels put as they are, at the column -2 ^ 15 and on a row of the destination. -/
structure PutsAtLeast (req : CopyAreaRequest) (gc : CopyGc) (ds : DrawableStore) : Prop where
  plain : CopyArea.Plain req gc ds
  column : req.dstX.toInt = -2 ^ 15
  width : 0 < req.width.toNat
  source : CopyArea.IncludesInferiors req gc ds ∨ (getFramebuffer ds req.srcDrawable).isSome
  row : ∃ fb, getFramebuffer ds req.dstDrawable = some fb ∧
    max req.dstY.toInt 0 < min (req.dstY.toInt + req.height.toNat) fb.height

def CopyRequest.PutsAtLeast (s : CopyState) (gc : CopyGc) : CopyRequest → Prop
  | .area req => Exposures.PutsAtLeast req gc (syncShmPixmap req.srcDrawable s.toDrawableStore)
  | .plane _ => False

theorem length_extractPixelsIncludeInferiors (ds : DrawableStore) (w : XId) (x y : Int16) (width height : UInt16) :
    (extractPixelsIncludeInferiors ds w x y width height).length = width.toNat * height.toNat * 4 := by
  rw [extractPixelsIncludeInferiors]
  split
  · exact (CopyArea.length_blitChildren ..).trans ImagePixels.length_extractPixels
  · split
    · exact ImagePixels.length_extractPixels
    · simp

theorem copyOverflows_iff (req : CopyAreaRequest) (gc : CopyGc) (ds : DrawableStore) :
    copyOverflows req gc ds ↔ PutsAtLeast req gc ds := by
  have hputs := fun (fb : Framebuffer) (pixels : Bytes) =>
    @putImageOverflows_iff fb req.dstX req.dstY req.width req.height pixels
  have hown := fun fb : Framebuffer =>
    hputs fb (fb.extractPixels req.srcX req.srcY req.width req.height) ImagePixels.length_extractPixels
  rw [copyOverflows]
  by_cases hself : req.srcDrawable = req.dstDrawable ∧ ¬ CopyArea.IncludesInferiors req gc ds
  · rw [if_pos (by exact hself)]
    simp only [decide_eq_true_eq, Option.any_eq_true, hown]
    constructor
    · rintro ⟨hclip, fb, hfb, hcol, hw, hrow⟩
      exact ⟨⟨hclip, .inl hself⟩, hcol, hw, .inr (by rw [hfb]; rfl), fb, hself.1 ▸ hfb, hrow⟩
    · intro h
      obtain ⟨fb, hfb, hrow⟩ := h.row
      exact ⟨h.plain.1, fb, hself.1 ▸ hfb, h.column, h.width, hrow⟩
  · have hpx : ∀ pixels, CopyArea.sourcePixels req gc ds = some pixels →
        pixels.length = req.width.toNat * req.height.toNat * 4 := by
      intro pixels hsome
      rw [CopyArea.sourcePixels] at hsome
      split at hsome
      · rw [← Option.some.inj hsome, length_extractPixelsIncludeInferiors]
      · obtain ⟨fb, -, rfl⟩ := Option.map_eq_some_iff.mp hsome
        exact ImagePixels.length_extractPixels
    have hsource : (CopyArea.sourcePixels req gc ds).isSome ↔
        CopyArea.IncludesInferiors req gc ds ∨ (getFramebuffer ds req.srcDrawable).isSome := by
      rw [CopyArea.sourcePixels]
      split <;> simp [*]
    rw [if_neg (by exact hself)]
    show decide (gc.function = GX.copy ∧ gc.clipRects = [] ∧ (CopyArea.sourcePixels req gc ds).any _) = true ↔ _
    rw [decide_eq_true_eq, Option.any_eq_true]
    simp only [Option.any_eq_true]
    constructor
    · rintro ⟨hcopy, hclip, pixels, hsome, fb, hfb, hput⟩
      obtain ⟨hcol, hw, hrow⟩ := (hputs fb pixels (hpx pixels hsome)).mp hput
      exact ⟨⟨hclip, .inr hcopy⟩, hcol, hw, hsource.mp (Option.isSome_of_eq_some hsome), fb, hfb, hrow⟩
    · intro h
      obtain ⟨pixels, hsome⟩ := Option.isSome_iff_exists.mp (hsource.mpr h.source)
      obtain ⟨fb, hfb, hrow⟩ := h.row
      exact ⟨h.plain.2.resolve_left hself, h.plain.1, pixels, hsome, fb, hfb,
        (hputs fb pixels (hpx pixels hsome)).mpr ⟨h.column, h.width, hrow⟩⟩

/-- An accepted CopyArea ends where its copy overflows. -/
theorem handle_eq (r : CopyRequest) {s : CopyState} {gc : CopyGc} (haccd : r.Accepted s gc) :
    ∃ ds, (∀ d, getDrawableSize ds d = getDrawableSize s.toDrawableStore d) ∧
      (r.PutsAtLeast s gc → (r.handle s).2 = .overflow) ∧
      (¬ r.PutsAtLeast s gc →
        r.handle s = reportExposures r.majorOpcode r.base gc { s with toDrawableStore := ds }) := by
  cases r with
  | area req =>
    refine ⟨copyPixels req gc (syncShmPixmap req.srcDrawable s.toDrawableStore), fun d => ?_, fun h => ?_,
      fun h => ?_⟩
    · rw [copyPixels_size, getDrawableSize_syncShmPixmap]
    · rw [CopyRequest.handle, handleCopyArea, show checkCopy 62 req s = .ok gc from haccd]
      dsimp only
      rw [if_pos ((copyOverflows_iff req gc _).mpr h)]
    · rw [CopyRequest.handle, handleCopyArea, show checkCopy 62 req s = .ok gc from haccd]
      dsimp only
      rw [if_neg (mt (copyOverflows_iff req gc _).mp h)]
      rfl
  | plane req =>
    refine ⟨copyPlane req gc (syncShmPixmap req.srcDrawable s.toDrawableStore), fun d => ?_, False.elim,
      fun _ => ?_⟩
    · rw [copyPlane_size, getDrawableSize_syncShmPixmap]
    · rw [CopyRequest.handle, handleCopyPlane, if_neg haccd.1, haccd.2]
      rfl

theorem exposureEvents_points (drawable : XId) (majorOpcode : Nat) (rects : List Rect) :
    {p | ∃ rect count, .graphicsExposure drawable rect count majorOpcode ∈ exposureEvents drawable majorOpcode rects ∧
      InRect rect p} = {p | ∃ r ∈ rects, InRect (sentRect r) p} := by
  ext p
  show (∃ rect count, _ ∈ exposureEvents drawable majorOpcode rects ∧ _) ↔ ∃ r ∈ rects, InRect (sentRect r) p
  rw [exposureEvents]
  by_cases hnil : rects = []
  · simp [hnil]
  · rw [if_neg hnil]
    simp only [mem_mapIdx, CopyEvent.graphicsExposure.injEq]
    constructor
    · rintro ⟨rect, count, ⟨i, hi, -, rfl, -⟩, hp⟩
      exact ⟨_, getElem_mem hi, hp⟩
    · rintro ⟨rect, hrect, hp⟩
      obtain ⟨i, hi, rfl⟩ := getElem_of_mem hrect
      exact ⟨_, _, ⟨i, hi, trivial, rfl, rfl, trivial⟩, hp⟩

theorem noExposure_mem_iff (drawable : XId) (majorOpcode : Nat) (rects : List Rect) :
    .noExposure drawable majorOpcode ∈ exposureEvents drawable majorOpcode rects ↔ rects = [] := by
  rw [exposureEvents]
  by_cases hnil : rects = []
  · simp [hnil]
  · simp [hnil]

/-- For every accepted request whose graphics context asks for exposures. -/
theorem reportsMissing_iff (r : CopyRequest) (s : CopyState) (gc : CopyGc) (haccd : r.Accepted s gc)
    (hexposures : gc.graphicsExposures = true) :
    ReportsMissing r s ↔
      ¬ r.PutsAtLeast s gc ∧
        let size := (getDrawableSize s.toDrawableStore r.base.srcDrawable).getD (0, 0)
        ExposesExactly r.base size.1 size.2 := by
  obtain ⟨ds, hsize, hoverflow, hhdl⟩ := handle_eq r haccd
  by_cases hleast : r.PutsAtLeast s gc
  · refine iff_of_false (fun h => ?_) (fun h => h.1 hleast)
    have hansd := h.answered
    rw [hoverflow hleast] at hansd
    exact absurd hansd (by simp)
  rw [and_iff_right hleast]
  replace hhdl := hhdl hleast
  dsimp only
  rw [reportExposures, if_pos hexposures] at hhdl
  dsimp only at hhdl
  rw [hsize] at hhdl
  generalize hsrc : (getDrawableSize s.toDrawableStore r.base.srcDrawable).getD (0, 0) = size at hhdl ⊢
  cases hrects : exposedRects r.base size.1 size.2 with
  | none =>
    rw [hrects] at hhdl
    constructor
    · intro h
      have hansd := h.answered
      rw [hhdl] at hansd
      exact absurd hansd (by simp)
    · intro h
      have hsome := exposedRects_isSome.mpr ⟨h.columns, h.rows⟩
      rw [hrects] at hsome
      exact absurd hsome (by simp)
  | some rects =>
    rw [hrects] at hhdl
    rw [← rects_exact_iff hrects, ← exposureEvents_points r.base.dstDrawable r.majorOpcode rects,
      ← noExposure_mem_iff r.base.dstDrawable r.majorOpcode rects]
    constructor
    · rintro ⟨-, events, hevs, hexact⟩
      rw [hhdl, append_cancel_left_eq] at hevs
      rw [hsrc, ← hevs] at hexact
      exact hexact
    · intro hexact
      refine ⟨by rw [hhdl], exposureEvents r.base.dstDrawable r.majorOpcode rects, by rw [hhdl], ?_⟩
      rw [hsrc]
      exact hexact

/-- A copy that begins one column left of its source. -/
theorem reportsMissing_red :
    ReportsMissing (.area ⟨1, 1, 2, -1, 0, 0, 0, 2, 1⟩)
      (CopyArea.redDesk ⟨⟨GX.copy, planeMaskAll, 0, 0, []⟩, 0, true⟩) := by
  have haccd : (CopyRequest.area ⟨1, 1, 2, -1, 0, 0, 0, 2, 1⟩).Accepted
      (CopyArea.redDesk ⟨⟨GX.copy, planeMaskAll, 0, 0, []⟩, 0, true⟩) ⟨⟨GX.copy, planeMaskAll, 0, 0, []⟩, 0, true⟩ :=
    rfl
  refine (reportsMissing_iff _ _ _ haccd rfl).mpr ⟨fun h => absurd h.column (by decide), ?_⟩
  have hcols : AxisExact (-1) 2 3 := by simp [AxisExact]
  have hrows : AxisExact 0 1 1 := by simp [AxisExact]
  have hplcd : AxisPlaced (-1) 0 2 3 0 ∧ AxisPlaced 0 0 1 1 0 := by
    simp [AxisPlaced, asI16]
  exact (⟨axisInRange_iff.mpr ⟨rfl, rfl⟩, axisInRange_iff.mpr ⟨rfl, rfl⟩, fun h => absurd h (by decide),
    fun _ _ => hplcd, fun _ _ => .inl ⟨hcols, hrows⟩⟩ : ExposesExactly ⟨1, 1, 2, -1, 0, 0, 0, 2, 1⟩ 3 1)

/-- A copy from beyond the right edge reports a strip left of its rectangle, at the column
-2, which the event carries as 65534. -/
theorem copy_beyond_reports_elsewhere :
    ¬ ∀ (r : CopyRequest) (s : CopyState) (gc : CopyGc), r.Accepted s gc → gc.graphicsExposures = true →
      ReportsMissing r s := by
  intro hall
  have hreports := hall (.area ⟨1, 1, 2, 5, 0, 0, 0, 1, 1⟩)
    (CopyArea.redDesk ⟨⟨GX.copy, planeMaskAll, 0, 0, []⟩, 0, true⟩) _ rfl rfl
  obtain ⟨events, hevs, hpts, -⟩ := hreports.events
  have hsent : ((CopyRequest.area ⟨1, 1, 2, 5, 0, 0, 0, 1, 1⟩).handle
      (CopyArea.redDesk ⟨⟨GX.copy, planeMaskAll, 0, 0, []⟩, 0, true⟩)).1.pendingEvents =
      [] ++ [.graphicsExposure 1 ⟨65534, 0, 1, 1⟩ 0 62] := by decide +kernel
  have hrepd := append_cancel_left (hsent.symm.trans hevs)
  have hmissing : ((65534, 0) : Int × Int) ∈ missingPoints ⟨1, 1, 2, 5, 0, 0, 0, 1, 1⟩ 3 1 :=
    hpts.subset ⟨⟨65534, 0, 1, 1⟩, 0, hrepd ▸ mem_cons_self, by simp [InRect]⟩
  exact absurd hmissing.1.1.2 (by decide)

end X11Web.Exposures
