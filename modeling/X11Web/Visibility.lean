import X11Web.Coverage
import X11Web.Windows

namespace X11Web.Visibility

open HashMaps Windows Coverage List Option

inductive VisibilityState
  | unobscured | partiallyObscured | fullyObscured
deriving DecidableEq

/-- The corners of the part of `sib` that lies over `win`, and its area if there
is one. The products and their sum stay far below the limit of 64 bits. -/
def overlapArea (win sib : WindowState) : Option Int :=
  let ix1 := max win.x sib.x
  let iy1 := max win.y sib.y
  let ix2 := min (win.x + win.width) (sib.x + sib.width)
  let iy2 := min (win.y + win.height) (sib.y + sib.height)
  if ix1 < ix2 ∧ iy1 < iy2 then some ((ix2 - ix1) * (iy2 - iy1)) else none

/-- One round of the loop over the siblings above: the area so far, and whether
some sibling overlaps. -/
def obscure (m : HashMap XId WindowState) (win : WindowState) (acc : Int × Bool) (siblingId : XId) :
    Int × Bool :=
  match m.lookup siblingId with
  | none => acc
  | some sib =>
    if sib.mapped then
      match overlapArea win sib with
      | some overlap => (acc.1 + overlap, true)
      | none => acc
    else acc

def computeVisibility (m : HashMap XId WindowState) (wid : XId) : VisibilityState :=
  match m.lookup wid with
  | none => .fullyObscured
  | some win =>
    if !win.mapped || win.width == 0 || win.height == 0 then .fullyObscured
    else
      match m.lookup win.parent with
      | none => .unobscured
      | some parent =>
        match parent.childrenOrder.findIdx? (· == wid) with
        | none => .unobscured
        | some ourIdx =>
          let (obscuredArea, partially) :=
            (parent.childrenOrder.drop (ourIdx + 1)).foldl (obscure m win) (0, false)
          if !partially then .unobscured
          else if obscuredArea ≥ win.width * win.height then .fullyObscured
          else .partiallyObscured

noncomputable def pixels (win : WindowState) : Finset (Int × Int) := box win.x win.y win.width win.height

def siblingsAbove (m : HashMap XId WindowState) (wid : XId) : List XId :=
  match (m.lookup wid).bind (fun win => m.lookup win.parent) with
  | none => []
  | some parent =>
    match parent.childrenOrder.findIdx? (· == wid) with
    | none => []
    | some ourIdx => parent.childrenOrder.drop (ourIdx + 1)

noncomputable def covers (m : HashMap XId WindowState) (ids : List XId) : List (Finset (Int × Int)) :=
  ids.filterMap (fun id => ((m.lookup id).filter (·.mapped)).map pixels)

theorem mem_covers {m : HashMap XId WindowState} {ids : List XId} {B : Finset (Int × Int)} :
    B ∈ covers m ids ↔
      ∃ id ∈ ids, ∃ sib, m.lookup id = some sib ∧ sib.mapped = true ∧ pixels sib = B := by
  simp [covers, mem_filterMap, filter_eq_some_iff, and_assoc]

/-- What the two extreme answers promise about the pixels of a window. -/
structure Sound (m : HashMap XId WindowState) (wid : XId) (win : WindowState) : Prop where
  obscured : computeVisibility m wid = .fullyObscured → ∀ z ∈ pixels win,
    ∃ id ∈ siblingsAbove m wid, ∃ sib, m.lookup id = some sib ∧ sib.mapped = true ∧ z ∈ pixels sib
  unobscured : computeVisibility m wid = .unobscured → ∀ z ∈ pixels win,
    ∀ id ∈ siblingsAbove m wid, ∀ sib, m.lookup id = some sib → sib.mapped = true → z ∉ pixels sib

variable {m : HashMap XId WindowState} {wid : XId} {win sib : WindowState}

theorem overlapArea_eq (win sib : WindowState) :
    overlapArea win sib = if (pixels win ∩ pixels sib).card = 0 then none
      else some ((pixels win ∩ pixels sib).card : Int) := by
  rw [pixels, pixels, card_box_inter, overlapArea]
  split
  · next h =>
    rw [if_neg]
    · push_cast
      rw [Int.toNat_of_nonneg (by omega), Int.toNat_of_nonneg (by omega)]
    · rw [Nat.mul_eq_zero]
      omega
  · next h =>
    rw [if_pos]
    rw [Nat.mul_eq_zero]
    omega

/-- The areas that the mapped windows of a list take of the window, added up. -/
noncomputable def overlaps (m : HashMap XId WindowState) (win : WindowState) (ids : List XId) : Nat :=
  ((covers m ids).map (fun B => (pixels win ∩ B).card)).sum

theorem overlaps_cons (m : HashMap XId WindowState) (win : WindowState) (id : XId) (ids : List XId) :
    overlaps m win (id :: ids) = overlaps m win ids +
      ((m.lookup id).filter (·.mapped)).elim 0 (fun sib => (pixels win ∩ pixels sib).card) := by
  rw [overlaps, covers, filterMap_cons]
  cases (m.lookup id).filter (·.mapped) with
  | none => rfl
  | some sib =>
    rw [map_some, map_cons, sum_cons, Nat.add_comm]
    rfl

theorem obscure_eq (m : HashMap XId WindowState) (win : WindowState) (acc : Int × Bool) (id : XId) :
    obscure m win acc id =
      let k := ((m.lookup id).filter (·.mapped)).elim 0 (fun sib => (pixels win ∩ pixels sib).card)
      (acc.1 + k, acc.2 || decide (0 < k)) := by
  rw [obscure]
  cases m.lookup id with
  | none => simp
  | some sib =>
    dsimp only
    rw [overlapArea_eq]
    by_cases hmpd : sib.mapped = true
    · by_cases hk : (pixels win ∩ pixels sib).card = 0
      · simp [filter_some, hmpd, hk]
      · simp [filter_some, hmpd, hk, Nat.pos_of_ne_zero hk]
    · simp [filter_some, hmpd]

theorem foldl_obscure (m : HashMap XId WindowState) (win : WindowState) (ids : List XId)
    (acc : Int × Bool) :
    ids.foldl (obscure m win) acc =
      (acc.1 + overlaps m win ids, acc.2 || decide (0 < overlaps m win ids)) := by
  induction ids generalizing acc with
  | nil => simp [overlaps, covers]
  | cons id ids ih =>
    rw [foldl_cons, ih, obscure_eq, overlaps_cons]
    dsimp only
    generalize ((m.lookup id).filter (·.mapped)).elim 0
      (fun sib => (pixels win ∩ pixels sib).card) = k
    rw [Prod.mk.injEq]
    constructor
    · push_cast
      omega
    · rw [Bool.or_assoc, ← Bool.decide_or]
      congr 1
      exact decide_eq_decide.mpr (by omega)

theorem computeVisibility_eq (hwin : m.lookup wid = some win) (hmpd : win.mapped = true) :
    computeVisibility m wid =
      if win.width = 0 ∨ win.height = 0 then .fullyObscured
      else if overlaps m win (siblingsAbove m wid) = 0 then .unobscured
      else if win.width * win.height ≤ overlaps m win (siblingsAbove m wid) then .fullyObscured
      else .partiallyObscured := by
  have hnone : overlaps m win [] = 0 := rfl
  rw [computeVisibility, hwin]
  dsimp only
  by_cases hsize : win.width = 0 ∨ win.height = 0
  · simp [hmpd, hsize]
  · rw [if_neg (by simpa [hmpd] using hsize), if_neg hsize]
    cases hpar : m.lookup win.parent with
    | none =>
      have hids : siblingsAbove m wid = [] := by simp [siblingsAbove, hwin, hpar]
      rw [hids, if_pos hnone]
    | some parent =>
      dsimp only
      cases hidx : parent.childrenOrder.findIdx? (· == wid) with
      | none =>
        have hids : siblingsAbove m wid = [] := by simp [siblingsAbove, hwin, hpar, hidx]
        rw [hids, if_pos hnone]
      | some ourIdx =>
        have hids : siblingsAbove m wid = parent.childrenOrder.drop (ourIdx + 1) := by
          simp [siblingsAbove, hwin, hpar, hidx]
        dsimp only
        rw [foldl_obscure, ← hids]
        generalize overlaps m win (siblingsAbove m wid) = k
        by_cases hk : k = 0
        · simp [hk]
        · have hle : ((win.width : Int) * win.height ≤ k) = (win.width * win.height ≤ k) := by
            rw [eq_iff_iff]
            norm_cast
          simp [hk, Nat.pos_of_ne_zero hk, hle]

/-- No pixel is left free, or fewer are counted a second time than are free. -/
def Balanced (m : HashMap XId WindowState) (wid : XId) (win : WindowState) : Prop :=
  uncovered (pixels win) (covers m (siblingsAbove m wid)) = ∅ ∨
    surplus (pixels win) (covers m (siblingsAbove m wid)) <
      (uncovered (pixels win) (covers m (siblingsAbove m wid))).card

theorem covered_iff :
    (∀ z ∈ pixels win, ∃ id ∈ siblingsAbove m wid, ∃ sib, m.lookup id = some sib ∧
      sib.mapped = true ∧ z ∈ pixels sib) ↔
      uncovered (pixels win) (covers m (siblingsAbove m wid)) = ∅ := by
  rw [uncovered_eq_empty]
  apply forall₂_congr
  intro z _
  constructor
  · rintro ⟨id, hid, sib, hsib, hmpd, hz⟩
    exact ⟨pixels sib, mem_covers.mpr ⟨id, hid, sib, hsib, hmpd, rfl⟩, hz⟩
  · rintro ⟨B, hB, hz⟩
    obtain ⟨id, hid, sib, hsib, hmpd, rfl⟩ := mem_covers.mp hB
    exact ⟨id, hid, sib, hsib, hmpd, hz⟩

theorem notMem_of_overlaps_eq_zero (h : overlaps m win (siblingsAbove m wid) = 0)
    {z : Int × Int} (hz : z ∈ pixels win) {id : XId} (hid : id ∈ siblingsAbove m wid)
    (hsib : m.lookup id = some sib) (hmpd : sib.mapped = true) : z ∉ pixels sib := by
  intro hz'
  have hmem : (pixels win ∩ pixels sib).card ∈
      (covers m (siblingsAbove m wid)).map (fun B => (pixels win ∩ B).card) :=
    mem_map.mpr ⟨pixels sib, mem_covers.mpr ⟨id, hid, sib, hsib, hmpd, rfl⟩, rfl⟩
  have hzero := List.sum_eq_zero_iff_forall_eq_nat.mp h _ hmem
  rw [Finset.card_eq_zero] at hzero
  exact Finset.notMem_empty z (hzero ▸ Finset.mem_inter.mpr ⟨hz, hz'⟩)

/-- The answers about a mapped window are right exactly when the pixels that
several siblings cover do not make up for the free ones. -/
theorem sound_iff_balanced (m : HashMap XId WindowState) (wid : XId) (win : WindowState)
    (hwin : m.lookup wid = some win) (hmpd : win.mapped = true) :
    Sound m wid win ↔ Balanced m wid win := by
  have hfull : win.width * win.height ≤ overlaps m win (siblingsAbove m wid) ↔
      (uncovered (pixels win) (covers m (siblingsAbove m wid))).card ≤
        surplus (pixels win) (covers m (siblingsAbove m wid)) := by
    rw [overlaps, ← card_le_sum_overlaps, pixels, card_box]
  rw [Balanced, ← covered_iff]
  constructor
  · intro h
    by_cases hle : (uncovered (pixels win) (covers m (siblingsAbove m wid))).card ≤
        surplus (pixels win) (covers m (siblingsAbove m wid))
    · left
      by_cases hsize : win.width = 0 ∨ win.height = 0
      · apply h.obscured
        rw [computeVisibility_eq hwin hmpd, if_pos hsize]
      · have harea : 0 < win.width * win.height := Nat.mul_pos (by omega) (by omega)
        have hlarge := hfull.mpr hle
        apply h.obscured
        rw [computeVisibility_eq hwin hmpd, if_neg hsize, if_neg (by omega), if_pos hlarge]
    · exact .inr (Nat.lt_of_not_le hle)
  · intro h
    constructor
    · intro hfullyObscured
      obtain h | h := h
      · exact h
      · rw [computeVisibility_eq hwin hmpd] at hfullyObscured
        have hsize : win.width = 0 ∨ win.height = 0 := by
          by_contra hsize
          rw [if_neg hsize, if_neg (fun hle => absurd (hfull.mp hle) (Nat.not_le_of_lt h))]
            at hfullyObscured
          split at hfullyObscured <;> simp at hfullyObscured
        have hemp : pixels win = ∅ := by
          rw [← Finset.card_eq_zero, pixels, card_box, Nat.mul_eq_zero]
          exact hsize
        simp [hemp]
    · intro hunobscured z hz id hid sib hsib hsibMpd
      refine notMem_of_overlaps_eq_zero ?_ hz hid hsib hsibMpd
      rw [computeVisibility_eq hwin hmpd] at hunobscured
      by_contra hne
      rw [if_neg hne] at hunobscured
      split at hunobscured
      · simp at hunobscured
      · split at hunobscured <;> simp at hunobscured

section Overcounted

/-- A mapped window of the given width, one pixel high, in the corner of the root. -/
def strip (id : XId) (width : Nat) : WindowState :=
  { serverWindow id ∅ with x := 0, y := 0, width := width, winClass := inputOutput, mapped := true }

/-- Two windows of one pixel, both over the left half of a window of two. -/
def twiceCovered : HashMap XId WindowState :=
  (((Finmap.singleton rootWindow { rootRecord ∅ with childrenOrder := [1, 2, 3] }).insert 1
    (strip 1 2)).insert 2 (strip 2 1)).insert 3 (strip 3 1)

theorem sound_iff_balanced_twiceCovered :
    computeVisibility twiceCovered 1 = .fullyObscured ∧
      (Sound twiceCovered 1 (strip 1 2) ↔ Balanced twiceCovered 1 (strip 1 2)) :=
  ⟨by decide, sound_iff_balanced twiceCovered 1 (strip 1 2) rfl rfl⟩

/-- The right half is free, but the window is reported as fully obscured. -/
theorem not_sound_twiceCovered : ¬ Sound twiceCovered 1 (strip 1 2) := by
  intro h
  have hz : ((1, 0) : Int × Int) ∈ pixels (strip 1 2) := by decide
  obtain ⟨id, hid, sib, hsib, -, hcvd⟩ := h.obscured (by decide) (1, 0) hz
  have hids : siblingsAbove twiceCovered 1 = [2, 3] := by decide
  rw [hids] at hid
  obtain rfl | rfl : id = 2 ∨ id = 3 := by simpa using hid
  · obtain rfl : strip 2 1 = sib := some.inj hsib
    exact absurd hcvd (by decide)
  · obtain rfl : strip 3 1 = sib := some.inj hsib
    exact absurd hcvd (by decide)

end Overcounted

end X11Web.Visibility
