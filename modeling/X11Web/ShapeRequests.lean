import X11Web.ShapeRegions

namespace X11Web.ShapeRequests

open HashMaps CheckedRuns CheckedRegions Runs ShapeRegions List Option
open Boxes (Box)
open Regions hiding between
open DrawRequests (Pixmap)
open Windows (XId)

inductive ShapeKind
  | bounding
  | clip
  | input
  | other
  deriving DecidableEq

inductive ShapeOp
  | set
  | union
  | intersect
  | subtract
  | invert
  | other
  deriving DecidableEq

structure ShapeWindow where
  width : UInt16
  height : UInt16
  boundingShape : Option (List RegionRect)
  clipShape : Option (List RegionRect)
  inputShape : Option (List RegionRect)
  shapeSelectClients : List Nat

namespace ShapeWindow

def fullRect (win : ShapeWindow) : RegionRect := ⟨0, 0, win.width, win.height⟩

def target (win : ShapeWindow) : ShapeKind → Option (List RegionRect)
  | .bounding => win.boundingShape
  | .clip => win.clipShape
  | .input => win.inputShape
  | .other => none

def setTarget (win : ShapeWindow) (shape : Option (List RegionRect)) : ShapeKind → ShapeWindow
  | .bounding => { win with boundingShape := shape }
  | .clip => { win with clipShape := shape }
  | .input => { win with inputShape := shape }
  | .other => win

end ShapeWindow

/-- A ShapeNotify event, but for its sequence number and its time. -/
structure ShapeNotifyEvent where
  shapeKind : ShapeKind
  affectedWindow : XId
  extents : RegionRect
  shaped : Bool

structure ShapeState where
  windows : HashMap XId ShapeWindow
  pixmaps : HashMap XId Pixmap
  pendingEvents : List ShapeNotifyEvent

def getWindowShape (s : ShapeState) (window : XId) (kind : ShapeKind) : Option (List RegionRect) :=
  match s.windows.lookup window with
  | none => none
  | some win =>
    match kind with
    | .bounding => win.boundingShape.or (some [win.fullRect])
    | .clip => win.clipShape.or (win.boundingShape.or (some [win.fullRect]))
    | .input => win.inputShape.or (win.boundingShape.or (some [win.fullRect]))
    | .other => none

def orUnset (rects : List RegionRect) : Option (List RegionRect) := if rects.isEmpty then none else some rects

/-- `apply_shape` on the shape of one kind. -/
def combined (full : RegionRect) (target new : Option (List RegionRect)) :
    ShapeOp → Checked (Option (List RegionRect))
  | .set => pure new
  | .union => pure (orUnset (target.getD [] ++ new.getD []))
  | .intersect =>
    match target, new with
    | some existing, some new => do return orUnset (← intersectRects existing new)
    | none, some new => pure (some new)
    | target, none => pure target
  | .subtract =>
    match target, new with
    | some existing, some new => do return orUnset (← subtractRects existing new)
    | none, some new => do return orUnset (← subtractRects [full] new)
    | target, none => pure target
  | .invert =>
    match target, new with
    | some existing, some new => do return orUnset (← subtractRects new existing)
    | some existing, none => pure (some existing)
    | none, _ => pure (some [])
  | .other => pure target

def applyShape (s : ShapeState) (window : XId) (kind : ShapeKind) (operation : ShapeOp)
    (newRects : Option (List RegionRect)) : Checked ShapeState :=
  match s.windows.lookup window with
  | none => pure s
  | some win =>
    if kind = .other then pure s
    else do
      let shape ← combined win.fullRect (win.target kind) newRects operation
      return { s with windows := s.windows.insert window (win.setTarget shape kind) }

def sendShapeNotify (window : XId) (kind : ShapeKind) (s : ShapeState) : Checked ShapeState :=
  match s.windows.lookup window with
  | none => pure s
  | some win =>
    if kind = .other then pure s
    else do
      let ext ← ((win.target kind).map computeExtents).getD (pure win.fullRect)
      pure (if win.shapeSelectClients.isEmpty then s
        else { s with pendingEvents := s.pendingEvents ++ [⟨kind, window, ext, (win.target kind).isSome⟩] })

/-- `apply_shape` and the event after it. -/
def reshape (s : ShapeState) (window : XId) (kind : ShapeKind) (operation : ShapeOp)
    (newRects : Option (List RegionRect)) : Checked ShapeState := do
  let s ← applyShape s window kind operation newRects
  sendShapeNotify window kind s

inductive ShapeRequest
  | rectangles (operation : ShapeOp) (kind : ShapeKind) (ordering : UInt8) (window : XId) (xOffset yOffset : Int16)
    (rects : List RegionRect)
  | mask (operation : ShapeOp) (kind : ShapeKind) (window : XId) (xOffset yOffset : Int16) (pixmap : XId)
  | combine (operation : ShapeOp) (destKind srcKind : ShapeKind) (destWindow : XId) (xOffset yOffset : Int16)
    (srcWindow : XId)
  | offset (kind : ShapeKind) (window : XId) (xOffset yOffset : Int16)

def handleShapeRequest (s : ShapeState) : ShapeRequest → Checked ShapeState
  | .rectangles operation kind ordering window xOffset yOffset rects =>
    if ordering > 3 then pure s
    else do
      let rects ← rects.mapM fun r => shifted r xOffset yOffset
      reshape s window kind operation (if rects.isEmpty ∧ operation = .set then none else some rects)
  | .mask operation kind window xOffset yOffset pixmap =>
    if pixmap = 0 then reshape s window kind operation none
    else
      match s.pixmaps.lookup pixmap with
      | none => pure s
      | some pix => do
        let shape ← extractShapeFromPixmap pix xOffset yOffset
        reshape s window kind operation (some shape)
  | .combine operation destKind srcKind destWindow xOffset yOffset srcWindow =>
    match getWindowShape s srcWindow srcKind with
    | none => reshape s destWindow destKind operation none
    | some rects => do
      let rects ← rects.mapM fun r => shifted r xOffset yOffset
      reshape s destWindow destKind operation (some rects)
  | .offset kind window xOffset yOffset =>
    match s.windows.lookup window with
    | none => pure s
    | some win => sendShapeNotify window kind { s with windows := s.windows.insert window (win.setTarget
        ((win.target kind).map fun rects => ((XFixesRegion.mk rects).translate xOffset yOffset).rects) kind) }

/-! ## The regions that the requests are about -/

/-- The points that a shape admits: an unset one those of the whole window. -/
def admittedBy (full : RegionRect) (shape : Option (List RegionRect)) : Set (Int × Int) :=
  (shape.map pointsOf).getD full.points

def admitted (win : ShapeWindow) (kind : ShapeKind) : Set (Int × Int) := admittedBy win.fullRect (win.target kind)

def ShapeOp.onSets (old new : Set (Int × Int)) : ShapeOp → Set (Int × Int)
  | .set => new
  | .union => old ∪ new
  | .intersect => old ∩ new
  | .subtract => old \ new
  | .invert => new \ old
  | .other => old

def moved (xOffset yOffset : Int16) (S : Set (Int × Int)) : Set (Int × Int) :=
  { p | (p.1 - xOffset.toInt, p.2 - yOffset.toInt) ∈ S }

/-- What a request asks for: how the points of a shape change in a window of a given size. -/
structure Change where
  window : XId
  kind : ShapeKind
  result : RegionRect → Set (Int × Int) → Set (Int × Int)

def change (s : ShapeState) : ShapeRequest → Option Change
  | .rectangles operation kind ordering window xOffset yOffset rects =>
    if ordering > 3 then none
    else some ⟨window, kind, fun _ old => operation.onSets old (moved xOffset yOffset (pointsOf rects))⟩
  | .mask operation kind window xOffset yOffset pixmap =>
    if pixmap = 0 then some ⟨window, kind, fun full old => operation.onSets old full.points⟩
    else (s.pixmaps.lookup pixmap).map fun pix => ⟨window, kind, fun _ old =>
      operation.onSets old { p | ∃ q ∈ nonZero pix, p = (q.1 + xOffset.toInt, q.2 + yOffset.toInt) }⟩
  | .combine operation destKind srcKind destWindow xOffset yOffset srcWindow =>
    if srcKind = .other then none
    else (s.windows.lookup srcWindow).map fun src => ⟨destWindow, destKind, fun _ old =>
      operation.onSets old (moved xOffset yOffset (admitted src srcKind))⟩
  | .offset kind window xOffset yOffset => some ⟨window, kind, fun _ old => moved xOffset yOffset old⟩

/-- The request overflows nowhere, and changes the points of the shape as it asks for. -/
structure Correct (s : ShapeState) (req : ShapeRequest) : Prop where
  noOverflow : NoOverflow (handleShapeRequest s req)
  changes : ∀ c ∈ change s req, ∀ win, s.windows.lookup c.window = some win → c.kind ≠ .other →
    ∃ win', (handleShapeRequest s req).value.windows.lookup c.window = some win' ∧
      admitted win' c.kind = c.result win.fullRect (admitted win c.kind)

/-! ## Where the code keeps to the sets -/

/-- A new region: its points, whether it has no rectangles, whether those it has keep to the limits, and
which boxes they lie within. -/
structure NewRegion where
  points : Set (Int × Int)
  isEmpty : Prop
  fits : Prop
  within : Box Int → Prop

structure Represents (rects : List RegionRect) (new : NewRegion) : Prop where
  points : pointsOf rects = new.points
  isEmpty : rects = [] ↔ new.isEmpty
  fits : new.fits → ∀ r ∈ rects, r.Fits
  within : ∀ b, new.within b → ∀ r ∈ rects, r.box.Inside b

/-- The branch that is taken reads an unset shape as the whole window, computes with
rectangles that keep to the limits, and does not take an empty result for an unset shape. -/
def Reads (full : RegionRect) (target : Option (List RegionRect)) (new : Option NewRegion) : ShapeOp → Prop
  | .set | .other => True
  | .union =>
    match target, new with
    | some existing, some new => existing ≠ [] ∨ ¬new.isEmpty
    | some existing, none => existing = [] ∨ full.points ⊆ pointsOf existing
    | none, some new => new.isEmpty ∨ full.points ⊆ new.points
    | none, none => True
  | .intersect =>
    match target, new with
    | some existing, some new =>
      ((∀ r ∈ existing, r.Fits) ∧ new.fits) ∧ (pointsOf existing ∩ new.points).Nonempty
    | some existing, none => pointsOf existing ⊆ full.points
    | none, some new => new.points ⊆ full.points
    | none, none => True
  | .subtract =>
    match target, new with
    | some existing, some new =>
      ((∀ r ∈ existing, r.Fits) ∧ new.fits) ∧ (pointsOf existing \ new.points).Nonempty
    | some existing, none => Disjoint (pointsOf existing) full.points
    | none, some new => (full.Fits ∧ new.fits) ∧ (full.points \ new.points).Nonempty
    | none, none => full.points = ∅
  | .invert =>
    match target, new with
    | some existing, some new =>
      ((∀ r ∈ existing, r.Fits) ∧ new.fits) ∧ (new.points \ pointsOf existing).Nonempty
    | some existing, none => full.points \ pointsOf existing = pointsOf existing
    | none, some new => new.points ⊆ full.points
    | none, none => True

/-- The rectangles that the branch's result is taken from lie within at most 32767 columns and rows, as
the extents of the result do then. -/
def Narrow (target : Option (List RegionRect)) (new : Option NewRegion) (operation : ShapeOp) : Prop :=
  ∃ b : Box Int, Small b ∧
    match operation with
    | .set => ∀ region ∈ new, region.within b
    | .union => (∀ existing ∈ target, ∀ r ∈ existing, r.box.Inside b) ∧ ∀ region ∈ new, region.within b
    | .intersect =>
      match target, new with
      | some existing, some new => (∀ r ∈ existing, r.box.Inside b) ∨ new.within b
      | some existing, none => ∀ r ∈ existing, r.box.Inside b
      | none, some new => new.within b
      | none, none => True
    | .subtract | .other => ∀ existing ∈ target, ∀ r ∈ existing, r.box.Inside b
    | .invert =>
      match target, new with
      | some _, some new => new.within b
      | some existing, none => ∀ r ∈ existing, r.box.Inside b
      | none, _ => True

def MovesFit (xOffset yOffset : Int16) (rects : List RegionRect) : Prop :=
  ∀ r ∈ rects, FitsI16 (r.x.toInt + xOffset.toInt) ∧ FitsI16 (r.y.toInt + yOffset.toInt)

instance (xOffset yOffset : Int16) (rects : List RegionRect) : Decidable (MovesFit xOffset yOffset rects) :=
  inferInstanceAs (Decidable (∀ r ∈ rects, _ ∧ _))

def NewRegion.moved (xOffset yOffset : Int16) (rects : List RegionRect) : NewRegion where
  points := ShapeRequests.moved xOffset yOffset (pointsOf rects)
  isEmpty := rects = []
  fits := ∀ r ∈ rects, (RegionRect.mk (r.x + xOffset) (r.y + yOffset) r.width r.height).Fits
  within b := ∀ r ∈ rects, (RegionRect.mk (r.x + xOffset) (r.y + yOffset) r.width r.height).box.Inside b

def NewRegion.masked (xOffset yOffset : Int16) (pix : Pixmap) (bounds : RegionRect) : NewRegion where
  points := { p | ∃ q ∈ nonZero pix, p = (q.1 + xOffset.toInt, q.2 + yOffset.toInt) }
  isEmpty := nonZero pix = ∅
  fits := True
  within b := bounds.box.Inside b

/-- The branch keeps to the sets, and the extents of its result overflow nowhere. -/
def Suits (full : RegionRect) (target : Option (List RegionRect)) (new : Option NewRegion) (operation : ShapeOp) :
    Prop :=
  Reads full target new operation ∧ Narrow target new operation

/-- No empty list of rectangles is set, offsets stay among the `i16` values, a shape that
falls back on the bounding shape is the whole window, an unset shape is not moved, and
the operation suits the shapes. -/
def Sound (s : ShapeState) : ShapeRequest → Prop
  | .rectangles operation kind ordering window xOffset yOffset rects =>
    ordering ≤ 3 → MovesFit xOffset yOffset rects ∧
      ∀ win, s.windows.lookup window = some win → kind ≠ .other → ¬(rects = [] ∧ operation = .set) ∧
        Suits win.fullRect (win.target kind) (some (.moved xOffset yOffset rects)) operation
  | .mask operation kind window xOffset yOffset pixmap =>
    if pixmap = 0 then
      ∀ win, s.windows.lookup window = some win → kind ≠ .other →
        Suits win.fullRect (win.target kind) none operation
    else
      ∀ pix, s.pixmaps.lookup pixmap = some pix → ∃ bounds, MaskFits pix xOffset yOffset bounds ∧
        ∀ win, s.windows.lookup window = some win → kind ≠ .other →
          Suits win.fullRect (win.target kind) (some (.masked xOffset yOffset pix bounds)) operation
  | .combine operation destKind srcKind destWindow xOffset yOffset srcWindow =>
    match getWindowShape s srcWindow srcKind with
    | none => ∀ win, s.windows.lookup destWindow = some win → destKind ≠ .other →
      Narrow (win.target destKind) none operation
    | some rects => MovesFit xOffset yOffset rects ∧
      (∀ src, s.windows.lookup srcWindow = some src → src.target srcKind = none →
        pointsOf rects = src.fullRect.points) ∧
      ∀ win, s.windows.lookup destWindow = some win → destKind ≠ .other →
        Suits win.fullRect (win.target destKind) (some (.moved xOffset yOffset rects)) operation
  | .offset kind window xOffset yOffset =>
    ∀ win, s.windows.lookup window = some win → kind ≠ .other →
      match win.target kind with
      | some rects => MovesFit xOffset yOffset rects ∧ Narrow none (some (.moved xOffset yOffset rects)) .set
      | none => xOffset = 0 ∧ yOffset = 0

section Combining

variable {full : RegionRect} {target : Option (List RegionRect)} {rects existing : List RegionRect} {new : NewRegion}
  {operation : ShapeOp}

theorem points_nil : pointsOf [] = ∅ := Set.eq_empty_of_forall_notMem fun p ⟨r, hr, _⟩ => by cases hr

theorem admittedBy_orUnset (h : rects ≠ []) : admittedBy full (orUnset rects) = pointsOf rects := by
  cases rects with
  | nil => exact absurd rfl h
  | cons r rects => rfl

theorem ne_nil_of_points {S : Set (Int × Int)} (h : pointsOf rects = S) (hS : S.Nonempty) : rects ≠ [] := by
  rintro rfl
  obtain ⟨p, hp⟩ := hS
  rw [← h] at hp
  obtain ⟨r, hr, -⟩ := hp
  cases hr

theorem admittedBy_result {x : Checked (List RegionRect)} {S : Set (Int × Int)} (hnone : NoOverflow x)
    (hpts : pointsOf x.value = S) (hS : S.Nonempty) :
    NoOverflow (do return orUnset (← x) : Checked (Option (List RegionRect))) ∧
      admittedBy full (do return orUnset (← x) : Checked (Option (List RegionRect))).value = S :=
  ⟨within_bind.mpr ⟨hnone, within_pure _⟩, (admittedBy_orUnset (ne_nil_of_points hpts hS)).trans hpts⟩

theorem combined_none (h : Reads full target none operation) :
    NoOverflow (combined full target none operation) ∧
      admittedBy full (combined full target none operation).value =
        operation.onSets (admittedBy full target) full.points := by
  cases target with
  | none =>
    cases operation with
    | set | other => exact ⟨within_pure _, rfl⟩
    | union => exact ⟨within_pure _, (Set.union_self _).symm⟩
    | intersect => exact ⟨within_pure _, (Set.inter_self _).symm⟩
    | subtract => exact ⟨within_pure _, Eq.trans h (Set.sdiff_self).symm⟩
    | invert => exact ⟨within_pure _, points_nil.trans (Set.sdiff_self).symm⟩
  | some existing =>
    cases operation with
    | set | other => exact ⟨within_pure _, rfl⟩
    | union =>
      refine ⟨within_pure _, ?_⟩
      rw [combined, value_pure, getD_none, append_nil, getD_some]
      rcases h with rfl | h
      · exact (Set.empty_union _).symm.trans (congrArg (· ∪ _) points_nil.symm)
      · by_cases hemp : existing = []
        · subst hemp
          exact (Set.empty_union _).symm.trans (congrArg (· ∪ _) points_nil.symm)
        · exact (admittedBy_orUnset hemp).trans (Set.union_eq_self_of_subset_right h).symm
    | intersect => exact ⟨within_pure _, (Set.inter_eq_self_of_subset_left h).symm⟩
    | subtract => exact ⟨within_pure _, (sdiff_eq_left.mpr h).symm⟩
    | invert => exact ⟨within_pure _, Eq.symm h⟩

theorem noOverflow_combined_none : NoOverflow (combined full target none operation) := by
  cases target <;> cases operation <;> exact within_pure _

theorem mem_orUnset {result : List RegionRect} (h : orUnset rects = some result) : result = rects := by
  rw [orUnset] at h
  split at h
  · cases h
  · exact (some.inj h).symm

/-- The extents of the shape that an operation leaves overflow nowhere. -/
def Extends (shape : Option (List RegionRect)) : Prop := ∀ rects ∈ shape, NoOverflow (computeExtents rects)

theorem extends_some {b : Box Int} (hb : Small b) (h : ∀ r ∈ rects, r.box.Inside b) : Extends (some rects) :=
  fun _ hrects => some.inj hrects ▸ noOverflow_extents_of_inside hb h

theorem extends_orUnset {b : Box Int} (hb : Small b) (h : ∀ r ∈ rects, r.box.Inside b) : Extends (orUnset rects) :=
  fun _ hrects => mem_orUnset hrects ▸ noOverflow_extents_of_inside hb h

theorem extends_none : Extends none := fun _ h => absurd h (not_mem_none _)

theorem extends_nil : Extends (some []) := fun _ hrects => some.inj hrects ▸ within_pure _

theorem extends_combined_none (h : Narrow target none operation) :
    Extends (combined full target none operation).value := by
  obtain ⟨b, hb, h⟩ := h
  cases target with
  | none =>
    cases operation with
    | invert => exact extends_nil
    | _ => exact extends_none
  | some existing =>
    cases operation with
    | set => exact extends_none
    | union =>
      rw [combined, value_pure, getD_none, append_nil, getD_some]
      exact extends_orUnset hb (h.1 existing rfl)
    | intersect => exact extends_some hb h
    | invert => exact extends_some hb h
    | subtract => exact extends_some hb (h existing rfl)
    | other => exact extends_some hb (h existing rfl)

theorem small_full (h : full.Fits) : Small full.box := by
  obtain ⟨hw, hh, -, -⟩ := h
  simp only [CheckedRegions.Small, RegionRect.box]
  omega

theorem extends_combined_some (hread : Reads full target (some new) operation)
    (h : Narrow target (some new) operation) (hnew : Represents rects new) :
    Extends (combined full target (some rects) operation).value := by
  obtain ⟨b, hb, h⟩ := h
  cases target with
  | none =>
    cases operation with
    | set => exact extends_some hb (hnew.within b (h new rfl))
    | other => exact extends_none
    | union =>
      rw [combined, value_pure, getD_none, nil_append, getD_some]
      exact extends_orUnset hb (hnew.within b (h.2 new rfl))
    | intersect => exact extends_some hb (hnew.within b h)
    | subtract =>
      obtain ⟨⟨hfull, -⟩, -⟩ := hread
      refine extends_orUnset (small_full hfull) ?_
      rw [value_subtractRects]
      exact subtract_inside (fits_single hfull) (forall_mem_singleton.mpr Box.inside_rfl) _
    | invert => exact extends_nil
  | some existing =>
    cases operation with
    | set => exact extends_some hb (hnew.within b (h new rfl))
    | other => exact extends_some hb (h existing rfl)
    | union =>
      refine extends_orUnset hb ?_
      exact forall_mem_append.mpr ⟨h.1 existing rfl, hnew.within b (h.2 new rfl)⟩
    | intersect =>
      obtain ⟨⟨hexg, hfits⟩, -⟩ := hread
      refine extends_orUnset hb fun r hr => ?_
      rw [value_intersectRects] at hr
      obtain ⟨a, ha, c, hc, hra, hrc⟩ := intersect_inside hexg (hnew.fits hfits) hr
      rcases h with h | h
      · exact Inside.trans hra (h a ha)
      · exact Inside.trans hrc (hnew.within b h c hc)
    | subtract =>
      obtain ⟨⟨hexg, -⟩, -⟩ := hread
      refine extends_orUnset hb ?_
      rw [value_subtractRects]
      exact subtract_inside hexg (h existing rfl) _
    | invert =>
      obtain ⟨⟨-, hfits⟩, -⟩ := hread
      refine extends_orUnset hb ?_
      rw [value_subtractRects]
      exact subtract_inside (hnew.fits hfits) (hnew.within b h) _

theorem combined_some (h : Reads full target (some new) operation) (hnew : Represents rects new) :
    NoOverflow (combined full target (some rects) operation) ∧
      admittedBy full (combined full target (some rects) operation).value =
        operation.onSets (admittedBy full target) new.points := by
  have hpts := hnew.points
  cases target with
  | none =>
    cases operation with
    | set => exact ⟨within_pure _, hpts⟩
    | other => exact ⟨within_pure _, rfl⟩
    | union =>
      refine ⟨within_pure _, ?_⟩
      rw [combined, value_pure, getD_none, nil_append, getD_some]
      by_cases hemp : rects = []
      · subst hemp
        rw [ShapeOp.onSets, ← hpts]
        exact ((congrArg (_ ∪ ·) points_nil).trans (Set.union_empty _)).symm
      · refine ((admittedBy_orUnset hemp).trans hpts).trans ?_
        exact (Set.union_eq_self_of_subset_left (h.resolve_left fun hnone => hemp (hnew.isEmpty.mpr hnone))).symm
    | intersect => exact ⟨within_pure _, hpts.trans (Set.inter_eq_self_of_subset_right h).symm⟩
    | subtract =>
      obtain ⟨⟨hfull, hfits⟩, hS⟩ := h
      have hfulls : ∀ r ∈ [full], r.Fits := forall_mem_singleton.mpr hfull
      refine admittedBy_result (noOverflow_subtractRects hfulls (hnew.fits hfits)) ?_ hS
      rw [pointsOf_subtractRects hfulls (hnew.fits hfits), hpts]
      exact congrArg (· \ _) (points_single full)
    | invert => exact ⟨within_pure _, points_nil.trans (Set.sdiff_eq_empty.mpr h).symm⟩
  | some existing =>
    cases operation with
    | set => exact ⟨within_pure _, hpts⟩
    | other => exact ⟨within_pure _, rfl⟩
    | union =>
      have hne : existing ++ rects ≠ [] := by
        rw [ne_eq, append_eq_nil_iff, not_and_or, hnew.isEmpty]
        exact h
      refine ⟨within_pure _, (admittedBy_orUnset hne).trans ?_⟩
      rw [pointsOf_append, hpts]
      rfl
    | intersect =>
      obtain ⟨⟨hexg, hfits⟩, hS⟩ := h
      refine admittedBy_result (noOverflow_intersectRects hexg (hnew.fits hfits)) ?_ hS
      rw [pointsOf_intersectRects hexg (hnew.fits hfits), hpts]
      rfl
    | subtract =>
      obtain ⟨⟨hexg, hfits⟩, hS⟩ := h
      refine admittedBy_result (noOverflow_subtractRects hexg (hnew.fits hfits)) ?_ hS
      rw [pointsOf_subtractRects hexg (hnew.fits hfits), hpts]
      rfl
    | invert =>
      obtain ⟨⟨hexg, hfits⟩, hS⟩ := h
      refine admittedBy_result (noOverflow_subtractRects (hnew.fits hfits) hexg) ?_ hS
      rw [pointsOf_subtractRects (hnew.fits hfits) hexg, hpts]
      rfl

end Combining

section Requests

variable {s : ShapeState} {window : XId} {win : ShapeWindow} {kind : ShapeKind} {operation : ShapeOp}
  {rects : List RegionRect} {xOffset yOffset : Int16}

@[simp] theorem target_setTarget (win : ShapeWindow) (shape : Option (List RegionRect)) (hkind : kind ≠ .other) :
    (win.setTarget shape kind).target kind = shape := by
  cases kind with
  | other => exact absurd rfl hkind
  | _ => rfl

theorem fullRect_setTarget (win : ShapeWindow) (shape : Option (List RegionRect)) (kind : ShapeKind) :
    (win.setTarget shape kind).fullRect = win.fullRect := by
  cases kind <;> rfl

theorem admitted_setTarget (win : ShapeWindow) (shape : Option (List RegionRect)) (hkind : kind ≠ .other) :
    admitted (win.setTarget shape kind) kind = admittedBy win.fullRect shape := by
  rw [admitted, fullRect_setTarget, target_setTarget win shape hkind]

variable {newRects : Option (List RegionRect)}

theorem noOverflow_applyShape (h : ∀ win, s.windows.lookup window = some win → kind ≠ .other →
      NoOverflow (combined win.fullRect (win.target kind) newRects operation)) :
    NoOverflow (applyShape s window kind operation newRects) := by
  rw [applyShape]
  split
  · exact within_pure _
  · next win hwin =>
    split
    · exact within_pure _
    · next hkind => exact within_bind.mpr ⟨h win hwin hkind, within_pure _⟩

theorem lookup_applyShape (hwin : s.windows.lookup window = some win)
    (hkind : kind ≠ .other) : (applyShape s window kind operation newRects).value.windows.lookup window =
      some (win.setTarget (combined win.fullRect (win.target kind) newRects operation).value kind) := by
  rw [applyShape, hwin]
  dsimp only
  rw [if_neg hkind]
  exact Finmap.lookup_insert _

theorem windows_sendShapeNotify (window : XId) (kind : ShapeKind) (s : ShapeState) :
    (sendShapeNotify window kind s).value.windows = s.windows := by
  rw [sendShapeNotify]
  split
  · rfl
  · split
    · rfl
    · rw [value_bind, value_pure]
      split <;> rfl

theorem noOverflow_sendShapeNotify
    (h : ∀ win, s.windows.lookup window = some win → kind ≠ .other → Extends (win.target kind)) :
    NoOverflow (sendShapeNotify window kind s) := by
  rw [sendShapeNotify]
  split
  · exact within_pure _
  · next win hwin =>
    split
    · exact within_pure _
    · next hkind =>
      refine within_bind.mpr ⟨?_, within_pure _⟩
      have hextends := h win hwin hkind
      cases htgt : win.target kind with
      | none => exact within_pure _
      | some rects =>
        rw [htgt] at hextends
        exact hextends rects rfl

theorem noOverflow_reshape (h : ∀ win, s.windows.lookup window = some win → kind ≠ .other →
      NoOverflow (combined win.fullRect (win.target kind) newRects operation) ∧
        Extends (combined win.fullRect (win.target kind) newRects operation).value) :
    NoOverflow (reshape s window kind operation newRects) := by
  refine within_bind.mpr ⟨noOverflow_applyShape fun win hwin hkind => (h win hwin hkind).1, ?_⟩
  refine noOverflow_sendShapeNotify fun win' hwin' hkind => ?_
  cases hwin : s.windows.lookup window with
  | none =>
    rw [applyShape, hwin, value_pure, hwin] at hwin'
    cases hwin'
  | some win =>
    rw [lookup_applyShape hwin hkind] at hwin'
    rw [← some.inj hwin', target_setTarget win _ hkind]
    exact (h win hwin hkind).2

theorem lookup_reshape (hwin : s.windows.lookup window = some win)
    (hkind : kind ≠ .other) : (reshape s window kind operation newRects).value.windows.lookup window =
      some (win.setTarget (combined win.fullRect (win.target kind) newRects operation).value kind) := by
  rw [reshape, value_bind, windows_sendShapeNotify, lookup_applyShape hwin hkind]

theorem reshape_correct {new : Set (Int × Int)}
    (hwin : s.windows.lookup window = some win) (hkind : kind ≠ .other)
    (h : admittedBy win.fullRect (combined win.fullRect (win.target kind) newRects operation).value =
      operation.onSets (admitted win kind) new) :
    ∃ win', (reshape s window kind operation newRects).value.windows.lookup window = some win' ∧
      admitted win' kind = operation.onSets (admitted win kind) new :=
  ⟨_, lookup_reshape hwin hkind, (admitted_setTarget win _ hkind).trans h⟩

theorem toInt_add {a b : Int16} (h : FitsI16 (a.toInt + b.toInt)) : (a + b).toInt = a.toInt + b.toInt := by
  rw [Int16.toInt_add, Int.bmod_def]
  unfold FitsI16 at h
  omega

theorem saturatingAdd_eq {a b : Int16} (h : FitsI16 (a.toInt + b.toInt)) : saturatingAdd a b = a + b := by
  apply Int16.toInt_inj.mp
  rw [toInt_add h]
  exact Int16.toInt_ofIntClamp h.1 (Int.le_of_lt_add_one h.2)

theorem mem_moved_points {r : RegionRect} (hx : FitsI16 (r.x.toInt + xOffset.toInt))
    (hy : FitsI16 (r.y.toInt + yOffset.toInt)) (p : Int × Int) :
    p ∈ (RegionRect.mk (r.x + xOffset) (r.y + yOffset) r.width r.height).points ↔
      p ∈ moved xOffset yOffset r.points := by
  simp only [moved, RegionRect.points, RegionRect.box, Boxes.Box.mem_points, Set.mem_ofPred_eq, toInt_add hx,
    toInt_add hy]
  omega

theorem represents_moved (h : MovesFit xOffset yOffset rects) :
    Represents (rects.mapM fun r => shifted r xOffset yOffset).value (.moved xOffset yOffset rects) := by
  have hval : (rects.mapM fun r => shifted r xOffset yOffset).value =
      rects.map fun r => ⟨r.x + xOffset, r.y + yOffset, r.width, r.height⟩ := value_mapM _ _
  rw [hval]
  refine ⟨?_, map_eq_nil_iff, fun hfits => forall_mem_map.mpr hfits, fun b h => forall_mem_map.mpr h⟩
  ext p
  simp only [mem_pointsOf, List.mem_map, exists_exists_and_eq_and]
  exact exists_congr fun r => and_congr_right fun hr => mem_moved_points (h r hr).1 (h r hr).2 p

theorem represents_masked {pix : Pixmap} {bounds : RegionRect} (h : MaskFits pix xOffset yOffset bounds) :
    Represents (extractShapeFromPixmap pix xOffset yOffset).value (.masked xOffset yOffset pix bounds) := by
  obtain ⟨-, hpts, hins, hemp⟩ := extractShapeFromPixmap_spec h
  exact ⟨hpts, hemp, fun _ r hr => fits_of_inside h.fits (hins r hr), fun b hb r hr =>
    Inside.trans (hins r hr) hb⟩

theorem represents_translate (h : MovesFit xOffset yOffset rects) :
    Represents ((XFixesRegion.mk rects).translate xOffset yOffset).rects (.moved xOffset yOffset rects) := by
  have htranslate : ((XFixesRegion.mk rects).translate xOffset yOffset).rects =
      (rects.mapM fun r => shifted r xOffset yOffset).value := by
    refine Eq.trans (map_congr_left fun r hr => ?_) (value_mapM _ _).symm
    rw [saturatingAdd_eq (h r hr).1, saturatingAdd_eq (h r hr).2]
    rfl
  rw [htranslate]
  exact represents_moved h

theorem noOverflow_moved (h : MovesFit xOffset yOffset rects) :
    NoOverflow (rects.mapM fun r => shifted r xOffset yOffset) :=
  within_mapM.mpr fun r hr => within_bind.mpr ⟨within_addI16.mpr (h r hr).1,
    within_bind.mpr ⟨within_addI16.mpr (h r hr).2, within_pure _⟩⟩

variable {req : ShapeRequest}

theorem correct_of_combined {α : Type} (x : Checked α) (newRects : α → Option (List RegionRect))
    (new : RegionRect → Set (Int × Int))
    (hhdl : handleShapeRequest s req = x >>= fun a => reshape s window kind operation (newRects a))
    (hchg : ∀ c ∈ change s req, c = ⟨window, kind, fun full old => operation.onSets old (new full)⟩)
    (hx : NoOverflow x)
    (hcombined : ∀ win, s.windows.lookup window = some win → kind ≠ .other →
      (NoOverflow (combined win.fullRect (win.target kind) (newRects x.value) operation) ∧
        admittedBy win.fullRect (combined win.fullRect (win.target kind) (newRects x.value) operation).value =
          operation.onSets (admitted win kind) (new win.fullRect)) ∧
      Extends (combined win.fullRect (win.target kind) (newRects x.value) operation).value) : Correct s req := by
  constructor
  · rw [hhdl]
    exact within_bind.mpr ⟨hx, noOverflow_reshape fun win hwin hkind =>
      ⟨(hcombined win hwin hkind).1.1, (hcombined win hwin hkind).2⟩⟩
  · intro c hc win hwin hkind
    obtain rfl := hchg c hc
    rw [hhdl]
    exact reshape_correct hwin hkind (hcombined win hwin hkind).1.2

theorem correct_of_error (hhdl : handleShapeRequest s req = pure s)
    (hchg : change s req = none) : Correct s req :=
  ⟨hhdl ▸ within_pure _, fun c hc => absurd (hchg ▸ hc) (not_mem_none c)⟩

theorem correct_rectangles {ordering : UInt8}
    (h : Sound s (.rectangles operation kind ordering window xOffset yOffset rects)) :
    Correct s (.rectangles operation kind ordering window xOffset yOffset rects) := by
  by_cases hordering : ordering > 3
  · exact correct_of_error (if_pos hordering) (if_pos hordering)
  · obtain ⟨hmvs, hreads⟩ := h (UInt8.not_lt.mp hordering)
    have hrepresents := represents_moved hmvs
    refine correct_of_combined (rects.mapM fun r => shifted r xOffset yOffset)
      (fun rects => if rects.isEmpty ∧ operation = .set then none else some rects)
      (fun _ => moved xOffset yOffset (pointsOf rects)) (if_neg hordering) ?_ (noOverflow_moved hmvs) ?_
    · intro c hc
      rw [change, if_neg hordering] at hc
      exact (some.inj hc).symm
    · intro win hwin hkind
      obtain ⟨hset, hread⟩ := hreads win hwin hkind
      rw [if_neg fun h => hset ⟨hrepresents.isEmpty.mp (isEmpty_iff.mp h.1), h.2⟩]
      exact ⟨combined_some hread.1 hrepresents, extends_combined_some hread.1 hread.2 hrepresents⟩

theorem correct_mask {pixmap : XId} (h : Sound s (.mask operation kind window xOffset yOffset pixmap)) :
    Correct s (.mask operation kind window xOffset yOffset pixmap) := by
  by_cases hpixmap : pixmap = 0
  · subst hpixmap
    have hreads : ∀ win, s.windows.lookup window = some win → kind ≠ .other →
        Suits win.fullRect (win.target kind) none operation := h
    exact correct_of_combined (pure ()) (fun _ => none) RegionRect.points rfl
      (fun c hc => (some.inj hc).symm) (within_pure _) fun win hwin hkind =>
        ⟨combined_none (hreads win hwin hkind).1, extends_combined_none (hreads win hwin hkind).2⟩
  · rw [Sound, if_neg hpixmap] at h
    cases hpix : s.pixmaps.lookup pixmap with
    | none =>
      refine correct_of_error ?_ ?_
      · rw [handleShapeRequest, if_neg hpixmap, hpix]
      · rw [change, if_neg hpixmap, hpix]
        rfl
    | some pix =>
      obtain ⟨bounds, hfits, hreads⟩ := h pix hpix
      have hnone := (extractShapeFromPixmap_spec hfits).1
      refine correct_of_combined (extractShapeFromPixmap pix xOffset yOffset) some
        (fun _ => { p | ∃ q ∈ nonZero pix, p = (q.1 + xOffset.toInt, q.2 + yOffset.toInt) }) ?_ ?_ hnone
        fun win hwin hkind => ⟨combined_some (hreads win hwin hkind).1 (represents_masked hfits),
          extends_combined_some (hreads win hwin hkind).1 (hreads win hwin hkind).2 (represents_masked hfits)⟩
      · rw [handleShapeRequest, if_neg hpixmap, hpix]
      · intro c hc
        rw [change, if_neg hpixmap, hpix, map_some, mem_some_iff] at hc
        exact hc.symm

theorem getWindowShape_of_lookup {srcWindow : XId} {srcKind : ShapeKind} {src : ShapeWindow}
    (hsrc : s.windows.lookup srcWindow = some src) (hkind : srcKind ≠ .other) :
    ∃ unset, getWindowShape s srcWindow srcKind = some ((src.target srcKind).getD unset) := by
  rw [getWindowShape, hsrc]
  cases srcKind with
  | bounding => exact ⟨_, or_some⟩
  | clip | input => exact ⟨_, (congrArg (Option.or _) or_some).trans or_some⟩
  | other => exact absurd rfl hkind

theorem correct_combine {destKind srcKind : ShapeKind} {destWindow srcWindow : XId}
    (h : Sound s (.combine operation destKind srcKind destWindow xOffset yOffset srcWindow)) :
    Correct s (.combine operation destKind srcKind destWindow xOffset yOffset srcWindow) := by
  rw [Sound] at h
  cases hrects : getWindowShape s srcWindow srcKind with
  | none =>
    rw [hrects] at h
    have hchg : change s (.combine operation destKind srcKind destWindow xOffset yOffset srcWindow) = none := by
      rw [change]
      split
      · rfl
      · next hkind =>
        cases hsrc : s.windows.lookup srcWindow with
        | none => rfl
        | some src =>
          obtain ⟨unset, hsome⟩ := getWindowShape_of_lookup hsrc hkind
          exact absurd (hrects.symm.trans hsome) nofun
    refine ⟨?_, fun c hc => absurd (hchg ▸ hc) (not_mem_none c)⟩
    rw [handleShapeRequest, hrects]
    exact noOverflow_reshape fun win hwin hkind =>
      ⟨noOverflow_combined_none, extends_combined_none (h win hwin hkind)⟩
  | some rects =>
    rw [hrects] at h
    obtain ⟨hmvs, hdefault, hreads⟩ := h
    refine correct_of_combined (rects.mapM fun r => shifted r xOffset yOffset) some
      (fun _ => moved xOffset yOffset (pointsOf rects)) ?_ ?_ (noOverflow_moved hmvs)
      fun win hwin hkind => ⟨combined_some (hreads win hwin hkind).1 (represents_moved hmvs),
        extends_combined_some (hreads win hwin hkind).1 (hreads win hwin hkind).2 (represents_moved hmvs)⟩
    · rw [handleShapeRequest, hrects]
    · intro c hc
      rw [change] at hc
      split at hc
      · cases hc
      · next hkind =>
        obtain ⟨src, hsrc, rfl⟩ := map_eq_some_iff.mp hc
        obtain ⟨unset, hread⟩ := getWindowShape_of_lookup hsrc hkind
        have hshape := some.inj (hrects.symm.trans hread)
        have hadm : admitted src srcKind = pointsOf rects := by
          rw [admitted, admittedBy]
          cases htgt : src.target srcKind with
          | none => exact (hdefault src hsrc htgt).symm
          | some shape =>
            rw [htgt] at hshape
            exact congrArg pointsOf hshape.symm
        rw [hadm]

theorem correct_offset (h : Sound s (.offset kind window xOffset yOffset)) :
    Correct s (.offset kind window xOffset yOffset) := by
  refine ⟨?_, ?_⟩
  · rw [handleShapeRequest]
    split
    · exact within_pure _
    · next win hwin =>
      refine noOverflow_sendShapeNotify fun win' hwin' hkind => ?_
      have hmvs := h win hwin hkind
      obtain rfl := some.inj ((Finmap.lookup_insert _).symm.trans hwin')
      rw [target_setTarget win _ hkind]
      cases htgt : win.target kind with
      | none => exact extends_none
      | some rects =>
        rw [htgt] at hmvs
        obtain ⟨hfits, b, hb, hnarrow⟩ := hmvs
        exact extends_some hb ((represents_translate hfits).within b (hnarrow _ rfl))
  · rintro _ ⟨⟩ win hwin hkind
    have hmvs := h win hwin hkind
    dsimp only at hwin hkind ⊢
    rw [handleShapeRequest, hwin, windows_sendShapeNotify]
    refine ⟨_, Finmap.lookup_insert _, (admitted_setTarget win _ hkind).trans ?_⟩
    rw [admitted]
    cases htgt : win.target kind with
    | none =>
      rw [htgt] at hmvs
      obtain ⟨rfl, rfl⟩ := hmvs
      simp [admittedBy, moved]
    | some rects =>
      rw [htgt] at hmvs
      exact (represents_translate hmvs.1).points

end Requests

theorem correct_of_sound {s : ShapeState} (h : Sound s req) : Correct s req := by
  cases req with
  | rectangles => exact correct_rectangles h
  | mask => exact correct_mask h
  | combine => exact correct_combine h
  | offset => exact correct_offset h

/-- In a run whose requests are all sound when they arrive, each leaves its operation's
result on the sets. -/
theorem correct_of_sound_run {s : ShapeState} {reqs : List ShapeRequest}
    (h : ∀ before req, before ++ [req] <+: reqs →
      Sound (before.foldl (fun s req => (handleShapeRequest s req).value) s) req) :
    ∀ before req, before ++ [req] <+: reqs →
      Correct (before.foldl (fun s req => (handleShapeRequest s req).value) s) req :=
  fun before req hpre => correct_of_sound (h before req hpre)

def oneWindow : ShapeState := ⟨(∅ : HashMap XId ShapeWindow).insert 1 ⟨100, 100, none, none, none, [7]⟩, ∅, []⟩

theorem lookup_oneWindow : oneWindow.windows.lookup 1 = some ⟨100, 100, none, none, none, [7]⟩ :=
  Finmap.lookup_insert _

/-- A square is set, and the left half of it subtracted. -/
theorem squareHalved_correct :
    Correct (handleShapeRequest oneWindow (.rectangles .set .bounding 0 1 0 0 [⟨10, 10, 20, 20⟩])).value
      (.rectangles .subtract .bounding 0 1 5 0 [⟨5, 10, 10, 20⟩]) := by
  have hrun : ∀ before req, before ++ [req] <+: [.rectangles .set .bounding 0 1 0 0 [⟨10, 10, 20, 20⟩],
        .rectangles .subtract .bounding 0 1 5 0 [⟨5, 10, 10, 20⟩]] →
      Correct (before.foldl (fun s req => (handleShapeRequest s req).value) oneWindow) req := by
    apply correct_of_sound_run
    have hins : (RegionRect.mk 10 10 20 20).box.Inside (RegionRect.mk 0 0 100 100).box :=
      ⟨⟨by decide, by decide⟩, by decide, by decide⟩
    have hsmall : Small (RegionRect.mk 0 0 100 100).box := ⟨by decide, by decide⟩
    rw [forall_prefix_cons, forall_prefix_cons]
    refine ⟨fun _ => ⟨by decide, fun _ _ _ => ⟨by decide, trivial, _, hsmall, ?_⟩⟩,
      fun _ => ⟨by decide, fun win hwin _ => ⟨by decide, ?_, _, hsmall, ?_⟩⟩, forall_prefix_nil⟩
    · rintro _ ⟨⟩
      exact forall_mem_singleton.mpr hins
    · obtain rfl := some.inj ((lookup_reshape lookup_oneWindow (by decide)).symm.trans hwin)
      have hfits : ∀ r ∈ [RegionRect.mk 10 10 20 20], r.Fits :=
        forall_mem_singleton.mpr ⟨by decide, by decide, by decide, by decide⟩
      have hmvd : ∀ r ∈ [RegionRect.mk 5 10 10 20], (RegionRect.mk (r.x + 5) (r.y + 0) r.width r.height).Fits :=
        forall_mem_singleton.mpr ⟨by decide, by decide, by decide, by decide⟩
      refine ⟨⟨hfits, hmvd⟩, (25, 10), ?_, ?_⟩
      · exact ⟨_, mem_singleton_self _, Boxes.Box.mem_points.mpr (by decide)⟩
      · rintro ⟨r, hr, hp⟩
        obtain rfl := mem_singleton.mp hr
        exact absurd (Boxes.Box.mem_points.mp hp) (by decide)
    · obtain rfl := some.inj ((lookup_reshape lookup_oneWindow (by decide)).symm.trans hwin)
      rintro _ ⟨⟩
      exact forall_mem_singleton.mpr hins
  exact hrun [_] _ prefix_rfl

/-- A window from which all is subtracted is left whole. -/
theorem emptied_whole : ¬Correct oneWindow (.rectangles .subtract .bounding 0 1 0 0 [⟨0, 0, 100, 100⟩]) := by
  intro h
  obtain ⟨win', hlook, hadm⟩ := h.changes _ rfl _ lookup_oneWindow (by decide)
  have hall : (handleShapeRequest oneWindow
      (.rectangles .subtract .bounding 0 1 0 0 [⟨0, 0, 100, 100⟩])).value.windows.lookup 1 =
        some ⟨100, 100, none, none, none, [7]⟩ := (lookup_reshape lookup_oneWindow (by decide)).trans rfl
  obtain rfl := some.inj (hall.symm.trans hlook)
  have hcor : ((0, 0) : Int × Int) ∈ (RegionRect.mk 0 0 100 100).points := Boxes.Box.mem_points.mpr (by decide)
  have hleft : ((0, 0) : Int × Int) ∉ moved 0 0 (pointsOf [⟨0, 0, 100, 100⟩]) :=
    ((Set.ext_iff.mp hadm _).mp hcor).2
  exact hleft ⟨_, mem_singleton_self _, Boxes.Box.mem_points.mpr (by decide)⟩

end X11Web.ShapeRequests
