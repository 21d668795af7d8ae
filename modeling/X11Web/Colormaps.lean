import Mathlib.Data.UInt
import X11Web.FreeCells

namespace X11Web.Colormaps

open FreeCells List

inductive VisualClass
  | staticGray
  | grayScale
  | staticColor
  | pseudoColor
  | trueColor
  | directColor
  deriving DecidableEq

abbrev Rgb := UInt16 × UInt16 × UInt16

/-- A colormap has as many flags as entries, and its cells are numbered by `u32` pixels. -/
structure ColormapState where
  visual : Nat
  visualClass : VisualClass
  entries : List Rgb
  allocated : List Bool
  nextFree : Nat
  sizes : allocated.length = entries.length
  pixels : entries.length ≤ 2 ^ 32

def grayLevel (nEntries i : Nat) : Rgb :=
  let v := UInt16.ofNat (i * 65535 / max nEntries 1)
  (v, v, v)

/-- The colormaps that `new_pseudocolor`, `new_grayscale` and `new_directcolor` make. -/
def newWritable (visualClass : VisualClass) (visual nEntries : Nat) (h : nEntries ≤ 2 ^ 32) : ColormapState where
  visual := visual
  visualClass := visualClass
  entries := (List.range nEntries).map (grayLevel nEntries)
  allocated := List.replicate nEntries false
  nextFree := 0
  sizes := by simp
  pixels := by simpa using h

def newPseudocolor := newWritable .pseudoColor

namespace ColormapState

variable (cm : ColormapState) {n i : Nat} {rgb : Rgb} {px : List Nat}

def isWritable : Bool :=
  match cm.visualClass with
  | .grayScale | .pseudoColor | .directColor => true
  | _ => false

def withFlags (flags : List Bool) (h : flags.length = cm.allocated.length) : ColormapState :=
  { cm with allocated := flags, sizes := h.trans cm.sizes }

def mark (px : List Nat) : ColormapState := cm.withFlags (write true cm.allocated px) (length_write true _ px)

def unmark (px : List Nat) : ColormapState := cm.withFlags (write false cm.allocated px) (length_write false _ px)

@[simp] theorem allocated_mark : (cm.mark px).allocated = write true cm.allocated px := rfl
@[simp] theorem entries_mark : (cm.mark px).entries = cm.entries := rfl
@[simp] theorem visualClass_mark : (cm.mark px).visualClass = cm.visualClass := rfl
@[simp] theorem allocated_unmark : (cm.unmark px).allocated = write false cm.allocated px := rfl
@[simp] theorem entries_unmark : (cm.unmark px).entries = cm.entries := rfl
@[simp] theorem visualClass_unmark : (cm.unmark px).visualClass = cm.visualClass := rfl

theorem unmark_mark (h : ∀ i ∈ px, isFree cm.allocated i = true) : (cm.mark px).unmark px = cm := by
  have hflags := write_false_write_true h
  simp only [mark, unmark, withFlags, hflags]

def sharedCell (rgb : Rgb) : Option Nat :=
  (List.range cm.entries.length).find? fun i => cm.entries[i]? == some rgb && cm.allocated[i]? == some true

def nextFreeCell : Option Nat :=
  ((List.range cm.entries.length).map fun i => (cm.nextFree + i) % cm.entries.length).find? (isFree cm.allocated)

def distance (x y : Rgb) : Nat :=
  ((x.1.toNat : Int) - y.1.toNat).natAbs ^ 2 + ((x.2.1.toNat : Int) - y.2.1.toNat).natAbs ^ 2 +
    ((x.2.2.toNat : Int) - y.2.2.toNat).natAbs ^ 2

def closestEntry (rgb : Rgb) : Nat :=
  (cm.entries.zipIdx.foldl
    (fun best entry => if distance rgb entry.1 < best.2 then (entry.2, distance rgb entry.1) else best)
    (0, 2 ^ 64 - 1)).1

def packRgb (rgb : Rgb) : Nat :=
  ((rgb.1 >>> 8).toNat <<< 16) ||| ((rgb.2.1 >>> 8).toNat <<< 8) ||| (rgb.2.2 >>> 8).toNat

/-- The map with the colour in one more allocated cell, and the cursor behind it. -/
def claimCell (rgb : Rgb) (idx : Nat) : ColormapState where
  visual := cm.visual
  visualClass := cm.visualClass
  entries := cm.entries.set idx rgb
  allocated := cm.allocated.set idx true
  nextFree := (idx + 1) % cm.entries.length
  sizes := by rw [length_set, length_set, cm.sizes]
  pixels := by rw [length_set]; exact cm.pixels

/-- `alloc_color` on a writable indexed map: an allocated cell of the colour is shared. -/
def allocIndexed (rgb : Rgb) : ColormapState × Option Nat :=
  match cm.sharedCell rgb with
  | some i => (cm, some i)
  | none =>
    match cm.nextFreeCell with
    | some idx => (cm.claimCell rgb idx, some idx)
    | none => (cm, none)

/-- `alloc_color`. -/
def allocColor (rgb : Rgb) : ColormapState × Option Nat :=
  match cm.visualClass with
  | .trueColor | .directColor => (cm, some (packRgb rgb))
  | .staticGray | .staticColor => (cm, some (cm.closestEntry rgb))
  | .pseudoColor | .grayScale => cm.allocIndexed rgb

/-- `alloc_cells`: the lowest free cells are taken one by one, and given back when
they turn out too few. -/
def allocCells (nColors : Nat) : ColormapState × Option (List Nat) :=
  if !cm.isWritable then (cm, none)
  else
    let scan := (List.range cm.entries.length).foldl (claimStep nColors) (cm.allocated, [])
    let taken := cm.withFlags scan.1 (length_foldl_claimStep nColors _ cm.allocated [])
    if scan.2.length < nColors then (taken.unmark scan.2, none) else (taken, some scan.2)

/-- `alloc_cells_contiguous`. -/
def allocCellsContiguous (nColors : Nat) : ColormapState × Option (List Nat) :=
  if !cm.isWritable then (cm, none)
  else if nColors = 0 then (cm, some [])
  else
    match scanRun cm.allocated nColors (List.range cm.entries.length) 0 0 with
    | some runStart => (cm.mark (List.range' runStart nColors), some (List.range' runStart nColors))
    | none => (cm, none)

/-- `free_cells`: a pixel outside the table is passed over. -/
def freeCells (px : List Nat) : ColormapState := cm.unmark px

end ColormapState

structure ColorItem where
  pixel : Nat
  rgb : Rgb
  flags : UInt8

/-- The entry after an item of StoreColors; no flag stands for all three. -/
def storeEntry (item : ColorItem) (entry : Rgb) : Rgb :=
  let red := if item.flags &&& 1 ≠ 0 then item.rgb.1 else entry.1
  let green := if item.flags &&& 2 ≠ 0 then item.rgb.2.1 else entry.2.1
  let blue := if item.flags &&& 4 ≠ 0 then item.rgb.2.2 else entry.2.2
  if item.flags = 0 then item.rgb else (red, green, blue)

namespace ColormapState

variable (cm : ColormapState) {n i : Nat} {rgb : Rgb} {px : List Nat}

def withEntries (entries : List Rgb) (h : entries.length = cm.entries.length) : ColormapState :=
  { cm with entries, sizes := cm.sizes.trans h.symm, pixels := h ▸ cm.pixels }

def storeItem (item : ColorItem) : ColormapState :=
  cm.withEntries (cm.entries.modify item.pixel (storeEntry item)) (length_modify _ _ _)

def storeColors (items : List ColorItem) : ColormapState := items.foldl storeItem cm

/-! ## Cells taken several at a time -/

theorem scan_eq (n : Nat) : (List.range cm.entries.length).foldl (claimStep n) (cm.allocated, []) =
    (write true cm.allocated ((available cm.allocated).take n),
      (available cm.allocated).take n) := by
  rw [foldl_claimStep n nodup_range, available, cm.sizes]
  rfl

theorem allocCells_eq (hw : cm.isWritable = true) (n : Nat) :
    cm.allocCells n =
      if n ≤ (available cm.allocated).length
      then (cm.mark ((available cm.allocated).take n), some ((available cm.allocated).take n))
      else (cm, none) := by
  have hfree : ∀ i ∈ (available cm.allocated).take n, isFree cm.allocated i = true := fun i hi =>
    mem_available.mp (mem_of_mem_take hi)
  have hlen := length_take (i := n) (l := available cm.allocated)
  simp only [allocCells, hw, Bool.not_true, Bool.false_eq_true, if_false, scan_eq]
  by_cases hn : n ≤ (available cm.allocated).length
  · rw [if_neg (by omega), if_pos hn]
    rfl
  · rw [if_pos (by omega), if_neg hn]
    exact congrArg (·, none) (cm.unmark_mark hfree)

theorem allocCellsContiguous_cases (hw : cm.isWritable = true) (n : Nat) :
    (∃ start, IsLeast { s | RunAt cm.allocated n s } start ∧
      cm.allocCellsContiguous n = (cm.mark (List.range' start n), some (List.range' start n))) ∨
    (∀ s, ¬RunAt cm.allocated n s) ∧ cm.allocCellsContiguous n = (cm, none) := by
  simp only [allocCellsContiguous, hw, Bool.not_true, Bool.false_eq_true, if_false]
  by_cases hn : n = 0
  · subst hn
    exact .inl ⟨0, ⟨fun k hk => absurd hk (Nat.not_lt_zero k), fun s _ => Nat.zero_le s⟩, rfl⟩
  · rw [if_neg hn, ← cm.sizes]
    have hscan := @scanRun_lowest cm.allocated n (Nat.pos_of_ne_zero hn)
    revert hscan
    cases scanRun cm.allocated n (List.range cm.allocated.length) 0 0 with
    | some start => exact fun hleast => .inl ⟨start, hleast, rfl⟩
    | none => exact fun hnone => .inr ⟨hnone, rfl⟩

/-- An allocation that succeeds exactly when the cells are available, marks the cells
that it returns and no others, and leaves the map as it was when it fails. -/
structure Exact (possible : Prop) (lowest : List Nat → Prop) (result : ColormapState × Option (List Nat)) :
    Prop where
  succeeds : (∃ px, result.2 = some px) ↔ possible
  marked : ∀ px, result.2 = some px → lowest px ∧ result.1 = cm.mark px
  unchanged : result.2 = none → result.1 = cm

theorem exact_some {possible : Prop} {lowest : List Nat → Prop} (ha : possible) (hl : lowest px) :
    cm.Exact possible lowest (cm.mark px, some px) where
  succeeds := iff_of_true ⟨px, rfl⟩ ha
  marked px' hpx := by
    obtain rfl := Option.some.inj hpx
    exact ⟨hl, rfl⟩
  unchanged h := by cases h

theorem exact_none {possible : Prop} {lowest : List Nat → Prop} (ha : ¬possible) :
    cm.Exact possible lowest (cm, none) where
  succeeds := iff_of_false (by simp) ha
  marked px h := by cases h
  unchanged _ := rfl

theorem allocCellsContiguous_exact (hw : cm.isWritable = true) (n : Nat) :
    cm.Exact (∃ start, RunAt cm.allocated n start)
      (fun px => ∃ start, IsLeast { s | RunAt cm.allocated n s } start ∧ px = List.range' start n)
      (cm.allocCellsContiguous n) := by
  rcases cm.allocCellsContiguous_cases hw n with ⟨start, hleast, heq⟩ | ⟨hnone, heq⟩
  · rw [heq]
    exact cm.exact_some ⟨start, hleast.1⟩ ⟨start, hleast, rfl⟩
  · rw [heq]
    exact cm.exact_none fun ⟨start, hrun⟩ => hnone start hrun

theorem allocCells_exact (hw : cm.isWritable = true) (n : Nat) :
    cm.Exact (n ≤ (available cm.allocated).length)
      (fun px => px = (available cm.allocated).take n ∧ px.length = n)
      (cm.allocCells n) := by
  rw [cm.allocCells_eq hw]
  by_cases hn : n ≤ (available cm.allocated).length
  · rw [if_pos hn]
    exact cm.exact_some hn ⟨rfl, length_take_of_le hn⟩
  · rw [if_neg hn]
    exact cm.exact_none hn

/-- Cells are handed out exactly: the lowest run of free cells, or the lowest free cells,
or nothing at all. -/
theorem cellAllocation_exact (hw : cm.isWritable = true) (n : Nat) :
    cm.Exact (∃ start, RunAt cm.allocated n start)
      (fun px => ∃ start, IsLeast { s | RunAt cm.allocated n s } start ∧ px = List.range' start n)
      (cm.allocCellsContiguous n) ∧
    cm.Exact (n ≤ (available cm.allocated).length)
      (fun px => px = (available cm.allocated).take n ∧ px.length = n)
      (cm.allocCells n) :=
  ⟨cm.allocCellsContiguous_exact hw n, cm.allocCells_exact hw n⟩

end ColormapState

def gapped : ColormapState := (newPseudocolor 0x21 6 (by decide)).mark [1]

theorem cellAllocation_exact_gapped :
    (gapped.allocCellsContiguous 3).2 = some [2, 3, 4] ∧ (gapped.allocCells 3).2 = some [0, 2, 3] ∧
      gapped.Exact (∃ start, RunAt gapped.allocated 3 start)
        (fun px => ∃ start, IsLeast { s | RunAt gapped.allocated 3 s } start ∧ px = List.range' start 3)
        (gapped.allocCellsContiguous 3) :=
  ⟨by decide, by decide, (gapped.cellAllocation_exact rfl 3).1⟩

end X11Web.Colormaps
