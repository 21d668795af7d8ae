import X11Web.Colormaps
import X11Web.Runs

namespace X11Web.ColorCells

open Colormaps FreeCells Runs List

inductive Request
  | allocColor (rgb : Rgb)
  | allocCells (nColors : Nat)
  | allocCellsContiguous (nColors : Nat)
  | storeColors (items : List ColorItem)
  | freeCells (px : List Nat)

def Showing (cm : ColormapState) (rgb : Rgb) (i : Nat) : Prop :=
  cm.entries[i]? = some rgb ∧ cm.allocated[i]? = some true

/-- A colormap with its history: the cells that plain or contiguous allocation handed out
and that are not freed since, and one entry for each time that `alloc_color` returned a
cell that is not freed since. -/
structure Session where
  cm : ColormapState
  exclusive : List Nat
  shared : List Nat

namespace Session

variable (s : Session) {r : Request} {rgb : Rgb} {p : Nat} {px : List Nat}

def answer : Request → ColormapState × List Nat
  | .allocColor rgb => ((s.cm.allocColor rgb).1, (s.cm.allocColor rgb).2.toList)
  | .allocCells n => ((s.cm.allocCells n).1, (s.cm.allocCells n).2.getD [])
  | .allocCellsContiguous n => ((s.cm.allocCellsContiguous n).1, (s.cm.allocCellsContiguous n).2.getD [])
  | .storeColors items => (s.cm.storeColors items, [])
  | .freeCells px => (s.cm.freeCells px, [])

def step (r : Request) : Session where
  cm := (s.answer r).1
  exclusive :=
    match r with
    | .allocCells _ | .allocCellsContiguous _ => s.exclusive ++ (s.answer r).2
    | .freeCells px => s.exclusive.filter (· ∉ px)
    | _ => s.exclusive
  shared :=
    match r with
    | .allocColor _ => s.shared ++ (s.answer r).2
    | .freeCells px => s.shared.diff px
    | _ => s.shared

def Taken (p : Nat) : Prop := s.cm.allocated[p]? = some true

/-- No cell that is handed out exclusively is returned again, and every cell that
`alloc_color` returned is taken as long as it is owed a free. -/
structure Unaliased (r : Request) : Prop where
  fresh : ∀ p ∈ (s.answer r).2, p ∉ s.exclusive
  kept : ∀ p ∈ (s.step r).shared, (s.step r).Taken p

/-- A colour is asked for that a shared cell shows before any exclusive one does, and
a cell is freed as often as it is owed. -/
def Apart : Request → Prop
  | .allocColor rgb => ∀ p ∈ s.exclusive, Showing s.cm rgb p → ∃ q < p, Showing s.cm rgb q ∧ q ∉ s.exclusive
  | .freeCells px => ∀ p ∈ px, s.shared.count p ≤ px.count p
  | _ => True

/-- The map is a writable indexed one, and every cell of the history is taken. -/
structure Sound : Prop where
  indexed : s.cm.visualClass = .pseudoColor ∨ s.cm.visualClass = .grayScale
  exclusive : ∀ p ∈ s.exclusive, s.Taken p
  shared : ∀ p ∈ s.shared, s.Taken p

end Session

section Cells

variable {cm : ColormapState} {rgb : Rgb} {p i n : Nat} {px : List Nat}

theorem not_free_of_taken (h : cm.allocated[p]? = some true) : isFree cm.allocated p ≠ true := by
  rw [Ne, isFree_iff, h]
  decide

theorem taken_mark : (cm.mark px).allocated[p]? = some true ↔
    cm.allocated[p]? = some true ∨ p ∈ px ∧ p < cm.allocated.length := by
  rw [ColormapState.allocated_mark, getElem?_write]
  split <;> simp_all

theorem taken_free : (cm.freeCells px).allocated[p]? = some true ↔
    cm.allocated[p]? = some true ∧ p ∉ px := by
  rw [ColormapState.freeCells, ColormapState.allocated_unmark, getElem?_write]
  by_cases hp : p ∈ px
  · by_cases hlt : p < cm.allocated.length
    · simp [hp, hlt]
    · simp [hp, hlt]
  · simp [hp]

theorem taken_claimCell (h : isFree cm.allocated i = true) :
    (cm.claimCell rgb i).allocated[p]? = some true ↔ cm.allocated[p]? = some true ∨ p = i := by
  rw [ColormapState.claimCell, List.getElem?_set]
  by_cases hp : i = p
  · simp [hp, hp ▸ lt_of_isFree h]
  · simp [hp, Ne.symm hp]

theorem allocated_storeColors (items : List ColorItem) : (cm.storeColors items).allocated = cm.allocated := by
  induction items generalizing cm with
  | nil => rfl
  | cons item items ih => exact ih

theorem visualClass_storeColors (items : List ColorItem) :
    (cm.storeColors items).visualClass = cm.visualClass := by
  induction items generalizing cm with
  | nil => rfl
  | cons item items ih => exact ih

theorem sharedCell_eq_some (h : cm.sharedCell rgb = some i) :
    Showing cm rgb i ∧ ∀ q < i, ¬Showing cm rgb q := by
  obtain ⟨hi, -, hbef⟩ := List.find?_range_eq_some.mp h
  refine ⟨by simpa [Showing] using hi, fun q hq hshows => ?_⟩
  have := hbef q hq
  simp [hshows.1, hshows.2] at this

theorem sharedCell_eq_none (h : cm.sharedCell rgb = none) (q : Nat) : ¬Showing cm rgb q := by
  intro hshows
  have hq := (List.getElem?_eq_some_iff.mp hshows.1).1
  have := List.find?_range_eq_none.mp h q hq
  simp [hshows.1, hshows.2] at this

theorem nextFreeCell_eq_some (h : cm.nextFreeCell = some i) : isFree cm.allocated i = true := List.find?_some h

/-- What `alloc_color` does on a writable indexed map: it shares the first taken cell of
the colour, or else takes a free cell, or fails. -/
theorem allocColor_cases (hindexed : cm.visualClass = .pseudoColor ∨ cm.visualClass = .grayScale) (rgb : Rgb) :
    (∃ i, cm.allocColor rgb = (cm, some i) ∧ Showing cm rgb i ∧ ∀ q < i, ¬Showing cm rgb q) ∨
    (∃ i, cm.allocColor rgb = (cm.claimCell rgb i, some i) ∧ isFree cm.allocated i = true ∧
      ∀ q, ¬Showing cm rgb q) ∨
    cm.allocColor rgb = (cm, none) ∧ ∀ q, ¬Showing cm rgb q := by
  have heq : cm.allocColor rgb = cm.allocIndexed rgb := by
    rcases hindexed with h | h <;> simp only [ColormapState.allocColor, h]
  rw [heq, ColormapState.allocIndexed]
  cases hshd : cm.sharedCell rgb with
  | some i => exact .inl ⟨i, rfl, sharedCell_eq_some hshd⟩
  | none =>
    cases hfree : cm.nextFreeCell with
    | some i => exact .inr (.inl ⟨i, rfl, nextFreeCell_eq_some hfree, sharedCell_eq_none hshd⟩)
    | none => exact .inr (.inr ⟨rfl, sharedCell_eq_none hshd⟩)

theorem marks_of_exact {possible : Prop} {lowest : List Nat → Prop} {r : ColormapState × Option (List Nat)}
    (h : cm.Exact possible lowest r) (hfree : ∀ px, lowest px → ∀ p ∈ px, isFree cm.allocated p = true) :
    r.1 = cm.mark (r.2.getD []) ∧ ∀ p ∈ r.2.getD [], isFree cm.allocated p = true := by
  cases hr : r.2 with
  | none => exact ⟨h.unchanged hr, fun p hp => absurd hp not_mem_nil⟩
  | some px =>
    obtain ⟨hlowest, hmark⟩ := h.marked px hr
    exact ⟨hmark, hfree px hlowest⟩

theorem allocCells_marks (hw : cm.isWritable = true) (n : Nat) :
    (cm.allocCells n).1 = cm.mark ((cm.allocCells n).2.getD []) ∧
      ∀ p ∈ (cm.allocCells n).2.getD [], isFree cm.allocated p = true := by
  refine marks_of_exact (cm.allocCells_exact hw n) ?_
  rintro px ⟨rfl, -⟩ p hp
  exact mem_available.mp (mem_of_mem_take hp)

theorem allocCellsContiguous_marks (hw : cm.isWritable = true) (n : Nat) :
    (cm.allocCellsContiguous n).1 = cm.mark ((cm.allocCellsContiguous n).2.getD []) ∧
      ∀ p ∈ (cm.allocCellsContiguous n).2.getD [], isFree cm.allocated p = true := by
  refine marks_of_exact (cm.allocCellsContiguous_exact hw n) ?_
  rintro px ⟨start, hleast, rfl⟩ p hp
  obtain ⟨k, hk, rfl⟩ := mem_range'.mp hp
  simpa using hleast.1 k hk

end Cells

section Steps

variable {s : Session} {r : Request} {rgb : Rgb} {p : Nat} {px : List Nat}

theorem isWritable_of_sound (h : s.Sound) : s.cm.isWritable = true := by
  rcases h.indexed with hc | hc <;> rw [ColormapState.isWritable, hc]

theorem not_exclusive_of_free (h : s.Sound) (hfree : isFree s.cm.allocated p = true) : p ∉ s.exclusive :=
  fun hp => not_free_of_taken (h.exclusive p hp) hfree

theorem taken_step (h : s.Sound) (hr : ∀ px, r ≠ .freeCells px) :
    (s.step r).Taken p ↔ s.Taken p ∨ p ∈ (s.answer r).2 := by
  have hmarks : ∀ {cm : ColormapState} {px : List Nat}, cm = s.cm.mark px → (∀ p ∈ px, isFree s.cm.allocated p = true) →
      (cm.allocated[p]? = some true ↔ s.Taken p ∨ p ∈ px) := by
    rintro cm px rfl hfree
    rw [taken_mark]
    exact or_congr_right (and_iff_left_of_imp fun hp => lt_of_isFree (hfree p hp))
  cases r with
  | allocColor rgb =>
    rcases allocColor_cases h.indexed rgb with ⟨i, heq, hshows, -⟩ | ⟨i, heq, hfree, -⟩ | ⟨heq, -⟩
    · simp only [Session.Taken, Session.step, Session.answer, heq, Option.toList_some, mem_singleton]
      exact ⟨.inl, fun hp => hp.elim id fun hp => hp ▸ hshows.2⟩
    · simp only [Session.Taken, Session.step, Session.answer, heq, Option.toList_some, mem_singleton]
      exact taken_claimCell hfree
    · simp [Session.Taken, Session.step, Session.answer, heq]
  | allocCells n =>
    obtain ⟨hmark, hfree⟩ := allocCells_marks (isWritable_of_sound h) n
    exact hmarks hmark hfree
  | allocCellsContiguous n =>
    obtain ⟨hmark, hfree⟩ := allocCellsContiguous_marks (isWritable_of_sound h) n
    exact hmarks hmark hfree
  | storeColors items =>
    simp only [Session.Taken, Session.step, Session.answer, allocated_storeColors, not_mem_nil, or_false]
  | freeCells px => exact absurd rfl (hr px)

theorem taken_step_free : (s.step (.freeCells px)).Taken p ↔ s.Taken p ∧ p ∉ px := taken_free

theorem indexed_step (h : s.Sound) (r : Request) :
    (s.step r).cm.visualClass = .pseudoColor ∨ (s.step r).cm.visualClass = .grayScale := by
  suffices heq : (s.step r).cm.visualClass = s.cm.visualClass from heq ▸ h.indexed
  cases r with
  | allocColor rgb =>
    rcases allocColor_cases h.indexed rgb with ⟨i, heq, -⟩ | ⟨i, heq, -⟩ | ⟨heq, -⟩ <;>
      simp only [Session.step, Session.answer, heq, ColormapState.claimCell]
  | allocCells n =>
    simp only [Session.step, Session.answer, (allocCells_marks (isWritable_of_sound h) n).1,
      ColormapState.visualClass_mark]
  | allocCellsContiguous n =>
    simp only [Session.step, Session.answer, (allocCellsContiguous_marks (isWritable_of_sound h) n).1,
      ColormapState.visualClass_mark]
  | storeColors items => exact visualClass_storeColors items
  | freeCells px => rfl

theorem mem_shared_step (hr : ∀ px, r ≠ .freeCells px) (hp : p ∈ (s.step r).shared) :
    p ∈ s.shared ∨ p ∈ (s.answer r).2 := by
  cases r with
  | allocColor rgb => exact mem_append.mp hp
  | freeCells px => exact absurd rfl (hr px)
  | _ => exact .inl hp

theorem mem_exclusive_step (hr : ∀ px, r ≠ .freeCells px) (hp : p ∈ (s.step r).exclusive) :
    p ∈ s.exclusive ∨ p ∈ (s.answer r).2 := by
  cases r with
  | allocCells n => exact mem_append.mp hp
  | allocCellsContiguous n => exact mem_append.mp hp
  | freeCells px => exact absurd rfl (hr px)
  | _ => exact .inl hp

theorem sound_step (h : s.Sound) (hr : s.Unaliased r) : (s.step r).Sound where
  indexed := indexed_step h r
  shared := hr.kept
  exclusive p hp := by
    by_cases hfree : ∃ px, r = .freeCells px
    · obtain ⟨px, rfl⟩ := hfree
      obtain ⟨hp, hpx⟩ := mem_filter.mp hp
      exact taken_step_free.mpr ⟨h.exclusive p hp, of_decide_eq_true hpx⟩
    · have hr := not_exists.mp hfree
      exact (taken_step h hr).mpr ((mem_exclusive_step hr hp).imp_left (h.exclusive p))

theorem unaliased_iff_fresh (h : s.Sound) (hr : ∀ px, r ≠ .freeCells px) :
    s.Unaliased r ↔ ∀ p ∈ (s.answer r).2, p ∉ s.exclusive :=
  ⟨Session.Unaliased.fresh, fun hfresh =>
    { fresh := hfresh
      kept _ hp := (taken_step h hr).mpr ((mem_shared_step hr hp).imp_left (h.shared _)) }⟩

theorem unaliased_of_free (h : s.Sound) (hr : ∀ px, r ≠ .freeCells px)
    (hfree : ∀ p ∈ (s.answer r).2, isFree s.cm.allocated p = true) : s.Unaliased r :=
  (unaliased_iff_fresh h hr).mpr fun p hp => not_exclusive_of_free h (hfree p hp)

theorem unaliased_allocColor_iff (h : s.Sound) : s.Unaliased (.allocColor rgb) ↔ s.Apart (.allocColor rgb) := by
  rw [unaliased_iff_fresh h (fun _ => Request.noConfusion), Session.Apart]
  rcases allocColor_cases h.indexed rgb with ⟨i, heq, hshows, hfst⟩ | ⟨i, heq, hfree, hnone⟩ | ⟨heq, hnone⟩
  · simp only [Session.answer, heq, Option.toList_some, mem_singleton, forall_eq]
    constructor
    · intro hi p hp hpshows
      have hle : i ≤ p := Nat.le_of_not_lt fun hlt => hfst p hlt hpshows
      exact ⟨i, Nat.lt_of_le_of_ne hle fun e => hi (e ▸ hp), hshows, hi⟩
    · intro hapart hi
      obtain ⟨q, hq, hqshows, -⟩ := hapart i hi hshows
      exact hfst q hq hqshows
  · refine iff_of_true ?_ fun p _ hp => absurd hp (hnone p)
    simp only [Session.answer, heq, Option.toList_some, mem_singleton, forall_eq]
    exact not_exclusive_of_free h hfree
  · refine iff_of_true ?_ fun p _ hp => absurd hp (hnone p)
    simp [Session.answer, heq]

theorem unaliased_freeCells_iff (h : s.Sound) : s.Unaliased (.freeCells px) ↔ s.Apart (.freeCells px) := by
  have howed : ∀ p, p ∈ (s.step (.freeCells px)).shared ↔ px.count p < s.shared.count p := fun p => by
    rw [← count_pos_iff, Session.step, count_diff, Nat.sub_pos_iff_lt]
  constructor
  · intro hun p hp
    refine Nat.le_of_not_lt fun hlt => ?_
    exact (taken_step_free.mp (hun.kept p ((howed p).mpr hlt))).2 hp
  · intro hapart
    refine ⟨fun p hp => absurd hp not_mem_nil, fun p hp => taken_step_free.mpr ?_⟩
    have hlt := (howed p).mp hp
    exact ⟨h.shared p (count_pos_iff.mp (Nat.zero_lt_of_lt hlt)), fun hmem => absurd hlt (hapart p hmem).not_gt⟩

theorem unaliased_iff_apart (h : s.Sound) (r : Request) : s.Unaliased r ↔ s.Apart r := by
  have hw := isWritable_of_sound h
  cases r with
  | allocColor rgb => exact unaliased_allocColor_iff h
  | allocCells n =>
    exact iff_of_true (unaliased_of_free h (fun _ => Request.noConfusion) (allocCells_marks hw n).2) trivial
  | allocCellsContiguous n =>
    exact iff_of_true (unaliased_of_free h (fun _ => Request.noConfusion) (allocCellsContiguous_marks hw n).2) trivial
  | storeColors items =>
    exact iff_of_true (unaliased_of_free h (fun _ => Request.noConfusion) fun p hp => absurd hp not_mem_nil) trivial
  | freeCells px => exact unaliased_freeCells_iff h

end Steps

def start (cm : ColormapState) : Session := ⟨cm, [], []⟩

def run (cm : ColormapState) (requests : List Request) : Session := requests.foldl Session.step (start cm)

/-- Along a run on a writable indexed map no cell is aliased exactly when every request
keeps to its condition. -/
theorem cells_unaliased_iff (cm : ColormapState)
    (hindexed : cm.visualClass = .pseudoColor ∨ cm.visualClass = .grayScale) (requests : List Request) :
    (∀ before r, before ++ [r] <+: requests → (run cm before).Unaliased r) ↔
      ∀ before r, before ++ [r] <+: requests → (run cm before).Apart r := by
  have hst : (start cm).Sound :=
    ⟨hindexed, fun _ hp => absurd hp not_mem_nil, fun _ hp => absurd hp not_mem_nil⟩
  exact foldl_steps_iff (Q := Session.Unaliased) (C := Session.Apart) (fun _ _ => sound_step)
    (fun _ r h => unaliased_iff_apart h r) hst requests

def ramp : ColormapState := newPseudocolor 0x21 4 (by decide)

theorem cells_unaliased_iff_ramp :
    (∀ before r, before ++ [r] <+: [.allocCells 1, .allocColor (1, 2, 3)] → (run ramp before).Unaliased r) ↔
      ∀ before r, before ++ [r] <+: [.allocCells 1, .allocColor (1, 2, 3)] → (run ramp before).Apart r :=
  cells_unaliased_iff ramp (.inl rfl) _

/-- The cell that plain allocation hands out is black, and is returned to whoever asks for black. -/
theorem black_cell_aliased :
    ¬∀ before r, before ++ [r] <+: [.allocCells 1, .allocColor (0, 0, 0)] → (run ramp before).Unaliased r := by
  intro h
  exact (h [.allocCells 1] (.allocColor (0, 0, 0)) prefix_rfl).fresh 0 (by decide) (by decide)

end X11Web.ColorCells
