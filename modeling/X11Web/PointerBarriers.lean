import Mathlib.Data.Nat.Bitwise
import X11Web.Walls
import X11Web.Windows

namespace X11Web.PointerBarriers

open HashMaps Walls Windows Finmap

/-- A pointer barrier, as `CreatePointerBarrier` records it. -/
structure PointerBarrier where
  x1 : Int
  y1 : Int
  x2 : Int
  y2 : Int
  directions : Nat
  deriving DecidableEq

def POSITIVE_X : Nat := 1
def POSITIVE_Y : Nat := 2
def NEGATIVE_X : Nat := 4
def NEGATIVE_Y : Nat := 8

def Between (a b x : Int) : Prop := min a b ≤ x ∧ x ≤ max a b

instance (a b x : Int) : Decidable (Between a b x) := inferInstanceAs (Decidable (_ ∧ _))

/-- The test of `enforce_barriers` on the axis that a barrier blocks. -/
def blocked (directions positive negative : Nat) (old line final : Int) : Bool :=
  let crosses_forward := decide (old ≤ line ∧ line < final)
  let crosses_back := decide (line ≤ old ∧ final < line)
  if directions = 0 then crosses_forward || crosses_back
  else
    crosses_forward && directions &&& positive != 0 || crosses_back && directions &&& negative != 0

def PointerBarrier.blocksX (barrier : PointerBarrier) (old x : Int) : Bool :=
  blocked barrier.directions POSITIVE_X NEGATIVE_X old barrier.x1 x

def PointerBarrier.blocksY (barrier : PointerBarrier) (old y : Int) : Bool :=
  blocked barrier.directions POSITIVE_Y NEGATIVE_Y old barrier.y1 y

/-- One turn of the loop of `enforce_barriers`. -/
def enforceBarrier (old final : Int × Int) (barrier : PointerBarrier) : Int × Int :=
  if barrier.x1 = barrier.x2 then
    if Between barrier.y1 barrier.y2 final.2 then
      if barrier.blocksX old.1 final.1 then (barrier.x1, final.2) else final
    else final
  else if barrier.y1 = barrier.y2 then
    if Between barrier.x1 barrier.x2 final.1 then
      if barrier.blocksY old.2 final.2 then (final.1, barrier.y1) else final
    else final
  else final

/-- The barriers are visited in the order in which the map yields its values. -/
def enforceBarriers (order : List XId) (barriers : HashMap XId PointerBarrier) (old requested : Int × Int) :
    Int × Int :=
  (order.filterMap barriers.lookup).foldl (enforceBarrier old) requested

def PointerBarrier.FacesX (barrier : PointerBarrier) (y : Int) : Prop :=
  barrier.x1 = barrier.x2 ∧ Between barrier.y1 barrier.y2 y

def PointerBarrier.FacesY (barrier : PointerBarrier) (x : Int) : Prop :=
  barrier.x1 ≠ barrier.x2 ∧ barrier.y1 = barrier.y2 ∧ Between barrier.x1 barrier.x2 x

/-- The position is strictly beyond the barrier, within its extent, in a direction that
the barrier blocks. -/
def Beyond (old : Int × Int) (barrier : PointerBarrier) (p : Int × Int) : Prop :=
  (barrier.FacesX p.2 ∧ barrier.blocksX old.1 p.1) ∨ (barrier.FacesY p.1 ∧ barrier.blocksY old.2 p.2)

/-- The positions that the barriers lead the pointer to, one after the other. -/
inductive Leads (barriers : HashMap XId PointerBarrier) (old requested : Int × Int) : Int × Int → Prop
  | request : Leads barriers old requested requested
  | vertical {p : Int × Int} {id : XId} {barrier : PointerBarrier} :
      Leads barriers old requested p → barriers.lookup id = some barrier → barrier.FacesX p.2 →
      barrier.blocksX old.1 p.1 → Leads barriers old requested (barrier.x1, p.2)
  | horizontal {p : Int × Int} {id : XId} {barrier : PointerBarrier} :
      Leads barriers old requested p → barriers.lookup id = some barrier → barrier.FacesY p.1 →
      barrier.blocksY old.2 p.2 → Leads barriers old requested (p.1, barrier.y1)

def Within (a b p : Int × Int) : Prop := Between a.1 b.1 p.1 ∧ Between a.2 b.2 p.2

/-- The barriers form a corner: none of them leads past it, and each coordinate is either the
requested one or that of a barrier which blocks the request and runs past the corner too. -/
structure BarrierCorner (barriers : HashMap XId PointerBarrier) (old requested corner : Int × Int) : Prop where
  bound : ∀ p, Leads barriers old requested p → Within old p corner
  vertical : corner.1 = requested.1 ∨ ∃ id barrier, barriers.lookup id = some barrier ∧ barrier.x1 = corner.1 ∧
    barrier.blocksX old.1 requested.1 ∧ barrier.FacesX requested.2 ∧ barrier.FacesX corner.2
  horizontal : corner.2 = requested.2 ∨ ∃ id barrier, barriers.lookup id = some barrier ∧ barrier.y1 = corner.2 ∧
    barrier.blocksY old.2 requested.2 ∧ barrier.FacesY requested.1 ∧ barrier.FacesY corner.1

section Axis

/-- The coordinate at a distance from the old one, on the side of the requested one. -/
def place (old requested : Int) (d : Nat) : Int := if old ≤ requested then old + d else old - d

variable {old requested line x : Int} {d e : Nat} {directions positive negative : Nat}

def opposes (directions bit : Nat) : Bool := directions = 0 || directions &&& bit != 0

theorem place_injective (h : place old requested d = place old requested e) : d = e := by
  simp only [place] at h
  split at h <;> omega

theorem between_place_iff : Between old (place old requested e) (place old requested d) ↔ d ≤ e := by
  simp only [Between, place]
  split <;> omega

theorem exists_place (h : Between old requested x) : ∃ d, x = place old requested d := by
  refine ⟨(x - old).natAbs, ?_⟩
  simp only [Between] at h
  simp only [place]
  split <;> omega

theorem place_requested (old requested : Int) : place old requested (requested - old).natAbs = requested := by
  simp only [place]
  split <;> omega

/-- The line is a place on the way, and its barrier blocks the direction of the motion. -/
def Opposes (directions positive negative : Nat) (old requested line : Int) : Prop :=
  place old requested (line - old).natAbs = line ∧
    opposes directions (if old ≤ requested then positive else negative)

instance (old requested line : Int) : Decidable (Opposes directions positive negative old requested line) :=
  inferInstanceAs (Decidable (_ ∧ _))

theorem crossed_place_iff (hle : old ≤ requested) :
    (old ≤ line ∧ line < place old requested d) ↔
      place old requested (line - old).natAbs = line ∧ (line - old).natAbs < d := by
  simp only [place, if_pos hle]
  omega

theorem crossed_back_place_iff (hle : ¬old ≤ requested) :
    (line ≤ old ∧ place old requested d < line) ↔
      place old requested (line - old).natAbs = line ∧ (line - old).natAbs < d := by
  simp only [place, if_neg hle]
  omega

/-- From a place on the way, the line is crossed exactly if it is a nearer place and its
barrier blocks the direction of the motion. -/
theorem blocked_place_iff :
    blocked directions positive negative old line (place old requested d) ↔
      Opposes directions positive negative old requested line ∧ (line - old).natAbs < d := by
  by_cases hle : old ≤ requested
  · have hback : ¬(line ≤ old ∧ place old requested d < line) := by
      simp only [place, if_pos hle]
      omega
    simp only [blocked, Opposes, opposes, crossed_place_iff hle, hback, if_pos hle, decide_false, Bool.false_and,
      Bool.or_false]
    by_cases hzero : directions = 0 <;> simp [hzero, and_right_comm]
  · have hforward : ¬(old ≤ line ∧ line < place old requested d) := by
      simp only [place, if_neg hle]
      omega
    simp only [blocked, Opposes, opposes, crossed_back_place_iff hle, hforward, if_neg hle, decide_false,
      Bool.false_and, Bool.false_or]
    by_cases hzero : directions = 0 <;> simp [hzero, and_right_comm]

theorem blocked_requested_iff :
    blocked directions positive negative old line requested ↔
      Opposes directions positive negative old requested line ∧ (line - old).natAbs < (requested - old).natAbs := by
  have h : blocked directions positive negative old line (place old requested (requested - old).natAbs) ↔
      Opposes directions positive negative old requested line ∧ (line - old).natAbs < (requested - old).natAbs :=
    blocked_place_iff
  rwa [place_requested] at h

/-- A line that stops the motion at a distance is one that blocks the request, unless the
distance is that of the request itself. -/
theorem stops_iff_blocked {ι : Type} {P : ι → Prop} {line : ι → Int} {directions : ι → Nat}
    (h : d ≤ (requested - old).natAbs) :
    (d = (requested - old).natAbs ∨ ∃ i, P i ∧ Opposes (directions i) positive negative old requested (line i) ∧
      (line i - old).natAbs = d) ↔
    (place old requested d = requested ∨ ∃ i, P i ∧ line i = place old requested d ∧
      blocked (directions i) positive negative old (line i) requested) := by
  constructor
  · rintro (rfl | ⟨i, hP, hopp, rfl⟩)
    · exact .inl (place_requested old requested)
    · rcases h.eq_or_lt with heq | hlt
      · exact .inl (heq ▸ place_requested old requested)
      · exact .inr ⟨i, hP, hopp.1.symm, blocked_requested_iff.mpr ⟨hopp, hlt⟩⟩
  · rintro (heq | ⟨i, hP, hline, hblk⟩)
    · exact .inl (place_injective (heq.trans (place_requested old requested).symm))
    · have hopp := (blocked_requested_iff.mp hblk).1
      exact .inr ⟨i, hP, hopp, place_injective (hopp.1.trans hline)⟩

def extent (a b old requested : Int) : Set Nat := fun d => Between a b (place old requested d)

theorem extent_ordConnected (a b : Int) : (extent a b old requested).OrdConnected := by
  refine ⟨fun d hd e he k hk => ?_⟩
  have hd' : Between a b (place old requested d) := hd
  have he' : Between a b (place old requested e) := he
  show Between a b (place old requested k)
  obtain ⟨hdk, hke⟩ := hk
  simp only [Between, place] at hd' he' ⊢
  split at hd' <;> simp_all <;> omega

end Axis

section Walls

variable {barriers : HashMap XId PointerBarrier} {barrier : PointerBarrier} {order : List XId} {id : XId}
  {old requested r : Int × Int} {p : Nat × Nat}

def placeAt (old requested : Int × Int) (p : Nat × Nat) : Int × Int :=
  (place old.1 requested.1 p.1, place old.2 requested.2 p.2)

theorem placeAt_injective {q : Nat × Nat} (h : placeAt old requested p = placeAt old requested q) : p = q :=
  Prod.ext (place_injective (congrArg Prod.fst h)) (place_injective (congrArg Prod.snd h))

def distances (old requested : Int × Int) : Nat × Nat :=
  ((requested.1 - old.1).natAbs, (requested.2 - old.2).natAbs)

theorem placeAt_distances (old requested : Int × Int) : placeAt old requested (distances old requested) = requested :=
  Prod.ext (place_requested _ _) (place_requested _ _)

/-- The barrier blocks the horizontal part of the motion, from a line on the way. -/
abbrev PointerBarrier.OpposesX (barrier : PointerBarrier) (old requested : Int) : Prop :=
  Opposes barrier.directions POSITIVE_X NEGATIVE_X old requested barrier.x1

/-- The barrier blocks the vertical part of the motion, from a line on the way. -/
abbrev PointerBarrier.OpposesY (barrier : PointerBarrier) (old requested : Int) : Prop :=
  Opposes barrier.directions POSITIVE_Y NEGATIVE_Y old requested barrier.y1

def wallOf (old requested : Int × Int) (barrier : PointerBarrier) : Wall Nat Nat :=
  if barrier.x1 = barrier.x2 then
    if barrier.OpposesX old.1 requested.1 then
      .side (barrier.x1 - old.1).natAbs (extent barrier.y1 barrier.y2 old.2 requested.2)
    else .inert
  else if barrier.y1 = barrier.y2 then
    if barrier.OpposesY old.2 requested.2 then
      .floor (barrier.y1 - old.2).natAbs (extent barrier.x1 barrier.x2 old.1 requested.1)
    else .inert
  else .inert

def wallAt (barriers : HashMap XId PointerBarrier) (old requested : Int × Int) (id : XId) : Wall Nat Nat :=
  (barriers.lookup id).elim .inert (wallOf old requested)

theorem enforceBarrier_placeAt (old requested : Int × Int) (barrier : PointerBarrier) (p : Nat × Nat) :
    enforceBarrier old (placeAt old requested p) barrier =
      placeAt old requested ((wallOf old requested barrier).stop p) := by
  by_cases hvert : barrier.x1 = barrier.x2
  · rw [enforceBarrier, wallOf, if_pos hvert, if_pos hvert]
    by_cases hopp : barrier.OpposesX old.1 requested.1
    · rw [if_pos hopp, Wall.stop]
      simp only [placeAt, PointerBarrier.blocksX, blocked_place_iff, hopp, true_and]
      by_cases hfaces : Between barrier.y1 barrier.y2 (place old.2 requested.2 p.2)
      · have hspan : p.2 ∈ extent barrier.y1 barrier.y2 old.2 requested.2 := hfaces
        simp only [hfaces, hspan, if_true, true_and]
        split
        · rw [hopp.1]
        · rfl
      · have hspan : p.2 ∉ extent barrier.y1 barrier.y2 old.2 requested.2 := hfaces
        simp only [hfaces, hspan, if_false, false_and]
    · rw [if_neg hopp]
      simp only [Wall.stop, placeAt, PointerBarrier.blocksX, blocked_place_iff, hopp, false_and, if_false,
        ite_self]
  · rw [enforceBarrier, wallOf, if_neg hvert, if_neg hvert]
    by_cases hhoriz : barrier.y1 = barrier.y2
    · simp only [if_pos hhoriz]
      by_cases hopp : barrier.OpposesY old.2 requested.2
      · rw [if_pos hopp, Wall.stop]
        simp only [placeAt, PointerBarrier.blocksY, blocked_place_iff, hopp, true_and]
        by_cases hfaces : Between barrier.x1 barrier.x2 (place old.1 requested.1 p.1)
        · have hspan : p.1 ∈ extent barrier.x1 barrier.x2 old.1 requested.1 := hfaces
          simp only [hfaces, hspan, if_true, true_and]
          split
          · rw [hopp.1]
          · rfl
        · have hspan : p.1 ∉ extent barrier.x1 barrier.x2 old.1 requested.1 := hfaces
          simp only [hfaces, hspan, if_false, false_and]
      · rw [if_neg hopp]
        simp only [Wall.stop, placeAt, PointerBarrier.blocksY, blocked_place_iff, hopp, false_and, if_false,
          ite_self]
    · simp only [if_neg hhoriz, Wall.stop]

theorem enforceBarrier_vertical {p : Int × Int} (hfaces : barrier.FacesX p.2) (hblk : barrier.blocksX old.1 p.1) :
    enforceBarrier old p barrier = (barrier.x1, p.2) := by
  rw [enforceBarrier, if_pos hfaces.1, if_pos hfaces.2, if_pos hblk]

theorem enforceBarrier_horizontal {p : Int × Int} (hfaces : barrier.FacesY p.1)
    (hblk : barrier.blocksY old.2 p.2) : enforceBarrier old p barrier = (p.1, barrier.y1) := by
  rw [enforceBarrier, if_neg hfaces.1, if_pos hfaces.2.1, if_pos hfaces.2.2, if_pos hblk]

theorem enforceBarrier_of_not_beyond {p : Int × Int} (h : ¬Beyond old barrier p) : enforceBarrier old p barrier = p := by
  have hx : barrier.FacesX p.2 → ¬barrier.blocksX old.1 p.1 := fun hfaces hblk => h (.inl ⟨hfaces, hblk⟩)
  have hy : barrier.FacesY p.1 → ¬barrier.blocksY old.2 p.2 := fun hfaces hblk => h (.inr ⟨hfaces, hblk⟩)
  rw [enforceBarrier]
  split
  · next hvert =>
    split
    · next hspan => exact if_neg (hx ⟨hvert, hspan⟩)
    · rfl
  · next hvert =>
    split
    · next hhoriz =>
      split
      · next hspan => exact if_neg (hy ⟨hvert, hhoriz, hspan⟩)
      · rfl
    · rfl

theorem not_blocked_line {directions positive negative : Nat} {old line : Int} :
    ¬blocked directions positive negative old line line := by
  simp [blocked]

theorem enforceBarrier_eq_self_iff {p : Int × Int} : enforceBarrier old p barrier = p ↔ ¬Beyond old barrier p := by
  refine ⟨?_, enforceBarrier_of_not_beyond⟩
  rintro h (⟨hfaces, hblk⟩ | ⟨hfaces, hblk⟩)
  · rw [enforceBarrier_vertical hfaces hblk] at h
    have hline : barrier.x1 = p.1 := congrArg Prod.fst h
    rw [PointerBarrier.blocksX, ← hline] at hblk
    exact not_blocked_line hblk
  · rw [enforceBarrier_horizontal hfaces hblk] at h
    have hline : barrier.y1 = p.2 := congrArg Prod.snd h
    rw [PointerBarrier.blocksY, ← hline] at hblk
    exact not_blocked_line hblk

theorem wallOf_eq_side_iff {k : Nat} {span : Set Nat} :
    wallOf old requested barrier = .side k span ↔
      barrier.x1 = barrier.x2 ∧ barrier.OpposesX old.1 requested.1 ∧ (barrier.x1 - old.1).natAbs = k ∧
        extent barrier.y1 barrier.y2 old.2 requested.2 = span := by
  rw [wallOf]
  split
  · next hvert =>
    split
    · next hopp => simp [hvert, hopp]
    · next hopp => simp [hopp]
  · next hvert =>
    refine iff_of_false ?_ fun h => hvert h.1
    split
    · split <;> simp
    · simp

theorem wallOf_eq_floor_iff {k : Nat} {span : Set Nat} :
    wallOf old requested barrier = .floor k span ↔
      (barrier.x1 ≠ barrier.x2 ∧ barrier.y1 = barrier.y2) ∧ barrier.OpposesY old.2 requested.2 ∧
        (barrier.y1 - old.2).natAbs = k ∧ extent barrier.x1 barrier.x2 old.1 requested.1 = span := by
  rw [wallOf]
  split
  · next hvert =>
    refine iff_of_false ?_ fun h => h.1.1 hvert
    split <;> simp
  · next hvert =>
    split
    · next hhoriz =>
      split
      · next hopp => simp [hvert, hhoriz, hopp]
      · next hopp => simp [hopp]
    · next hhoriz => exact iff_of_false (by simp) fun h => hhoriz h.1.2

theorem wallAt_eq_some_iff {w : Wall Nat Nat} (hw : w ≠ .inert) :
    wallAt barriers old requested id = w ↔
      ∃ barrier, barriers.lookup id = some barrier ∧ wallOf old requested barrier = w := by
  rw [wallAt]
  cases barriers.lookup id with
  | none => simp [hw.symm]
  | some barrier => simp

theorem wallAt_of_lookup (h : barriers.lookup id = some barrier) :
    wallAt barriers old requested id = wallOf old requested barrier := by
  rw [wallAt, h]
  rfl

theorem enforceBarriers_placeAt (order : List XId) (barriers : HashMap XId PointerBarrier) (old requested : Int × Int) :
    enforceBarriers order barriers old requested =
      placeAt old requested (travel (wallAt barriers old requested) order (distances old requested)) := by
  have hloop : ∀ p, (order.filterMap barriers.lookup).foldl (enforceBarrier old) (placeAt old requested p) =
      placeAt old requested (travel (wallAt barriers old requested) order p) := by
    induction order with
    | nil => exact fun p => rfl
    | cons id order ih =>
      intro p
      rw [travel_cons]
      cases hid : barriers.lookup id with
      | none =>
        simp only [List.filterMap_cons, hid, ih, wallAt]
        rfl
      | some barrier =>
        simp only [List.filterMap_cons, hid, List.foldl_cons, enforceBarrier_placeAt, ih, wallAt_of_lookup hid]
  rw [enforceBarriers, ← hloop, placeAt_distances]

def present (barriers : HashMap XId PointerBarrier) : Set XId := fun id => id ∈ barriers

theorem mem_present (h : barriers.lookup id = some barrier) : id ∈ present barriers :=
  mem_iff.mpr ⟨barrier, h⟩

theorem not_beyond_iff_stop (h : barriers.lookup id = some barrier) :
    ¬Beyond old barrier (placeAt old requested p) ↔ (wallAt barriers old requested id).stop p = p := by
  rw [← enforceBarrier_eq_self_iff, enforceBarrier_placeAt, wallAt_of_lookup h]
  exact ⟨placeAt_injective, congrArg _⟩

theorem settles_iff_settled :
    (∀ order, IterationOrder order barriers →
      enforceBarriers order barriers old requested = placeAt old requested p ∧
        ∀ id barrier, barriers.lookup id = some barrier → ¬Beyond old barrier (placeAt old requested p)) ↔
      Settles (wallAt barriers old requested) (present barriers) (distances old requested) p := by
  constructor
  · intro h l hl
    obtain ⟨hplc, hbyd⟩ := h l hl
    rw [enforceBarriers_placeAt] at hplc
    refine ⟨placeAt_injective hplc, fun id hid => ?_⟩
    obtain ⟨barrier, hlook⟩ := mem_iff.mp hid
    exact (not_beyond_iff_stop hlook).mp (hbyd id barrier hlook)
  · intro h order hord
    obtain ⟨htravel, hstop⟩ := h order hord
    rw [enforceBarriers_placeAt, htravel]
    exact ⟨rfl, fun id barrier hlook => (not_beyond_iff_stop hlook).mpr (hstop id (mem_present hlook))⟩

theorem leads_enforceBarrier {q : Int × Int} (hq : Leads barriers old requested q)
    (h : barriers.lookup id = some barrier) : Leads barriers old requested (enforceBarrier old q barrier) := by
  by_cases hbyd : Beyond old barrier q
  · rcases hbyd with ⟨hfaces, hblk⟩ | ⟨hfaces, hblk⟩
    · rw [enforceBarrier_vertical hfaces hblk]
      exact hq.vertical h hfaces hblk
    · rw [enforceBarrier_horizontal hfaces hblk]
      exact hq.horizontal h hfaces hblk
  · rw [enforceBarrier_of_not_beyond hbyd]
    exact hq

theorem leads_placeAt (h : Met (wallAt barriers old requested) (present barriers) (distances old requested) p) :
    Leads barriers old requested (placeAt old requested p) := by
  induction h with
  | start =>
    rw [placeAt_distances]
    exact .request
  | stop hid _ ih =>
    obtain ⟨barrier, hlook⟩ := mem_iff.mp hid
    rw [wallAt_of_lookup hlook, ← enforceBarrier_placeAt]
    exact leads_enforceBarrier ih hlook

theorem exists_met {q : Int × Int} (h : Leads barriers old requested q) :
    ∃ p, q = placeAt old requested p ∧
      Met (wallAt barriers old requested) (present barriers) (distances old requested) p := by
  induction h with
  | request => exact ⟨_, (placeAt_distances old requested).symm, .start⟩
  | @vertical q id barrier _ hlook hfaces hblk ih =>
    obtain ⟨p, rfl, hp⟩ := ih
    refine ⟨_, ?_, .stop (mem_present hlook) hp⟩
    rw [wallAt_of_lookup hlook, ← enforceBarrier_placeAt, enforceBarrier_vertical hfaces hblk]
  | @horizontal q id barrier _ hlook hfaces hblk ih =>
    obtain ⟨p, rfl, hp⟩ := ih
    refine ⟨_, ?_, .stop (mem_present hlook) hp⟩
    rw [wallAt_of_lookup hlook, ← enforceBarrier_placeAt, enforceBarrier_horizontal hfaces hblk]

theorem within_placeAt_iff {q : Nat × Nat} :
    Within old (placeAt old requested q) (placeAt old requested p) ↔ p ≤ q :=
  and_congr between_place_iff between_place_iff

theorem side_iff {k : Nat} :
    (∃ id ∈ present barriers, ∃ span, wallAt barriers old requested id = .side k span ∧
      (distances old requested).2 ∈ span ∧ p.2 ∈ span) ↔
    ∃ barrier, ((∃ id, barriers.lookup id = some barrier) ∧ barrier.FacesX requested.2 ∧
      barrier.FacesX (place old.2 requested.2 p.2)) ∧ barrier.OpposesX old.1 requested.1 ∧
        (barrier.x1 - old.1).natAbs = k := by
  have hht : place old.2 requested.2 (distances old requested).2 = requested.2 := place_requested _ _
  constructor
  · rintro ⟨id, -, span, hwall, hst, hpast⟩
    obtain ⟨barrier, hlook, hwall⟩ := (wallAt_eq_some_iff (by simp)).mp hwall
    obtain ⟨hvert, hopp, hk, rfl⟩ := wallOf_eq_side_iff.mp hwall
    exact ⟨barrier, ⟨⟨id, hlook⟩, ⟨hvert, hht ▸ hst⟩, hvert, hpast⟩, hopp, hk⟩
  · rintro ⟨barrier, ⟨⟨id, hlook⟩, ⟨hvert, hst⟩, -, hpast⟩, hopp, hk⟩
    have hwall := wallOf_eq_side_iff.mpr ⟨hvert, hopp, hk, rfl⟩
    refine ⟨id, mem_present hlook, _, (wallAt_of_lookup hlook).trans hwall, ?_, hpast⟩
    show Between _ _ _
    rwa [hht]

theorem floor_iff {k : Nat} :
    (∃ id ∈ present barriers, ∃ span, wallAt barriers old requested id = .floor k span ∧
      (distances old requested).1 ∈ span ∧ p.1 ∈ span) ↔
    ∃ barrier, ((∃ id, barriers.lookup id = some barrier) ∧ barrier.FacesY requested.1 ∧
      barrier.FacesY (place old.1 requested.1 p.1)) ∧ barrier.OpposesY old.2 requested.2 ∧
        (barrier.y1 - old.2).natAbs = k := by
  have hcol : place old.1 requested.1 (distances old requested).1 = requested.1 := place_requested _ _
  constructor
  · rintro ⟨id, -, span, hwall, hst, hpast⟩
    obtain ⟨barrier, hlook, hwall⟩ := (wallAt_eq_some_iff (by simp)).mp hwall
    obtain ⟨⟨hvert, hline⟩, hopp, hk, rfl⟩ := wallOf_eq_floor_iff.mp hwall
    exact ⟨barrier, ⟨⟨id, hlook⟩, ⟨hvert, hline, hcol ▸ hst⟩, hvert, hline, hpast⟩, hopp, hk⟩
  · rintro ⟨barrier, ⟨⟨id, hlook⟩, ⟨hvert, hline, hst⟩, -, -, hpast⟩, hopp, hk⟩
    have hwall := wallOf_eq_floor_iff.mpr ⟨⟨hvert, hline⟩, hopp, hk, rfl⟩
    refine ⟨id, mem_present hlook, _, (wallAt_of_lookup hlook).trans hwall, ?_, hpast⟩
    show Between _ _ _
    rwa [hcol]

theorem corner_placeAt_iff :
    Corner (wallAt barriers old requested) (present barriers) (distances old requested) p ↔
      BarrierCorner barriers old requested (placeAt old requested p) := by
  have hbound : (∀ q, Met (wallAt barriers old requested) (present barriers) (distances old requested) q → p ≤ q) ↔
      ∀ q, Leads barriers old requested q → Within old q (placeAt old requested p) := by
    constructor
    · intro h q hq
      obtain ⟨q, rfl, hmet⟩ := exists_met hq
      exact within_placeAt_iff.mpr (h q hmet)
    · exact fun h q hmet => within_placeAt_iff.mp (h _ (leads_placeAt hmet))
  constructor
  · rintro ⟨hpast, hside, hfloor⟩
    have hle := hpast _ .start
    rw [side_iff, distances, stops_iff_blocked hle.1] at hside
    rw [floor_iff, distances, stops_iff_blocked hle.2] at hfloor
    refine ⟨hbound.mp hpast, hside.imp_right ?_, hfloor.imp_right ?_⟩
    · rintro ⟨barrier, ⟨⟨id, hlook⟩, hst, hend⟩, hline, hblk⟩
      exact ⟨id, barrier, hlook, hline, hblk, hst, hend⟩
    · rintro ⟨barrier, ⟨⟨id, hlook⟩, hst, hend⟩, hline, hblk⟩
      exact ⟨id, barrier, hlook, hline, hblk, hst, hend⟩
  · rintro ⟨hpast, hvert, hhoriz⟩
    have hle := hbound.mpr hpast _ .start
    refine ⟨hbound.mpr hpast, ?_, ?_⟩
    · rw [side_iff, distances, stops_iff_blocked hle.1]
      refine hvert.imp_right ?_
      rintro ⟨id, barrier, hlook, hline, hblk, hst, hend⟩
      exact ⟨barrier, ⟨⟨id, hlook⟩, hst, hend⟩, hline, hblk⟩
    · rw [floor_iff, distances, stops_iff_blocked hle.2]
      refine hhoriz.imp_right ?_
      rintro ⟨id, barrier, hlook, hline, hblk, hst, hend⟩
      exact ⟨barrier, ⟨⟨id, hlook⟩, hst, hend⟩, hline, hblk⟩

theorem settled_iff_corner :
    (∀ order, IterationOrder order barriers →
      enforceBarriers order barriers old requested = placeAt old requested p ∧
        ∀ id barrier, barriers.lookup id = some barrier → ¬Beyond old barrier (placeAt old requested p)) ↔
      BarrierCorner barriers old requested (placeAt old requested p) := by
  obtain ⟨order, hord⟩ := exists_iterationOrder barriers
  rw [settles_iff_settled, ← corner_placeAt_iff]
  refine settles_iff (fun id _ k span hwall => ?_) (fun id _ k span hwall => ?_) (l := order) hord
  · obtain ⟨barrier, -, hwall⟩ := (wallAt_eq_some_iff (by simp)).mp hwall
    exact (wallOf_eq_side_iff.mp hwall).2.2.2 ▸ extent_ordConnected _ _
  · obtain ⟨barrier, -, hwall⟩ := (wallAt_eq_some_iff (by simp)).mp hwall
    exact (wallOf_eq_floor_iff.mp hwall).2.2.2 ▸ extent_ordConnected _ _

end Walls

theorem enforceBarriers_within (order : List XId) (barriers : HashMap XId PointerBarrier) (old requested : Int × Int) :
    Within old requested (enforceBarriers order barriers old requested) := by
  have hle : travel (wallAt barriers old requested) order (distances old requested) ≤ distances old requested :=
    travel_le order (distances old requested)
  have hwithin : Within old (placeAt old requested (distances old requested))
      (placeAt old requested (travel (wallAt barriers old requested) order (distances old requested))) :=
    within_placeAt_iff.mpr hle
  rwa [placeAt_distances, ← enforceBarriers_placeAt] at hwithin

/-- The pointer comes to rest in one position for every order of the map, and beyond no barrier that
blocks it, exactly if the barriers form a corner there. -/
theorem enforceBarriers_settled_iff (barriers : HashMap XId PointerBarrier) (old requested : Int × Int) :
    (∃ r, ∀ order, IterationOrder order barriers → enforceBarriers order barriers old requested = r ∧
      ∀ id barrier, barriers.lookup id = some barrier → ¬Beyond old barrier r) ↔
    ∃ corner, BarrierCorner barriers old requested corner := by
  constructor
  · rintro ⟨r, h⟩
    obtain ⟨order, hord⟩ := exists_iterationOrder barriers
    obtain rfl := (h order hord).1
    rw [enforceBarriers_placeAt] at h
    exact ⟨_, settled_iff_corner.mp h⟩
  · rintro ⟨corner, h⟩
    obtain ⟨hx, hy⟩ := h.bound _ .request
    obtain ⟨d, hd⟩ := exists_place hx
    obtain ⟨e, he⟩ := exists_place hy
    obtain rfl : corner = placeAt old requested (d, e) := Prod.ext hd he
    exact ⟨_, settled_iff_corner.mpr h⟩

/-- A wall and a floor that cross: the order in which they are met decides which of them the
pointer passes. -/
def crossing : HashMap XId PointerBarrier :=
  ((∅ : HashMap XId PointerBarrier).insert 1 ⟨10, 0, 10, 10, 0⟩).insert 2 ⟨0, 5, 20, 5, 0⟩

theorem mem_crossing (id : XId) : id ∈ crossing ↔ id = 2 ∨ id = 1 := by
  simp [crossing, mem_insert, notMem_empty]

theorem enforceBarriers_crossing_differs :
    IterationOrder [1, 2] crossing ∧ IterationOrder [2, 1] crossing ∧
      enforceBarriers [1, 2] crossing (0, 0) (15, 20) = (15, 5) ∧
      enforceBarriers [2, 1] crossing (0, 0) (15, 20) = (10, 5) ∧
      crossing.lookup 1 = some ⟨10, 0, 10, 10, 0⟩ ∧ Beyond (0, 0) ⟨10, 0, 10, 10, 0⟩ (15, 5) := by
  refine ⟨⟨by decide, fun id => ?_⟩, ⟨by decide, fun id => ?_⟩, by decide, by decide, by decide, .inl ⟨⟨rfl, ?_⟩, ?_⟩⟩
  · rw [mem_crossing]
    simp [or_comm]
  · rw [mem_crossing]
    simp
  · show Between 0 10 5
    decide
  · show PointerBarrier.blocksX ⟨10, 0, 10, 10, 0⟩ 0 15 = true
    decide

end X11Web.PointerBarriers
