import Mathlib.Data.List.Nodup
import Mathlib.Order.Interval.Set.OrdConnected

namespace X11Web.Walls

open List Prod

/-! A point that travels against walls which stop it on one axis or the other,
and the order in which the walls are met. -/

variable {α β ι : Type*} [LinearOrder α] [LinearOrder β]

/-- A wall stops the first coordinate where the second lies in its span, or the
other way round. -/
inductive Wall (α β : Type*)
  | side (pos : α) (span : Set β)
  | floor (pos : β) (span : Set α)
  | inert

namespace Wall

def swap : Wall α β → Wall β α
  | side pos span => floor pos span
  | floor pos span => side pos span
  | inert => inert

open Classical in
noncomputable def stop : Wall α β → α × β → α × β
  | side pos span, p => if p.2 ∈ span ∧ pos < p.1 then (pos, p.2) else p
  | floor pos span, p => if p.1 ∈ span ∧ pos < p.2 then (p.1, pos) else p
  | inert, p => p

def Past : Wall α β → α × β → Prop
  | side pos _, p => p.1 ≤ pos
  | floor pos _, p => p.2 ≤ pos
  | inert, _ => True

variable {w : Wall α β} {p q : α × β}

theorem stop_swap (w : Wall α β) (p : α × β) : w.swap.stop p.swap = (w.stop p).swap := by
  cases w with
  | side pos span =>
    simp only [swap, stop, fst_swap, snd_swap]
    split <;> rfl
  | floor pos span =>
    simp only [swap, stop, fst_swap, snd_swap]
    split <;> rfl
  | inert => rfl

theorem stop_le (w : Wall α β) (p : α × β) : w.stop p ≤ p := by
  cases w with
  | side pos span =>
    rw [stop]
    split
    · next h => exact ⟨h.2.le, le_refl _⟩
    · exact le_refl _
  | floor pos span =>
    rw [stop]
    split
    · next h => exact ⟨le_refl _, h.2.le⟩
    · exact le_refl _
  | inert => exact le_refl _

theorem stop_of_past (h : w.Past p) : w.stop p = p := by
  cases w with
  | side pos span => exact if_neg fun hp => hp.2.not_ge h
  | floor pos span => exact if_neg fun hp => hp.2.not_ge h
  | inert => rfl

theorem past_of_le (h : w.Past p) (hq : q ≤ p) : w.Past q := by
  cases w with
  | side pos span => exact hq.1.trans h
  | floor pos span => exact hq.2.trans h
  | inert => exact h

theorem past_stop (h : w.stop p ≠ p) : w.Past (w.stop p) := by
  cases w with
  | side pos span =>
    have hstop : p.2 ∈ span ∧ pos < p.1 := by
      by_contra hno
      exact h (if_neg hno)
    rw [stop, if_pos hstop]
    exact le_refl pos
  | floor pos span =>
    have hstop : p.1 ∈ span ∧ pos < p.2 := by
      by_contra hno
      exact h (if_neg hno)
    rw [stop, if_pos hstop]
    exact le_refl pos
  | inert => exact absurd rfl h

end Wall

open Wall

variable {wall : ι → Wall α β} {S : Set ι} {start p q r : α × β} {l l₀ : List ι} {k : ι}

noncomputable def travel (wall : ι → Wall α β) (l : List ι) (p : α × β) : α × β :=
  l.foldl (fun p k => (wall k).stop p) p

def Visits (S : Set ι) (l : List ι) : Prop := l.Nodup ∧ ∀ k, k ∈ l ↔ k ∈ S

/-- The points that some walls of the set can bring the starting point to. -/
inductive Met (wall : ι → Wall α β) (S : Set ι) (start : α × β) : α × β → Prop
  | start : Met wall S start start
  | stop {p : α × β} {k : ι} : k ∈ S → Met wall S start p → Met wall S start ((wall k).stop p)

/-- Whatever the order of the walls, the point ends up in the same place, and no
wall would stop it there. -/
def Settles (wall : ι → Wall α β) (S : Set ι) (start r : α × β) : Prop :=
  ∀ l, Visits S l → travel wall l start = r ∧ ∀ k ∈ S, (wall k).stop r = r

/-- The place is a corner: on either axis it is where the point started, or a wall
runs past it that also faces the starting point, and no walls bring the point
further. -/
structure Corner (wall : ι → Wall α β) (S : Set ι) (start r : α × β) : Prop where
  bound : ∀ p, Met wall S start p → r ≤ p
  side : r.1 = start.1 ∨ ∃ k ∈ S, ∃ span, wall k = .side r.1 span ∧ start.2 ∈ span ∧ r.2 ∈ span
  floor : r.2 = start.2 ∨ ∃ k ∈ S, ∃ span, wall k = .floor r.2 span ∧ start.1 ∈ span ∧ r.1 ∈ span

theorem travel_append (l l' : List ι) (p : α × β) : travel wall (l ++ l') p = travel wall l' (travel wall l p) :=
  foldl_append

@[simp] theorem travel_cons (k : ι) (l : List ι) (p : α × β) :
    travel wall (k :: l) p = travel wall l ((wall k).stop p) := rfl

@[simp] theorem travel_nil (p : α × β) : travel wall [] p = p := rfl

theorem travel_le (l : List ι) (p : α × β) : travel wall l p ≤ p := by
  induction l generalizing p with
  | nil => exact le_refl p
  | cons k l ih => exact (ih _).trans (stop_le _ p)

theorem travel_eq_self (h : ∀ k ∈ l, (wall k).stop p = p) : travel wall l p = p := by
  induction l with
  | nil => rfl
  | cons k l ih =>
    rw [travel_cons, h k mem_cons_self]
    exact ih fun j hj => h j (mem_cons_of_mem k hj)

theorem travel_swap (l : List ι) (p : α × β) : travel (fun k => (wall k).swap) l p.swap = (travel wall l p).swap := by
  induction l generalizing p with
  | nil => rfl
  | cons k l ih => rw [travel_cons, travel_cons, stop_swap, ih]

theorem Met.travel (hp : Met wall S start p) (h : ∀ k ∈ l, k ∈ S) : Met wall S start (travel wall l p) := by
  induction l generalizing p with
  | nil => exact hp
  | cons k l ih =>
    exact ih (.stop (h k mem_cons_self) hp) fun j hj => h j (mem_cons_of_mem k hj)

/-- A point that can be met is met by visiting some walls once each, none of which
stops it again. -/
theorem Met.exists_visit (h : Met wall S start p) :
    ∃ l : List ι, l.Nodup ∧ (∀ k ∈ l, k ∈ S ∧ (wall k).Past p) ∧ Walls.travel wall l start = p := by
  induction h with
  | start => exact ⟨[], nodup_nil, by simp, rfl⟩
  | @stop p k hk _ ih =>
    obtain ⟨l, hnd, hl, htravel⟩ := ih
    by_cases hstop : (wall k).stop p = p
    · rw [hstop]
      exact ⟨l, hnd, hl, htravel⟩
    · -- the wall is not among those visited, which are all passed
      have hnew : k ∉ l := fun hmem => hstop (stop_of_past (hl k hmem).2)
      refine ⟨l ++ [k], nodup_append.mpr ⟨hnd, nodup_singleton k, ?_⟩, fun j hj => ?_, ?_⟩
      · rintro j hj i hi rfl
        exact hnew (mem_singleton.mp hi ▸ hj)
      · rcases mem_append.mp hj with hj | hj
        · exact ⟨(hl j hj).1, past_of_le (hl j hj).2 (stop_le _ p)⟩
        · rw [mem_singleton.mp hj]
          exact ⟨hk, past_stop hstop⟩
      · rw [travel_append, htravel]
        rfl

section Corners

variable (hconvex : ∀ k ∈ S, ∀ pos span, wall k = .side pos span → span.OrdConnected)

include hconvex in
theorem Corner.travel_fst (h : Corner wall S start r) (hl : Visits S l) : (travel wall l start).1 = r.1 := by
  have hmet : Met wall S start (travel wall l start) := Met.start.travel fun k hk => (hl.2 k).mp hk
  refine le_antisymm ?_ (h.bound _ hmet).1
  rcases h.side with hst | ⟨k, hk, span, hwall, hfaces, hpast⟩
  · rw [hst]
    exact (travel_le l start).1
  · obtain ⟨l₁, l₂, rfl⟩ := append_of_mem ((hl.2 k).mpr hk)
    rw [travel_append, travel_cons]
    refine (travel_le l₂ _).1.trans ?_
    -- when the wall is met, the point is between the two places that it faces
    have hbound := h.bound _ (Met.start.travel fun j hj => (hl.2 j).mp (mem_append_left _ hj))
    have hspan : (travel wall l₁ start).2 ∈ span :=
      (hconvex k hk _ _ hwall).out hpast hfaces ⟨hbound.2, (travel_le l₁ start).2⟩
    rw [hwall, stop]
    split
    · exact le_refl _
    · next hno => exact le_of_not_gt fun hlt => hno ⟨hspan, hlt⟩

theorem Corner.stop_eq (h : Corner wall S start r) (hr : Met wall S start r) (hk : k ∈ S) : (wall k).stop r = r :=
  le_antisymm (stop_le _ r) (h.bound _ (.stop hk hr))

end Corners

section Misses

theorem travel_fst_ne {x : α} (h : ∀ k ∈ l, ∀ span, wall k ≠ .side x span) (hp : p.1 ≠ x) : (travel wall l p).1 ≠ x := by
  induction l generalizing p with
  | nil => exact hp
  | cons k l ih =>
    refine ih (fun j hj => h j (mem_cons_of_mem k hj)) ?_
    have hk := h k mem_cons_self
    show ((wall k).stop p).1 ≠ x
    cases hwall : wall k with
    | side pos span =>
      rw [stop]
      split
      · rintro rfl
        exact hk span hwall
      · exact hp
    | floor pos span =>
      rw [stop]
      split <;> exact hp
    | inert => exact hp

theorem travel_missing {x : α} (h : ∀ k ∈ l, ∃ span, wall k = .side x span ∧ p.2 ∉ span) : travel wall l p = p := by
  refine travel_eq_self fun k hk => ?_
  obtain ⟨span, hwall, hp⟩ := h k hk
  rw [hwall]
  exact if_neg fun hno => hp hno.1

/-- The wall stops the first coordinate at `x`, and faces the height `y`. -/
def Faces (x : α) (y : β) (w : Wall α β) : Prop := ∃ span, w = .side x span ∧ y ∈ span

/-- The wall stops the first coordinate at `x`, but not at the height `y`. -/
def Averts (x : α) (y : β) (w : Wall α β) : Prop := ∃ span, w = .side x span ∧ y ∉ span

variable {x : α} {y : β} {via : List ι}

omit [LinearOrder α] [LinearOrder β] in
theorem not_faces_of_averts {w : Wall α β} (h : Averts x y w) : ¬Faces x y w := by
  obtain ⟨span, rfl, hno⟩ := h
  rintro ⟨span', hspan, hyes⟩
  injection hspan with _ hspan
  exact hno (hspan ▸ hyes)

omit [LinearOrder α] [LinearOrder β] in
theorem side_cases {span : Set β} (h : wall k = .side x span) (y : β) : Faces x y (wall k) ∨ Averts x y (wall k) := by
  by_cases hy : y ∈ span
  · exact .inl ⟨span, h, hy⟩
  · exact .inr ⟨span, h, hy⟩

open Classical in
/-- First the walls at `x` that do not face the height `y`, then those of `via`, then
the other walls at `x`, and then the rest. -/
noncomputable def missingOrder (wall : ι → Wall α β) (x : α) (y : β) (via l : List ι) : List ι :=
  l.filter (fun k => Averts x y (wall k)) ++ (via ++ (l.filter (fun k => Faces x y (wall k)) ++
    l.filter fun k => ¬Averts x y (wall k) ∧ ¬Faces x y (wall k) ∧ k ∉ via))

omit [LinearOrder α] [LinearOrder β] in
theorem visits_missingOrder (hl : Visits S l) (hvia : via.Nodup)
    (hmem : ∀ k ∈ via, k ∈ S ∧ ∀ span, wall k ≠ .side x span) : Visits S (missingOrder wall x y via l) := by
  have hneither : ∀ k ∈ via, ¬Averts x y (wall k) ∧ ¬Faces x y (wall k) := fun k hk =>
    ⟨fun ⟨span, hwall, _⟩ => (hmem k hk).2 span hwall, fun ⟨span, hwall, _⟩ => (hmem k hk).2 span hwall⟩
  constructor
  · refine nodup_append'.mpr ⟨hl.1.filter _, nodup_append'.mpr ⟨hvia, nodup_append'.mpr
      ⟨hl.1.filter _, hl.1.filter _, fun k hk hk' => ?_⟩, fun k hk hk' => ?_⟩, fun k hk hk' => ?_⟩
    · simp only [mem_filter, decide_eq_true_eq] at hk hk'
      exact hk'.2.2.1 hk.2
    · simp only [mem_append, mem_filter, decide_eq_true_eq] at hk'
      rcases hk' with hk' | hk'
      · exact (hneither k hk).2 hk'.2
      · exact hk'.2.2.2 hk
    · simp only [mem_append, mem_filter, decide_eq_true_eq] at hk hk'
      rcases hk' with hk' | hk' | hk'
      · exact (hneither k hk').1 hk.2
      · exact not_faces_of_averts hk.2 hk'.2
      · exact hk'.2.1 hk.2
  · intro k
    have hsub := fun hk => (hmem k hk).1
    simp only [missingOrder, mem_append, mem_filter, decide_eq_true_eq, hl.2]
    tauto

/-- Where no wall at `x` faces both the start and the place that the walls of `via` bring the
point to, the order keeps the point off `x`. -/
theorem travel_missingOrder_ne (hx : start.1 ≠ x) (htravel : (travel wall via start).1 = start.1)
    (hnone : ∀ k ∈ l, Faces x start.2 (wall k) → Averts x (travel wall via start).2 (wall k)) :
    (travel wall (missingOrder wall x start.2 via l) start).1 ≠ x := by
  classical
  have hfst : travel wall (l.filter fun k => Averts x start.2 (wall k)) start = start :=
    travel_missing (x := x) fun k hk => of_decide_eq_true (mem_filter.mp hk).2
  have hsecond : travel wall (l.filter fun k => Faces x start.2 (wall k)) (travel wall via start) =
      travel wall via start :=
    travel_missing (x := x) fun k hk =>
      hnone k (mem_of_mem_filter hk) (of_decide_eq_true (mem_filter.mp hk).2)
  rw [missingOrder, travel_append, travel_append, travel_append, hfst, hsecond]
  refine travel_fst_ne (fun k hk span hwall => ?_) (by rw [htravel]; exact hx)
  obtain ⟨hno, hno', -⟩ := of_decide_eq_true (mem_filter.mp hk).2
  exact (side_cases hwall start.2).elim hno' hno

end Misses

section Swapping

theorem Met.swap (h : Met wall S start p) : Met (fun k => (wall k).swap) S start.swap p.swap := by
  induction h with
  | start => exact .start
  | stop hk _ ih =>
    rw [← stop_swap]
    exact .stop hk ih

omit [LinearOrder α] [LinearOrder β] in
theorem swap_swap (w : Wall α β) : w.swap.swap = w := by
  cases w <;> rfl

theorem Settles.swap (h : Settles wall S start r) : Settles (fun k => (wall k).swap) S start.swap r.swap := by
  intro l hl
  obtain ⟨htravel, hstop⟩ := h l hl
  refine ⟨by rw [travel_swap, htravel], fun k hk => ?_⟩
  rw [stop_swap, hstop k hk]

omit [LinearOrder α] [LinearOrder β] in
theorem swap_eq_side {w : Wall α β} {y : β} {span : Set α} : w.swap = .side y span ↔ w = .floor y span := by
  cases w <;> simp [Wall.swap]

omit [LinearOrder α] [LinearOrder β] in
theorem swap_eq_floor {w : Wall α β} {x : α} {span : Set β} : w.swap = .floor x span ↔ w = .side x span := by
  cases w <;> simp [Wall.swap]

theorem Corner.swap (h : Corner wall S start r) : Corner (fun k => (wall k).swap) S start.swap r.swap where
  bound p hp := by
    have hmet := hp.swap
    simp only [swap_swap] at hmet
    exact swap_le_swap.mp (h.bound _ hmet)
  side := by simpa only [swap_eq_side, fst_swap, snd_swap] using h.floor
  floor := by simpa only [swap_eq_floor, fst_swap, snd_swap] using h.side

end Swapping

theorem Settles.faced (h : Settles wall S start r) (hl : Visits S l) (hx : r.1 ≠ start.1) {via : List ι} {y : β}
    (hvia : via.Nodup) (hmem : ∀ k ∈ via, k ∈ S ∧ ∀ span, wall k ≠ .side r.1 span)
    (htravel : travel wall via start = (start.1, y)) :
    ∃ k ∈ S, ∃ span, wall k = .side r.1 span ∧ start.2 ∈ span ∧ y ∈ span := by
  by_contra hnone
  have hvisits := visits_missingOrder (y := start.2) hl hvia hmem
  refine travel_missingOrder_ne (l := l) (Ne.symm hx) (by rw [htravel]) (fun k hk hfaces => ?_)
    (congrArg Prod.fst (h _ hvisits).1)
  obtain ⟨span, hwall, hst⟩ := hfaces
  refine ⟨span, hwall, fun hy => hnone ⟨k, (hl.2 k).mp hk, span, hwall, hst, ?_⟩⟩
  rwa [htravel] at hy

theorem Settles.bound (h : Settles wall S start r) (hl : Visits S l) (hp : Met wall S start p) : r ≤ p := by
  classical
  obtain ⟨visited, hnd, hvisited, htravel⟩ := hp.exists_visit
  have hvisits : Visits S (visited ++ l.filter (· ∉ visited)) := by
    refine ⟨nodup_append'.mpr ⟨hnd, hl.1.filter _, fun k hk hk' => ?_⟩, fun k => ?_⟩
    · exact of_decide_eq_true (mem_filter.mp hk').2 hk
    · have := fun hk => (hvisited k hk).1
      simp only [mem_append, mem_filter, decide_eq_true_eq, hl.2]
      tauto
  rw [← (h _ hvisits).1, travel_append, htravel]
  exact travel_le _ p

theorem Settles.side (h : Settles wall S start r) (hl : Visits S l) :
    r.1 = start.1 ∨ ∃ k ∈ S, ∃ span, wall k = .side r.1 span ∧ start.2 ∈ span ∧ r.2 ∈ span := by
  by_cases hx : r.1 = start.1
  · exact .inl hx
  by_cases hy : r.2 = start.2
  · -- the point keeps its height
    refine .inr ?_
    rw [hy]
    exact h.faced hl hx nodup_nil (by simp) rfl
  · -- some floor brings the point to its height at once
    obtain ⟨k, hk, span, hwall, hst, -⟩ := h.swap.faced hl hy nodup_nil (by simp) rfl
    have hfloor : wall k = .floor r.2 span := swap_eq_side.mp hwall
    have hlt : r.2 < start.2 := lt_of_le_of_ne (h.bound hl .start).2 hy
    refine .inr (h.faced hl hx (nodup_singleton k) ?_ ?_)
    · intro j hj
      rw [mem_singleton.mp hj, hfloor]
      exact ⟨hk, fun _ hside => by cases hside⟩
    · rw [travel_cons, hfloor, travel_nil]
      exact if_pos ⟨hst, hlt⟩

theorem settles_iff (hside : ∀ k ∈ S, ∀ pos span, wall k = .side pos span → span.OrdConnected)
    (hfloor : ∀ k ∈ S, ∀ pos span, wall k = .floor pos span → span.OrdConnected) (hl : Visits S l) :
    Settles wall S start r ↔ Corner wall S start r := by
  constructor
  · intro h
    refine ⟨fun p hp => h.bound hl hp, h.side hl, ?_⟩
    simpa only [swap_eq_side, fst_swap, snd_swap] using h.swap.side hl
  · intro h
    have hplc : ∀ l', Visits S l' → travel wall l' start = r := by
      intro l' hl'
      have hsnd := h.swap.travel_fst (fun k hk pos span hwall => hfloor k hk pos span (swap_eq_side.mp hwall)) hl'
      rw [travel_swap] at hsnd
      exact Prod.ext (h.travel_fst hside hl') hsnd
    have hmet : Met wall S start r := hplc l hl ▸ Met.start.travel fun k hk => (hl.2 k).mp hk
    exact fun l' hl' => ⟨hplc l' hl', fun k hk => h.stop_eq hmet hk⟩

end X11Web.Walls
