import X11Web.DamageBoxes
import Mathlib.Algebra.Order.Group.Int
import Mathlib.Data.List.Induction

namespace X11Web.WaylandPixels

open Option

/-- A sum or difference, where it is a number of an `i32`. -/
def checked (n : Int) : Option Int := if -2 ^ 31 ≤ n ∧ n < 2 ^ 31 then some n else none

theorem checked_bind_eq_some {α : Type} {n : Int} {f : Int → Option α} {a : α} :
    (checked n).bind f = some a ↔ (-2 ^ 31 ≤ n ∧ n < 2 ^ 31) ∧ f n = some a := by
  by_cases hn : -2 ^ 31 ≤ n ∧ n < 2 ^ 31
  · rw [checked, if_pos hn, bind_some, and_iff_right hn]
  · rw [checked, if_neg hn, bind_none]
    exact iff_of_false nofun fun h => hn h.1

namespace Rect

def right (r : Rect) : Int := r.x + r.w

def bottom (r : Rect) : Int := r.y + r.h

/-- `union`, where nothing overflows. -/
def checkedUnion (r r' : Rect) : Option Rect :=
  if r.isEmpty then some r'
  else if r'.isEmpty then some r
  else do
    let x0 := min r.x r'.x
    let y0 := min r.y r'.y
    let x1 := max (← checked (r.x + r.w)) (← checked (r'.x + r'.w))
    let y1 := max (← checked (r.y + r.h)) (← checked (r'.y + r'.h))
    return ⟨x0, y0, ← checked (x1 - x0), ← checked (y1 - y0)⟩

/-- `clip`, where nothing overflows. -/
def checkedClip (r : Rect) (w h : Int) : Option (Option Rect) := do
  let x0 := max r.x 0
  let y0 := max r.y 0
  let x1 := min (← checked (r.x + r.w)) w
  let y1 := min (← checked (r.y + r.h)) h
  if x1 ≤ x0 ∨ y1 ≤ y0 then return none
  else return some ⟨x0, y0, ← checked (x1 - x0), ← checked (y1 - y0)⟩

def join (r r' : Rect) : Rect :=
  ⟨min r.x r'.x, min r.y r'.y, max r.right r'.right - min r.x r'.x, max r.bottom r'.bottom - min r.y r'.y⟩

/-- A rectangle of at least one pixel, whose corner is a point of `i32`s. -/
structure Solid (r : Rect) : Prop where
  wide : 0 < r.w
  high : 0 < r.h
  left : -2 ^ 31 ≤ r.x
  top : -2 ^ 31 ≤ r.y

/-- The far edges and the size are numbers of an `i32`. -/
structure FitsBox (r : Rect) : Prop where
  right : r.right < 2 ^ 31
  bottom : r.bottom < 2 ^ 31
  width : r.w < 2 ^ 31
  height : r.h < 2 ^ 31

variable {r r' b u : Rect} {rs : List Rect} {w h' x y : Int} {o : Option Rect}

@[simp] theorem join_right : (r.join r').right = max r.right r'.right := by
  simp [join, right]

@[simp] theorem join_bottom : (r.join r').bottom = max r.bottom r'.bottom := by
  simp [join, bottom]

theorem fitsBox_iff : r.FitsBox ↔ r.right < 2 ^ 31 ∧ r.bottom < 2 ^ 31 ∧ r.w < 2 ^ 31 ∧ r.h < 2 ^ 31 :=
  ⟨fun h => ⟨h.right, h.bottom, h.width, h.height⟩, fun ⟨hr, hb, hw, hh⟩ => ⟨hr, hb, hw, hh⟩⟩

theorem Solid.not_isEmpty (hr : r.Solid) : r.isEmpty = false := isEmpty_eq_false.mpr ⟨hr.wide, hr.high⟩

theorem checkedUnion_eq_some_iff (hr : r.Solid) (hr' : r'.Solid) :
    r.checkedUnion r' = some u ↔ (r.join r').FitsBox ∧ r.join r' = u := by
  rw [checkedUnion, hr.not_isEmpty, hr'.not_isEmpty, fitsBox_iff, join_right, join_bottom]
  simp only [Bool.false_eq_true, if_false, Option.bind_eq_bind, checked_bind_eq_some, pure_def, Option.some.injEq]
  have hwide := hr.wide
  have hhigh := hr.high
  have hwide' := hr'.wide
  have hhigh' := hr'.high
  have hleft := hr.left
  have htop := hr.top
  have hleft' := hr'.left
  have htop' := hr'.top
  dsimp only [join]
  rw [right, right, bottom, bottom]
  constructor
  · rintro ⟨h1, h2, h3, h4, h5, h6, h7⟩
    exact ⟨by omega, h7⟩
  · rintro ⟨h1, h2⟩
    exact ⟨by omega, by omega, by omega, by omega, by omega, by omega, h2⟩

theorem checkedClip_eq_some_iff :
    r.checkedClip w h' = some o ↔
      ((-2 ^ 31 ≤ r.right ∧ r.right < 2 ^ 31) ∧ -2 ^ 31 ≤ r.bottom ∧ r.bottom < 2 ^ 31) ∧ r.clip w h' = o := by
  rw [checkedClip, clip, and_assoc]
  simp only [Option.bind_eq_bind, checked_bind_eq_some]
  refine and_congr_right fun hright => and_congr_right fun hbot => ?_
  rw [i32_eq_self hright.1 hright.2, i32_eq_self hbot.1 hbot.2]
  split
  · simp
  · simp only [checked_bind_eq_some, pure_def, Option.some.injEq]
    rw [and_iff_right (by omega), and_iff_right (by omega)]

theorem union_of_checkedUnion (h : r.checkedUnion r' = some u) : r.union r' = u := by
  rw [checkedUnion] at h
  rw [union]
  by_cases hr : r.isEmpty = true
  · rw [if_pos hr] at h ⊢
    exact Option.some.inj h
  rw [if_neg hr] at h ⊢
  by_cases hr' : r'.isEmpty = true
  · rw [if_pos hr'] at h ⊢
    exact Option.some.inj h
  rw [if_neg hr'] at h ⊢
  simp only [Option.bind_eq_bind, checked_bind_eq_some, pure_def, Option.some.injEq] at h
  obtain ⟨h1, h2, h3, h4, h5, h6, h7⟩ := h
  rw [i32_eq_self h1.1 h1.2, i32_eq_self h2.1 h2.2, i32_eq_self h3.1 h3.2, i32_eq_self h4.1 h4.2]
  dsimp only
  rw [i32_eq_self h5.1 h5.2, i32_eq_self h6.1 h6.2, h7]

theorem contains_of_checkedClip (h : r.checkedClip w h' = some o) (hhas : r.Contains x y)
    (hwin : (0 ≤ x ∧ x < w) ∧ 0 ≤ y ∧ y < h') : ∃ u, o = some u ∧ u.Contains x y := by
  obtain ⟨⟨hright, hbot⟩, hclip⟩ := checkedClip_eq_some_iff.mp h
  unfold Contains at hhas
  rw [right] at hright
  rw [bottom] at hbot
  rw [clip, i32_eq_self hright.1 hright.2, i32_eq_self hbot.1 hbot.2, if_neg (by omega)] at hclip
  refine ⟨_, hclip.symm, ?_⟩
  unfold Contains
  dsimp only
  omega

structure IsHull (b : Rect) (rs : List Rect) : Prop where
  left : ∀ n, n ≤ b.x ↔ ∀ r ∈ rs, n ≤ r.x
  top : ∀ n, n ≤ b.y ↔ ∀ r ∈ rs, n ≤ r.y
  right : ∀ n, b.right ≤ n ↔ ∀ r ∈ rs, r.right ≤ n
  bottom : ∀ n, b.bottom ≤ n ↔ ∀ r ∈ rs, r.bottom ≤ n

theorem isHull_singleton : IsHull r [r] := by
  constructor <;> simp

theorem IsHull.join (hb : IsHull b rs) : IsHull (b.join r) (rs ++ [r]) := by
  constructor <;> intro n <;> rw [List.forall_mem_append, List.forall_mem_singleton]
  · rw [← hb.left]
    exact le_min_iff
  · rw [← hb.top]
    exact le_min_iff
  · rw [← hb.right, join_right]
    exact max_le_iff
  · rw [← hb.bottom, join_bottom]
    exact max_le_iff

def hull : List Rect → Option Rect
  | [] => none
  | r :: rs => some (rs.foldl Rect.join r)

theorem hull_concat (rs : List Rect) (r : Rect) :
    hull (rs ++ [r]) = some (match hull rs with | some b => b.join r | none => r) := by
  cases rs with
  | nil => rfl
  | cons r' rs => rw [List.cons_append, hull, hull, List.foldl_append, List.foldl_cons, List.foldl_nil]

theorem hull_eq_none : hull rs = none ↔ rs = [] := by
  cases rs <;> simp [hull]

theorem isHull_hull (h : hull rs = some b) : IsHull b rs := by
  induction rs using List.reverseRecOn generalizing b with
  | nil => cases h
  | append_singleton rs r ih =>
    rw [hull_concat] at h
    cases hrs : hull rs with
    | none =>
      obtain rfl := hull_eq_none.mp hrs
      obtain rfl : r = b := Option.some.inj h
      exact isHull_singleton
    | some b' =>
      rw [hrs] at h
      obtain rfl : b'.join r = b := Option.some.inj h
      exact (ih hrs).join

/-- The far edges of all of them, and the distances between any edges, are numbers of an `i32`. -/
structure AllFit (rs : List Rect) : Prop where
  edges : ∀ r ∈ rs, r.right < 2 ^ 31 ∧ r.bottom < 2 ^ 31
  extents : ∀ r ∈ rs, ∀ r' ∈ rs, r'.right - r.x < 2 ^ 31 ∧ r'.bottom - r.y < 2 ^ 31

theorem sub_lt_iff {f g : Rect → Int} {lo hi n : Int} (hlo : ∀ m, m ≤ lo ↔ ∀ r ∈ rs, m ≤ f r)
    (hhi : ∀ m, hi ≤ m ↔ ∀ r ∈ rs, g r ≤ m) : hi - lo < n ↔ ∀ r ∈ rs, ∀ r' ∈ rs, g r' - f r < n := by
  calc hi - lo < n ↔ hi - (n - 1) ≤ lo := by omega
    _ ↔ ∀ r ∈ rs, hi - (n - 1) ≤ f r := hlo _
    _ ↔ ∀ r ∈ rs, hi ≤ f r + (n - 1) := by
      refine forall₂_congr fun r _ => ?_
      omega
    _ ↔ ∀ r ∈ rs, ∀ r' ∈ rs, g r' ≤ f r + (n - 1) := by simp only [hhi]
    _ ↔ ∀ r ∈ rs, ∀ r' ∈ rs, g r' - f r < n := by
      refine forall₂_congr fun r _ => forall₂_congr fun r' _ => ?_
      omega

theorem IsHull.fits_iff (hb : IsHull b rs) : b.FitsBox ↔ AllFit rs := by
  have hright := hb.right (2 ^ 31 - 1)
  have hbot := hb.bottom (2 ^ 31 - 1)
  have hwd := sub_lt_iff (n := 2 ^ 31) hb.left hb.right
  have hht := sub_lt_iff (n := 2 ^ 31) hb.top hb.bottom
  rw [Int.le_sub_one_iff] at hright hbot
  simp only [Int.le_sub_one_iff] at hright hbot
  rw [Rect.right, add_sub_cancel_left] at hwd
  rw [Rect.bottom, add_sub_cancel_left] at hht
  rw [fitsBox_iff, hright, hbot, hwd, hht]
  constructor
  · rintro ⟨hr, hb, hw, hh⟩
    exact ⟨fun r h => ⟨hr r h, hb r h⟩, fun r h r' h' => ⟨hw r h r' h', hh r h r' h'⟩⟩
  · rintro ⟨hedges, hext⟩
    exact ⟨fun r h => (hedges r h).1, fun r h => (hedges r h).2, fun r h r' h' => (hext r h r' h').1,
      fun r h r' h' => (hext r h r' h').2⟩

theorem IsHull.solid (hb : IsHull b rs) (hr : r ∈ rs) (hrs : ∀ r ∈ rs, r.Solid) : b.Solid := by
  have hleft := (hb.left b.x).mp le_rfl r hr
  have htop := (hb.top b.y).mp le_rfl r hr
  have hright := (hb.right b.right).mp le_rfl r hr
  have hbot := (hb.bottom b.bottom).mp le_rfl r hr
  have hwide := (hrs r hr).wide
  have hhigh := (hrs r hr).high
  rw [Rect.right, Rect.right] at hright
  rw [Rect.bottom, Rect.bottom] at hbot
  exact ⟨by omega, by omega, (hb.left _).mpr fun r hr => (hrs r hr).left, (hb.top _).mpr fun r hr => (hrs r hr).top⟩

theorem IsHull.contains (hb : IsHull b rs) (hr : r ∈ rs) (hhas : r.Contains x y) : b.Contains x y := by
  have hleft := (hb.left b.x).mp le_rfl r hr
  have htop := (hb.top b.y).mp le_rfl r hr
  have hright := (hb.right b.right).mp le_rfl r hr
  have hbot := (hb.bottom b.bottom).mp le_rfl r hr
  rw [Rect.right, Rect.right] at hright
  rw [Rect.bottom, Rect.bottom] at hbot
  unfold Rect.Contains at hhas ⊢
  omega

end Rect

namespace DamageAccumulator

/-- `add`, where nothing overflows. -/
def checkedAdd (d : DamageAccumulator) (r : Rect) : Option DamageAccumulator :=
  if r.isEmpty then some d
  else
    let bbox := match d.bbox with
      | some b => b.checkedUnion r
      | none => some r
    bbox.map fun b => { d with bbox := some b }

/-- `take`, where nothing overflows. -/
def checkedTake (d : DamageAccumulator) (w h : Int) : Option (Option Rect) :=
  if d.full then (Rect.mk 0 0 w h).checkedClip w h
  else
    match d.bbox with
    | some b => b.checkedClip w h
    | none => some none

end DamageAccumulator

namespace DamageAccumulator

variable {d d' : DamageAccumulator} {r : Rect} {w h : Int} {o : Option Rect}

theorem add_of_checkedAdd (hadd : d.checkedAdd r = some d') : d.add r = d' := by
  rw [checkedAdd] at hadd
  rw [add]
  by_cases hr : r.isEmpty = true
  · rw [if_pos hr] at hadd ⊢
    exact Option.some.inj hadd
  rw [if_neg hr] at hadd ⊢
  obtain ⟨u, hu, rfl⟩ := Option.map_eq_some_iff.mp hadd
  cases hb : d.bbox with
  | none =>
    rw [hb] at hu
    obtain rfl : r = u := Option.some.inj hu
    rfl
  | some b =>
    rw [hb] at hu
    dsimp only
    rw [Rect.union_of_checkedUnion hu]

theorem take_of_checkedTake (htake : d.checkedTake w h = some o) : d.take w h = o := by
  rw [checkedTake] at htake
  rw [take]
  by_cases hfull : d.full = true
  · rw [if_pos hfull] at htake ⊢
    exact (Rect.checkedClip_eq_some_iff.mp htake).2
  rw [if_neg hfull] at htake ⊢
  cases hb : d.bbox with
  | none =>
    rw [hb] at htake
    exact Option.some.inj htake
  | some b =>
    rw [hb] at htake
    exact (Rect.checkedClip_eq_some_iff.mp htake).2

end DamageAccumulator

end X11Web.WaylandPixels

namespace X11Web.DamageDrains

open WaylandPixels

inductive Event
  | add (x y w h : Int32)
  | markFull
  | take (w h : Int32)
deriving DecidableEq

def next (d : DamageAccumulator) : Event → DamageAccumulator
  | .add x y w h => d.add ⟨x.toInt, y.toInt, w.toInt, h.toInt⟩
  | .markFull => d.markFull
  | .take _ _ => .new

def checkedNext (d : DamageAccumulator) : Event → Option DamageAccumulator
  | .add x y w h => d.checkedAdd ⟨x.toInt, y.toInt, w.toInt, h.toInt⟩
  | .markFull => some d.markFull
  | .take w h => (d.checkedTake w.toInt h.toInt).map fun _ => .new

def sinceTake (events : List Event) : List Event :=
  events.foldl (fun since e => match e with | .take _ _ => [] | e => since ++ [e]) []

def Event.rect? : Event → Option Rect
  | .add x y w h => if 0 < w.toInt ∧ 0 < h.toInt then some ⟨x.toInt, y.toInt, w.toInt, h.toInt⟩ else none
  | _ => none

def rects (events : List Event) : List Rect := (sinceTake events).filterMap Event.rect?

/-- What the next `take` of a `w × h` window returns: no addition or subtraction since the
last one overflows, and the result is a part of the window that contains every damaged pixel. -/
structure DrainsExactly (events : List Event) (w h : Int32) : Prop where
  noOverflow : ∃ d, (sinceTake events).foldlM checkedNext .new = some d ∧
    d.checkedTake w.toInt h.toInt = some ((events.foldl next .new).take w.toInt h.toInt)
  inside : ∀ r, (events.foldl next .new).take w.toInt h.toInt = some r → r.Within w.toInt h.toInt
  covers : ∀ r ∈ rects events, ∀ x y, r.Contains x y →
    (0 ≤ x ∧ x < w.toInt) ∧ 0 ≤ y ∧ y < h.toInt →
      ∃ r', (events.foldl next .new).take w.toInt h.toInt = some r' ∧ r'.Contains x y
  whole : .markFull ∈ sinceTake events → 0 < w.toInt ∧ 0 < h.toInt →
    (events.foldl next .new).take w.toInt h.toInt = some ⟨0, 0, w.toInt, h.toInt⟩

/-- The edges and the distances between them are numbers of an `i32`. Nothing is computed
of a single rectangle where the whole window is sent in its place. -/
structure Fits (rs : List Rect) (full : Prop) : Prop where
  edges : rs.length = 1 ∧ full ∨ ∀ r ∈ rs, r.right < 2 ^ 31 ∧ r.bottom < 2 ^ 31
  extents : ∀ r ∈ rs, ∀ r' ∈ rs, r'.right - r.x < 2 ^ 31 ∧ r'.bottom - r.y < 2 ^ 31

variable {events es : List Event} {e : Event} {d d' : DamageAccumulator} {r b : Rect} {rs : List Rect}

theorem next_of_checkedNext (h : checkedNext d e = some d') : next d e = d' := by
  cases e with
  | add x y w h' => exact DamageAccumulator.add_of_checkedAdd h
  | markFull => exact Option.some.inj h
  | take w h' =>
    obtain ⟨o, -, hd'⟩ := Option.map_eq_some_iff.mp h
    exact hd'

theorem run_of_checkedRun (h : es.foldlM checkedNext d = some d') : es.foldl next d = d' := by
  induction es generalizing d with
  | nil => exact Option.some.inj h
  | cons e es ih =>
    obtain ⟨d₁, he, hes⟩ := Option.bind_eq_some_iff.mp h
    rw [List.foldl_cons, next_of_checkedNext he]
    exact ih hes

theorem sinceTake_concat (events : List Event) (e : Event) :
    sinceTake (events ++ [e]) = match e with | .take _ _ => [] | e => sinceTake events ++ [e] := by
  rw [sinceTake, List.foldl_append]
  rfl

theorem run_eq_sinceTake (events : List Event) : events.foldl next .new = (sinceTake events).foldl next .new := by
  induction events using List.reverseRecOn with
  | nil => rfl
  | append_singleton events e ih =>
    rw [List.foldl_append, sinceTake_concat, ih]
    cases e with
    | take w h => rfl
    | add x y w h => rw [List.foldl_append]
    | markFull => rw [List.foldl_append]

theorem Event.solid_of_rect? (h : e.rect? = some r) : r.Solid ∧ r.w < 2 ^ 31 ∧ r.h < 2 ^ 31 := by
  cases e with
  | add x y w h' =>
    rw [Event.rect?] at h
    split at h
    · next hsize =>
      obtain rfl : _ = r := Option.some.inj h
      exact ⟨⟨hsize.1, hsize.2, x.le_toInt, y.le_toInt⟩, w.toInt_lt, h'.toInt_lt⟩
    · cases h
  | markFull => cases h
  | take w h' => cases h

theorem solid_of_mem_rects (h : r ∈ rects events) : r.Solid ∧ r.w < 2 ^ 31 ∧ r.h < 2 ^ 31 := by
  obtain ⟨e, -, he⟩ := List.mem_filterMap.mp h
  exact Event.solid_of_rect? he

def UnionsFit (rs : List Rect) : Prop := rs.length ≤ 1 ∨ Rect.AllFit rs

theorem UnionsFit.of_concat (h : UnionsFit (rs ++ [r])) : UnionsFit rs := by
  obtain h | h := h
  · rw [List.length_append] at h
    exact .inl (by omega)
  · refine .inr ⟨fun r' hr' => h.edges r' (List.mem_append_left _ hr'), fun r' hr' r'' hr'' => ?_⟩
    exact h.extents r' (List.mem_append_left _ hr') r'' (List.mem_append_left _ hr'')

theorem unionsFit_concat (hb : Rect.hull rs = some b) :
    UnionsFit (rs ++ [r]) ↔ UnionsFit rs ∧ (b.join r).FitsBox := by
  have hlong : ¬(rs ++ [r]).length ≤ 1 := by
    cases rs with
    | nil => cases hb
    | cons r' rs => simp
  rw [(Rect.isHull_hull hb).join.fits_iff]
  refine ⟨fun h => ⟨h.of_concat, h.resolve_left hlong⟩, fun h => .inr h.2⟩

theorem checkedAdd_iff {full : Bool} (hr : r.Solid) (hrs : ∀ r ∈ rs, r.Solid) (hfit : UnionsFit rs) :
    (DamageAccumulator.mk (Rect.hull rs) full).checkedAdd r = some d ↔
      UnionsFit (rs ++ [r]) ∧ ⟨Rect.hull (rs ++ [r]), full⟩ = d := by
  rw [DamageAccumulator.checkedAdd, if_neg (by rw [hr.not_isEmpty]; exact Bool.false_ne_true), Rect.hull_concat]
  cases hb : Rect.hull rs with
  | none =>
    obtain rfl := Rect.hull_eq_none.mp hb
    rw [and_iff_right (.inl le_rfl)]
    exact Option.some_inj
  | some b =>
    have hhull := Rect.isHull_hull hb
    have hsolid : b.Solid := by
      cases rs with
      | nil => cases hb
      | cons r' rs => exact hhull.solid (List.mem_cons_self ..) hrs
    rw [unionsFit_concat hb, and_iff_right hfit]
    dsimp only
    rw [Option.map_eq_some_iff]
    simp only [Rect.checkedUnion_eq_some_iff hsolid hr, and_assoc, exists_and_left, exists_eq_left']

theorem checkedRun_concat (es : List Event) (e : Event) :
    (es ++ [e]).foldlM checkedNext d = some d' ↔
      ∃ d₁, es.foldlM checkedNext d = some d₁ ∧ checkedNext d₁ e = some d' := by
  rw [List.foldlM_append, Option.bind_eq_bind, Option.bind_eq_some_iff]
  simp only [List.foldlM_cons, List.foldlM_nil, bind_pure]

theorem rects_concat_add {x y w h : Int32} :
    rects (events ++ [.add x y w h]) = rects events ++ (Event.add x y w h).rect?.toList := by
  rw [rects, sinceTake_concat, rects, List.filterMap_append]
  cases hrect : (Event.add x y w h).rect? with
  | none => rw [List.filterMap_cons_none hrect, List.filterMap_nil, Option.toList_none]
  | some r => rw [List.filterMap_cons_some hrect, List.filterMap_nil, Option.toList_some]

/-- The bounding box is that of the rectangles since the last `take`, and there is one where
none of the unions overflows. -/
theorem checkedRun_iff (events : List Event) (d : DamageAccumulator) :
    (sinceTake events).foldlM checkedNext .new = some d ↔
      UnionsFit (rects events) ∧ ⟨Rect.hull (rects events), decide (.markFull ∈ sinceTake events)⟩ = d := by
  have hnil (d) : ([] : List Event).foldlM checkedNext .new = some d ↔ UnionsFit [] ∧ ⟨none, false⟩ = d := by
    rw [and_iff_right (.inl (Nat.zero_le _))]
    exact Option.some_inj
  induction events using List.reverseRecOn generalizing d with
  | nil => exact hnil d
  | append_singleton events e ih =>
    cases e with
    | take w h =>
      rw [rects, sinceTake_concat]
      exact hnil d
    | markFull =>
      have hrects : rects (events ++ [.markFull]) = rects events := by
        rw [rects, sinceTake_concat, List.filterMap_append]
        exact List.append_nil _
      rw [hrects, sinceTake_concat, checkedRun_concat]
      simp only [ih, and_assoc, exists_and_left, exists_eq_left', checkedNext, Option.some.injEq,
        DamageAccumulator.markFull, List.mem_append, List.mem_singleton, or_true, decide_true]
    | add x y w h =>
      rw [rects_concat_add, sinceTake_concat, checkedRun_concat]
      simp only [ih, and_assoc, exists_and_left, exists_eq_left', checkedNext, List.mem_append, List.mem_singleton,
        reduceCtorEq, or_false]
      cases hrect : (Event.add x y w h).rect? with
      | none =>
        have hemp : (Rect.mk x.toInt y.toInt w.toInt h.toInt).isEmpty = true := by
          rw [Event.rect?] at hrect
          split at hrect
          · cases hrect
          · next hsize => exact (Bool.not_eq_false _).mp fun hfalse => hsize (Rect.isEmpty_eq_false.mp hfalse)
        rw [DamageAccumulator.checkedAdd, if_pos hemp, Option.toList_none, List.append_nil]
        exact and_congr_right fun _ => Option.some_inj
      | some r =>
        have hsolid := (Event.solid_of_rect? hrect).1
        have hrs (r) (hr : r ∈ rects events) : r.Solid := (solid_of_mem_rects hr).1
        obtain rfl : Rect.mk x.toInt y.toInt w.toInt h.toInt = r := by
          rw [Event.rect?] at hrect
          split at hrect
          · exact Option.some.inj hrect
          · cases hrect
        rw [Option.toList_some]
        constructor
        · rintro ⟨hfit, hadd⟩
          exact (checkedAdd_iff hsolid hrs hfit).mp hadd
        · rintro ⟨hfits, hd⟩
          have hfit := hfits.of_concat
          exact ⟨hfit, (checkedAdd_iff hsolid hrs hfit).mpr ⟨hfits, hd⟩⟩

theorem fits_iff {full : Prop} (hrs : ∀ r ∈ rs, r.w < 2 ^ 31 ∧ r.h < 2 ^ 31) :
    Fits rs full ↔ UnionsFit rs ∧ (full ∨ ∀ r ∈ rs, r.right < 2 ^ 31 ∧ r.bottom < 2 ^ 31) := by
  constructor
  · rintro ⟨⟨hlen, hfull⟩ | hedges, hext⟩
    · exact ⟨.inl hlen.le, .inl hfull⟩
    · exact ⟨.inr ⟨hedges, hext⟩, .inr hedges⟩
  · rintro ⟨hlen | hall, hwin⟩
    · refine ⟨?_, fun r hr r' hr' => ?_⟩
      · obtain hzero | hone : rs.length = 0 ∨ rs.length = 1 := by omega
        · rw [List.length_eq_zero_iff.mp hzero]
          exact .inr nofun
        · exact hwin.imp_left fun hfull => ⟨hone, hfull⟩
      · obtain rfl : r = r' := by
          match rs, hlen with
          | [s], _ => exact (List.mem_singleton.mp hr).trans (List.mem_singleton.mp hr').symm
        have hsize := hrs r hr
        rw [Rect.right, Rect.bottom]
        omega
    · exact ⟨.inr hall.edges, hall.extents⟩

theorem checkedTake_iff {full : Bool} {w h : Int} (hw : -2 ^ 31 ≤ w ∧ w < 2 ^ 31) (hh : -2 ^ 31 ≤ h ∧ h < 2 ^ 31)
    (hrs : ∀ r ∈ rs, r.Solid) :
    (∃ o, (DamageAccumulator.mk (Rect.hull rs) full).checkedTake w h = some o) ↔
      full = true ∨ ∀ r ∈ rs, r.right < 2 ^ 31 ∧ r.bottom < 2 ^ 31 := by
  rw [DamageAccumulator.checkedTake]
  by_cases hfull : full = true
  · rw [if_pos hfull]
    refine iff_of_true ⟨_, Rect.checkedClip_eq_some_iff.mpr ⟨?_, rfl⟩⟩ (.inl hfull)
    rw [Rect.right, Rect.bottom]
    dsimp only
    omega
  rw [if_neg hfull, or_iff_right hfull]
  cases rs with
  | nil => exact iff_of_true ⟨none, rfl⟩ nofun
  | cons r rs =>
    have hhull : Rect.IsHull _ (r :: rs) := Rect.isHull_hull rfl
    have hsolid := hhull.solid (List.mem_cons_self ..) hrs
    have hright := hhull.right (2 ^ 31 - 1)
    have hbot := hhull.bottom (2 ^ 31 - 1)
    simp only [Int.le_sub_one_iff] at hright hbot
    dsimp only [Rect.hull]
    simp only [Rect.checkedClip_eq_some_iff, exists_and_left, exists_eq', and_true]
    rw [forall₂_and, ← hright, ← hbot]
    have hwide := hsolid.wide
    have hhigh := hsolid.high
    have hleft := hsolid.left
    have htop := hsolid.top
    rw [Rect.right, Rect.bottom]
    omega

theorem contains_of_checkedTake {full : Bool} {w h x y : Int} {o : Option Rect}
    (htake : (DamageAccumulator.mk (Rect.hull rs) full).checkedTake w h = some o) (hr : r ∈ rs)
    (hhas : r.Contains x y) (hins : (0 ≤ x ∧ x < w) ∧ 0 ≤ y ∧ y < h) :
    ∃ u, o = some u ∧ u.Contains x y := by
  rw [DamageAccumulator.checkedTake] at htake
  by_cases hfull : full = true
  · rw [if_pos hfull] at htake
    refine Rect.contains_of_checkedClip htake ?_ hins
    unfold Rect.Contains
    dsimp only
    omega
  rw [if_neg hfull] at htake
  cases hb : Rect.hull rs with
  | none =>
    rw [Rect.hull_eq_none.mp hb] at hr
    cases hr
  | some b =>
    rw [hb] at htake
    exact Rect.contains_of_checkedClip htake ((Rect.isHull_hull hb).contains hr hhas) hins

/-- Damage reaches the window exactly where no edge and no distance that is computed leaves
the numbers of an `i32`. -/
theorem drainsExactly_iff (events : List Event) (w h : Int32) :
    DrainsExactly events w h ↔ Fits (rects events) (.markFull ∈ sinceTake events) := by
  have hw := And.intro w.le_toInt w.toInt_lt
  have hh := And.intro h.le_toInt h.toInt_lt
  have hsolid (r) (hr : r ∈ rects events) : r.Solid := (solid_of_mem_rects hr).1
  rw [fits_iff fun r hr => (solid_of_mem_rects hr).2]
  constructor
  · intro hdrains
    obtain ⟨d, hrun, htake⟩ := hdrains.noOverflow
    obtain ⟨hfit, rfl⟩ := (checkedRun_iff events d).mp hrun
    refine ⟨hfit, ?_⟩
    simpa using (checkedTake_iff hw hh hsolid).mp ⟨_, htake⟩
  · rintro ⟨hfit, hwin⟩
    have hrun := (checkedRun_iff events _).mpr ⟨hfit, rfl⟩
    have hend : events.foldl next .new = _ := (run_eq_sinceTake events).trans (run_of_checkedRun hrun)
    obtain ⟨o, htake⟩ := (checkedTake_iff hw hh hsolid).mpr (hwin.imp_left (decide_eq_true ·))
    have hsent := DamageAccumulator.take_of_checkedTake htake
    rw [← hend] at hrun htake hsent
    refine ⟨⟨_, hrun, htake.trans (congrArg some hsent.symm)⟩, fun r => DamageAccumulator.within_of_take, ?_, ?_⟩
    · intro r hr x y hhas hins
      rw [hend] at htake
      rw [hsent]
      exact contains_of_checkedTake htake hr hhas hins
    · intro hfull hsize
      refine DamageAccumulator.take_of_full ?_ ⟨hsize.1, hw.2⟩ ⟨hsize.2, hh.2⟩
      rw [hend]
      exact decide_eq_true hfull

/-- From the second column, a rectangle of the largest width is computed to end before it
begins, and nothing is sent. -/
theorem largest_lost : ¬DrainsExactly [.add 1 0 2147483647 5] 100 100 := by
  intro hdrains
  have hfst : (Rect.mk 1 0 2147483647 5).Contains 1 0 := by
    unfold Rect.Contains
    decide
  obtain ⟨r, htake, -⟩ := hdrains.covers ⟨1, 0, 2147483647, 5⟩ (by decide) 1 0 hfst (by decide)
  have hnothing : ([.add 1 0 2147483647 5].foldl next .new).take (100 : Int32).toInt (100 : Int32).toInt = none := by
    decide
  exact absurd (hnothing.symm.trans htake) nofun

end X11Web.DamageDrains
