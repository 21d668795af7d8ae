import X11Web.Dashes
import X11Web.Pixels
import X11Web.Slopes

namespace X11Web.Bresenham

open Windows Pixels Dashes List

structure Segment where
  x0 : Int32
  y0 : Int32
  x1 : Int32
  y1 : Int32
deriving DecidableEq

def Segment.dx (l : Segment) : Int32 := (l.x1 - l.x0).abs
def Segment.dy (l : Segment) : Int32 := -(l.y1 - l.y0).abs
def Segment.sx (l : Segment) : Int32 := if l.x0 < l.x1 then 1 else -1
def Segment.sy (l : Segment) : Int32 := if l.y0 < l.y1 then 1 else -1

structure LineCursor where
  x : Int32
  y : Int32
  err : Int32
deriving DecidableEq

def LineCursor.start (l : Segment) : LineCursor := ⟨l.x0, l.y0, l.dx + l.dy⟩

def LineCursor.next (l : Segment) (c : LineCursor) : LineCursor :=
  let e2 := 2 * c.err
  let c := if l.dy ≤ e2 then { c with err := c.err + l.dy, x := c.x + l.sx } else c
  if e2 ≤ l.dx then { c with err := c.err + l.dx, y := c.y + l.sy } else c

abbrev Point := Int32 × Int32

def LineCursor.point (c : LineCursor) : Point := (c.x, c.y)

/-- The loop over the points of a line. `plot` is given whether the point is the first
one; the loop ends at the endpoint only, and takes fuel. -/
def walkLine {σ : Type} (plot : Bool → Point → σ → Option σ) (l : Segment) :
    Nat → Bool → LineCursor → σ → Option σ
  | 0, _, _, _ => none
  | fuel + 1, isFirst, c, st =>
    (plot isFirst c.point st).bind fun st =>
      if c.point = (l.x1, l.y1) then some st else walkLine plot l fuel false (c.next l) st

namespace CapStyle

def notLast : UInt8 := 0

end CapStyle

namespace LineStyle

def doubleDash : UInt8 := 2

end LineStyle

structure LineGc where
  color : UInt32
  gcFunc : UInt8
  planeMask : UInt32
  capStyle : UInt8
  lineStyle : UInt8
  background : UInt32
  clipRects : List ClipRect

def skipsLast (l : Segment) (capStyle : UInt8) (isFirst : Bool) (p : Point) : Bool :=
  capStyle == CapStyle.notLast && p == (l.x1, l.y1) && !isFirst

def linePoint (l : Segment) (gc : LineGc) (isFirst : Bool) (p : Point) :
    Framebuffer × Option DashState → Option (Framebuffer × Option DashState)
  | (fb, dashes) =>
    let drawn := fun drawFg : Bool =>
      if skipsLast l gc.capStyle isFirst p then fb
      else if drawFg then fb.drawPointGc p.1 p.2 gc.color gc.gcFunc gc.planeMask gc.clipRects
      else if gc.lineStyle = LineStyle.doubleDash then
        fb.drawPointGc p.1 p.2 gc.background gc.gcFunc gc.planeMask gc.clipRects
      else fb
    match dashes with
    | none => some (drawn true, none)
    | some ds => ds.advance.map fun ds' => (drawn ds.on, some ds')

def bresenhamLineGc (fuel : Nat) (l : Segment) (gc : LineGc) (dashes : Option DashState) (fb : Framebuffer) :
    Option Framebuffer :=
  (walkLine (linePoint l gc) l fuel true (.start l) (fb, dashes)).map (·.1)

/-- A tile's pixels, in a pixmap of the sizes of CreatePixmap. -/
structure Tile where
  data : Bytes
  width : UInt16
  height : UInt16
  tsX : Int16
  tsY : Int16

def Tile.Empty (tile : Tile) : Prop := tile.width.toNat = 0 ∨ tile.height.toNat = 0 ∨ tile.data = []

instance decidableEmpty (tile : Tile) : Decidable tile.Empty := inferInstanceAs (Decidable (_ ∨ _))

def tileIndex (v : Int32) (origin : Int16) (size : UInt16) : Nat :=
  ((v.toInt - origin.toInt).tmod size.toNat + size.toNat).toNat % size.toNat

def tiledPoint (l : Segment) (tile : Tile) (gcFunc : UInt8) (planeMask : UInt32) (capStyle : UInt8)
    (clipRects : List ClipRect) (isFirst : Bool) (p : Point) (fb : Framebuffer) : Option Framebuffer :=
  if skipsLast l capStyle isFirst p then some fb
  else
    let off := tileIndex p.2 tile.tsY tile.height * (tile.width.toNat * 4) + tileIndex p.1 tile.tsX tile.width * 4
    if off + 3 < tile.data.length then
      some (fb.drawPointGc p.1 p.2 (readPixel tile.data off) gcFunc planeMask clipRects)
    else some fb

/-- The line in the colours of a tile, where tiny-skia's stroke does not apply. -/
def drawLineTiled (fuel : Nat) (l : Segment) (tile : Tile) (gcFunc : UInt8) (planeMask : UInt32) (capStyle : UInt8)
    (clipRects : List ClipRect) (fb : Framebuffer) : Option Framebuffer :=
  if tile.Empty then some fb
  else walkLine (tiledPoint l tile gcFunc planeMask capStyle clipRects) l fuel true (.start l) fb

def plotAll {σ : Type} (plot : Bool → Point → σ → Option σ) : Bool → List Point → σ → Option σ
  | _, [], st => some st
  | isFirst, p :: points, st => (plot isFirst p st).bind (plotAll plot false points)

def Segment.width (l : Segment) : Int := l.x1.toInt - l.x0.toInt
def Segment.height (l : Segment) : Int := l.y1.toInt - l.y0.toInt

def Segment.rounds (l : Segment) : Nat := max l.width.natAbs l.height.natAbs

/-- The points lead from one endpoint to the other, each next to the one before, with one
for each step along the longer side and none more than half a step off the line. -/
structure Traces (l : Segment) (points : List Point) : Prop where
  length : points.length = l.rounds + 1
  first : points.head? = some (l.x0, l.y0)
  last : points.getLast? = some (l.x1, l.y1)
  steps : points.IsChain (fun p q => |q.1.toInt - p.1.toInt| ≤ 1 ∧ |q.2.toInt - p.2.toInt| ≤ 1)
  near : ∀ p ∈ points,
    2 * |(p.1.toInt - l.x0.toInt) * l.height - (p.2.toInt - l.y0.toInt) * l.width| ≤ l.rounds

/-- The coordinates are sums of two 16-bit ones. -/
def Segment.InRange (l : Segment) : Prop :=
  ∀ v ∈ [l.x0, l.y0, l.x1, l.y1], -65536 ≤ v.toInt ∧ v.toInt ≤ 65534

instance (l : Segment) : Decidable l.InRange := List.decidableBAll _ _

variable {l : Segment} {c : LineCursor} {s : Slopes.Cursor} {n : Nat} {a b : Int32}

theorem toInt_i32_add (hlow : -2 ^ 31 ≤ a.toInt + b.toInt) (hhigh : a.toInt + b.toInt < 2 ^ 31) :
    (a + b).toInt = a.toInt + b.toInt := by
  rw [Int32.toInt_add, Int.bmod_eq_of_le (by omega) (by omega)]

theorem toInt_i32_sub (hlow : -2 ^ 31 ≤ a.toInt - b.toInt) (hhigh : a.toInt - b.toInt < 2 ^ 31) :
    (a - b).toInt = a.toInt - b.toInt := by
  rw [Int32.toInt_sub, Int.bmod_eq_of_le (by omega) (by omega)]

theorem toInt_i32_abs {a : Int32} (h : -2 ^ 31 < a.toInt) : a.abs.toInt = |a.toInt| := by
  have hne : a.toBitVec ≠ BitVec.intMin 32 := by
    intro heq
    have hmin : a.toInt = (BitVec.intMin 32).toInt := congrArg BitVec.toInt heq
    rw [BitVec.toInt_intMin] at hmin
    omega
  have habs : a.abs.toInt = (a.toBitVec.toInt.natAbs : Int) := BitVec.toInt_abs_eq_natAbs_of_ne_intMin hne
  rw [habs, Int.natCast_natAbs]
  rfl

/-- The side of a box from one place to another, and the unit in which it is walked. -/
structure Side (a b unit : Int32) (size : Int) : Prop where
  unit_eq : unit.toInt = 1 ∨ unit.toInt = -1
  size_eq : b.toInt - a.toInt = unit.toInt * size
  bound : 0 ≤ size ∧ size ≤ 131072
  origin : -65536 ≤ a.toInt ∧ a.toInt ≤ 65536

theorem side_of (ha : -65536 ≤ a.toInt ∧ a.toInt ≤ 65534) (hb : -65536 ≤ b.toInt ∧ b.toInt ≤ 65534) :
    Side a b (if a < b then 1 else -1) |b.toInt - a.toInt| := by
  by_cases h : a < b
  · rw [if_pos h]
    rw [Int32.lt_iff_toInt_lt] at h
    rw [abs_of_pos (by omega)]
    exact ⟨.inl rfl, by rw [show (1 : Int32).toInt = 1 from rfl]; omega, by omega, by omega⟩
  · rw [if_neg h]
    rw [Int32.lt_iff_toInt_lt] at h
    rw [abs_of_nonpos (by omega)]
    exact ⟨.inr rfl, by rw [show (-1 : Int32).toInt = -1 from rfl]; omega, by omega, by omega⟩

theorem toInt_side (ha : -65536 ≤ a.toInt ∧ a.toInt ≤ 65534) (hb : -65536 ≤ b.toInt ∧ b.toInt ≤ 65534) :
    (b - a).abs.toInt = |b.toInt - a.toInt| := by
  have hsub := toInt_i32_sub (a := b) (b := a) (by omega) (by omega)
  rw [toInt_i32_abs (by omega), hsub]

/-- The loop's variables are those of a cursor on the box of the line. -/
structure Simulates (l : Segment) (c : LineCursor) (s : Slopes.Cursor) : Prop where
  x : c.x.toInt = l.x0.toInt + l.sx.toInt * s.a
  y : c.y.toInt = l.y0.toInt + l.sy.toInt * s.b
  err : c.err.toInt = s.err

structure Boxed (l : Segment) (D E : Int) : Prop where
  across : Side l.x0 l.x1 l.sx D
  down : Side l.y0 l.y1 l.sy E
  dx : l.dx.toInt = D
  dy : l.dy.toInt = -E

theorem boxed (hl : l.InRange) : Boxed l |l.width| |l.height| := by
  have hx0 := hl l.x0 (by simp)
  have hy0 := hl l.y0 (by simp)
  have hx1 := hl l.x1 (by simp)
  have hy1 := hl l.y1 (by simp)
  have hdown := side_of hy0 hy1
  refine ⟨side_of hx0 hx1, hdown, toInt_side hx0 hx1, ?_⟩
  have hbound := hdown.bound
  rw [Segment.dy, Int32.toInt_neg, toInt_side hy0 hy1, Int.bmod_eq_of_le (by omega) (by omega)]
  rfl

theorem Side.next {a b unit v : Int32} {size k : Int} (h : Side a b unit size) (hk : 0 ≤ k ∧ k ≤ 131072)
    (hv : v.toInt = a.toInt + unit.toInt * k) : (v + unit).toInt = a.toInt + unit.toInt * (k + 1) := by
  have horig := h.origin
  rcases h.unit_eq with hunit | hunit
  · rw [hunit] at hv ⊢
    rw [toInt_i32_add (by omega) (by omega), hunit]
    omega
  · rw [hunit] at hv ⊢
    rw [toInt_i32_add (by omega) (by omega), hunit]
    omega

theorem Simulates.next {D E : Int} (hbox : Boxed l D E) (h : Simulates l c s) (hs : Slopes.Follows D E n s)
    (hn : (n : Int) < max D E) : Simulates l (c.next l) (s.next D E) := by
  obtain ⟨P, Q, -, -, herr, hleft, hright⟩ := hs.distances
  obtain ⟨ha, hb⟩ := hs.range
  have hD := hbox.across.bound
  have hE := hbox.down.bound
  have hmax : max D E ≤ 131072 := max_le hD.2 hE.2
  have hx := hbox.across.next (show 0 ≤ s.a ∧ s.a ≤ 131072 by omega) h.x
  have hy := hbox.down.next (show 0 ≤ s.b ∧ s.b ≤ 131072 by omega) h.y
  have herr' := h.err
  have htwo : (2 * c.err).toInt = 2 * s.err := by
    rw [Int32.toInt_mul, show (2 : Int32).toInt = 2 from rfl, herr', Int.bmod_eq_of_le (by omega) (by omega)]
  have hdy := hbox.dy
  have hdx := hbox.dx
  have hacross : l.dy ≤ 2 * c.err ↔ -E ≤ 2 * s.err := by rw [Int32.le_iff_toInt_le, htwo, hdy]
  have hdown : 2 * c.err ≤ l.dx ↔ 2 * s.err ≤ D := by rw [Int32.le_iff_toInt_le, htwo, hdx]
  have hless : (c.err + l.dy).toInt = s.err - E := by
    rw [toInt_i32_add (by omega) (by omega), herr', hdy]
    rfl
  have hmore : (c.err + l.dx).toInt = s.err + D := by
    rw [toInt_i32_add (by omega) (by omega), herr', hdx]
  have hboth : (c.err + l.dy + l.dx).toInt = s.err - E + D := by
    rw [toInt_i32_add (by omega) (by omega), hless, hdx]
  rw [LineCursor.next, Slopes.Cursor.next]
  simp only [hacross, hdown]
  by_cases h₁ : -E ≤ 2 * s.err <;> by_cases h₂ : 2 * s.err ≤ D
  · simp only [h₁, h₂, if_true]
    exact ⟨hx, hy, hboth⟩
  · simp only [h₁, h₂, if_true, if_false]
    exact ⟨hx, h.y, hless.trans (Int.add_zero _).symm⟩
  · simp only [h₁, h₂, if_true, if_false]
    exact ⟨h.x, hy, by rw [hmore, Int.add_zero]⟩
  · simp only [h₁, h₂, if_false]
    exact ⟨h.x, h.y, by rw [herr', Int.add_zero, Int.add_zero]⟩

def LineCursor.after (l : Segment) (n : Nat) : LineCursor := (LineCursor.next l)^[n] (.start l)

theorem after_succ (l : Segment) (n : Nat) : LineCursor.after l (n + 1) = (LineCursor.after l n).next l :=
  Function.iterate_succ_apply' _ _ _

theorem rounds_eq (l : Segment) : (l.rounds : Int) = max |l.width| |l.height| := by
  rw [Segment.rounds, Nat.cast_max, Int.natCast_natAbs, Int.natCast_natAbs]

theorem after_follows (hl : l.InRange) (hn : n ≤ l.rounds) :
    ∃ s, Simulates l (.after l n) s ∧ Slopes.Follows |l.width| |l.height| n s := by
  have hbox := boxed hl
  induction n with
  | zero =>
    refine ⟨Slopes.Cursor.start |l.width| |l.height|, ⟨?_, ?_, ?_⟩, Slopes.start_follows (abs_nonneg _)⟩
    · exact (Int.add_zero _).symm.trans (congrArg _ (Int.mul_zero _).symm)
    · exact (Int.add_zero _).symm.trans (congrArg _ (Int.mul_zero _).symm)
    · have hD := hbox.across.bound
      have hE := hbox.down.bound
      have hdx := hbox.dx
      have hdy := hbox.dy
      change (l.dx + l.dy).toInt = _
      rw [toInt_i32_add (by omega) (by omega), hdx, hdy]
      rfl
  | succ n ih =>
    obtain ⟨s, hsim, hfols⟩ := ih (Nat.le_of_succ_le hn)
    have hless : (n : Int) < max |l.width| |l.height| := by
      rw [← rounds_eq]
      omega
    rw [after_succ]
    exact ⟨_, hsim.next hbox hfols hless, hfols.next (abs_nonneg _) (abs_nonneg _)⟩

theorem after_point_iff (hl : l.InRange) (hn : n ≤ l.rounds) :
    (LineCursor.after l n).point = (l.x1, l.y1) ↔ n = l.rounds := by
  obtain ⟨s, hsim, hfols⟩ := after_follows hl hn
  have hbox := boxed hl
  have hcor := hfols.arrived_iff (abs_nonneg _) (abs_nonneg _)
  rw [← rounds_eq, Nat.cast_inj] at hcor
  have hx : (LineCursor.after l n).x = l.x1 ↔ s.a = |l.width| := by
    have hsize := hbox.across.size_eq
    rw [← Int32.toInt_inj, hsim.x]
    rcases hbox.across.unit_eq with hunit | hunit
    · rw [hunit] at hsize ⊢
      omega
    · rw [hunit] at hsize ⊢
      omega
  have hy : (LineCursor.after l n).y = l.y1 ↔ s.b = |l.height| := by
    have hsize := hbox.down.size_eq
    rw [← Int32.toInt_inj, hsim.y]
    rcases hbox.down.unit_eq with hunit | hunit
    · rw [hunit] at hsize ⊢
      omega
    · rw [hunit] at hsize ⊢
      omega
  rw [LineCursor.point, Prod.mk.injEq, hx, hy]
  exact hcor

def visited (l : Segment) : List Point := (List.range (l.rounds + 1)).map (fun n => (LineCursor.after l n).point)

theorem unit_mul_le {u k : Int} (hu : u = 1 ∨ u = -1) (hk : 0 ≤ k ∧ k ≤ 1) : |u * k| ≤ 1 := by
  rcases hu with rfl | rfl
  · rw [Int.one_mul, abs_of_nonneg hk.1]
    exact hk.2
  · rw [Int.neg_one_mul, abs_neg, abs_of_nonneg hk.1]
    exact hk.2

theorem after_near (hl : l.InRange) (hn : n ≤ l.rounds) :
    2 * |((LineCursor.after l n).x.toInt - l.x0.toInt) * l.height -
      ((LineCursor.after l n).y.toInt - l.y0.toInt) * l.width| ≤ l.rounds := by
  obtain ⟨s, hsim, hfols⟩ := after_follows hl hn
  have hbox := boxed hl
  have hwd : l.width = l.sx.toInt * |l.width| := hbox.across.size_eq
  have hht : l.height = l.sy.toInt * |l.height| := hbox.down.size_eq
  have hoff : ((LineCursor.after l n).x.toInt - l.x0.toInt) * l.height -
      ((LineCursor.after l n).y.toInt - l.y0.toInt) * l.width =
      l.sx.toInt * l.sy.toInt * (s.a * |l.height| - s.b * |l.width|) := by
    rw [hsim.x, hsim.y]
    generalize |l.height| = E at hht ⊢
    generalize |l.width| = D at hwd ⊢
    rw [hht, hwd]
    ring
  have hunit : |l.sx.toInt * l.sy.toInt| = 1 := by
    rcases hbox.across.unit_eq with hu | hu <;> rcases hbox.down.unit_eq with hv | hv <;> rw [hu, hv] <;> rfl
  rw [hoff, abs_mul, hunit, Int.one_mul, rounds_eq]
  exact hfols.near

theorem after_steps (hl : l.InRange) (hn : n < l.rounds) :
    |(LineCursor.after l (n + 1)).x.toInt - (LineCursor.after l n).x.toInt| ≤ 1 ∧
      |(LineCursor.after l (n + 1)).y.toInt - (LineCursor.after l n).y.toInt| ≤ 1 := by
  obtain ⟨s, hsim, hfols⟩ := after_follows hl hn.le
  have hbox := boxed hl
  have hless : (n : Int) < max |l.width| |l.height| := by
    rw [← rounds_eq]
    omega
  have hnext := hsim.next hbox hfols hless
  obtain ⟨ha, hb⟩ := Slopes.next_steps |l.width| |l.height| s
  rw [after_succ, hnext.x, hnext.y, hsim.x, hsim.y, add_sub_add_left_eq_sub, add_sub_add_left_eq_sub, ← Int.mul_sub,
    ← Int.mul_sub]
  exact ⟨unit_mul_le hbox.across.unit_eq (by omega), unit_mul_le hbox.down.unit_eq (by omega)⟩

theorem visited_traces (hl : l.InRange) : Traces l (visited l) := by
  refine ⟨?_, ?_, ?_, ?_, ?_⟩
  · rw [visited, length_map, length_range]
  · rw [visited, range_succ_eq_map]
    rfl
  · rw [visited, range_succ, map_append, map_singleton, List.getLast?_concat]
    exact congrArg some ((after_point_iff hl le_rfl).mpr rfl)
  · rw [visited, isChain_map, isChain_range]
    intro n hn
    exact after_steps hl (by omega)
  · intro p hp
    obtain ⟨n, hn, rfl⟩ := mem_map.mp hp
    exact after_near hl (Nat.lt_succ_iff.mp (mem_range.mp hn))

theorem walkLine_from {σ : Type} (plot : Bool → Point → σ → Option σ) (hl : l.InRange) (n k : Nat)
    (hk : n + k = l.rounds) {fuel : Nat} (hfuel : k < fuel) (isFirst : Bool) (st : σ) :
    walkLine plot l fuel isFirst (.after l n) st =
      plotAll plot isFirst ((List.range' n (k + 1)).map (fun n => (LineCursor.after l n).point)) st := by
  induction k generalizing n fuel isFirst st with
  | zero =>
    cases fuel with
    | zero => omega
    | succ fuel =>
      have hend := (after_point_iff hl (show n ≤ l.rounds by omega)).mpr (by omega)
      rw [walkLine, range'_one, map_singleton, plotAll]
      simp only [hend, if_true]
      rfl
  | succ k ih =>
    cases fuel with
    | zero => omega
    | succ fuel =>
      have hmore : ¬ (LineCursor.after l n).point = (l.x1, l.y1) := fun hend =>
        absurd ((after_point_iff hl (by omega)).mp hend) (by omega)
      rw [walkLine, range'_succ, map_cons, plotAll]
      refine Option.bind_congr fun st' _ => ?_
      rw [if_neg hmore, ← after_succ, ih (n + 1) (by omega) (by omega)]

theorem walkLine_eq {σ : Type} (plot : Bool → Point → σ → Option σ) (hl : l.InRange) {fuel : Nat}
    (hfuel : l.rounds < fuel) (st : σ) :
    walkLine plot l fuel true (.start l) st = plotAll plot true (visited l) st := by
  rw [visited, range_eq_range']
  exact walkLine_from plot hl 0 l.rounds (Nat.zero_add _) hfuel true st

/-- The dashes are somewhere in a pattern that SetDashes takes. -/
def Dashing (dashes : Option DashState) : Prop :=
  ∀ d ∈ dashes, ∃ pattern r p, Admitted pattern ∧ StandsAt pattern d r p

variable {dashes : Option DashState}

theorem linePoint_dashing (l : Segment) (gc : LineGc) (isFirst : Bool) (p : Point) (fb : Framebuffer)
    (h : Dashing dashes) :
    ∃ fb' dashes', linePoint l gc isFirst p (fb, dashes) = some (fb', dashes') ∧ Dashing dashes' := by
  cases dashes with
  | none => exact ⟨_, none, rfl, h⟩
  | some d =>
    obtain ⟨pattern, r, q, hpat, hd⟩ := h d rfl
    obtain ⟨d', r', hadv, hd'⟩ := hd.advance hpat
    rw [linePoint]
    simp only [hadv, Option.map_some]
    refine ⟨_, _, rfl, ?_⟩
    rintro e he
    obtain rfl := Option.some.inj he
    exact ⟨pattern, r', q + 1, hpat, hd'⟩

theorem plotAll_linePoint (l : Segment) (gc : LineGc) (isFirst : Bool) (points : List Point) (fb : Framebuffer)
    (h : Dashing dashes) :
    ∃ fb' dashes', plotAll (linePoint l gc) isFirst points (fb, dashes) = some (fb', dashes') := by
  induction points generalizing isFirst fb dashes with
  | nil => exact ⟨fb, dashes, rfl⟩
  | cons p points ih =>
    obtain ⟨fb₁, dashes₁, hpt, h₁⟩ := linePoint_dashing l gc isFirst p fb h
    rw [plotAll, hpt]
    exact ih false fb₁ h₁

/-- The dashes that a line is begun with, if any: a list that SetDashes takes, at an offset. -/
def BeginsDashes (dashes : Option DashState) : Prop :=
  ∀ d ∈ dashes, ∃ pattern, ∃ offset : UInt16, Admitted pattern ∧
    DashState.new (offset.toNat + 1) pattern offset = some d

theorem BeginsDashes.dashing (h : BeginsDashes dashes) : Dashing dashes := by
  intro d hd
  obtain ⟨pattern, offset, hpat, hnew⟩ := h d hd
  obtain ⟨d', r, hnew', hstands⟩ := new_standsAt hpat offset (Nat.lt_succ_self _)
  obtain rfl := Option.some.inj (hnew.symm.trans hnew')
  exact ⟨pattern, r, _, hpat, hstands⟩

theorem plotAll_tiledPoint (l : Segment) (tile : Tile) (gcFunc : UInt8) (planeMask : UInt32) (capStyle : UInt8)
    (clipRects : List ClipRect) (isFirst : Bool) (points : List Point) (fb : Framebuffer) :
    ∃ fb', plotAll (tiledPoint l tile gcFunc planeMask capStyle clipRects) isFirst points fb = some fb' := by
  induction points generalizing isFirst fb with
  | nil => exact ⟨fb, rfl⟩
  | cons p points ih =>
    rw [plotAll, tiledPoint]
    split
    · exact ih false fb
    · dsimp only
      split
      · exact ih false _
      · exact ih false fb

/-- There are points that trace a line, and the walk along it plots these whatever it draws
with: a GC with or without dashes, or a tile. -/
theorem bresenhamLineGc_traces (hl : l.InRange) {fuel : Nat} (hfuel : l.rounds < fuel) :
    ∃ points, Traces l points ∧
      (∀ {σ : Type} (plot : Bool → Point → σ → Option σ) (st : σ),
        walkLine plot l fuel true (.start l) st = plotAll plot true points st) ∧
      (∀ (gc : LineGc) (dashes : Option DashState), BeginsDashes dashes → ∀ fb,
        ∃ fb' dashes', bresenhamLineGc fuel l gc dashes fb = some fb' ∧
          plotAll (linePoint l gc) true points (fb, dashes) = some (fb', dashes')) ∧
      ∀ tile gcFunc planeMask capStyle clipRects fb,
        ∃ fb', drawLineTiled fuel l tile gcFunc planeMask capStyle clipRects fb = some fb' ∧
          (tile.Empty ∧ fb' = fb ∨
            plotAll (tiledPoint l tile gcFunc planeMask capStyle clipRects) true points fb = some fb') := by
  have hwalk {σ : Type} (plot : Bool → Point → σ → Option σ) (st : σ) := walkLine_eq plot hl hfuel st
  refine ⟨visited l, visited_traces hl, hwalk, fun gc dashes hdashes fb => ?_,
    fun tile gcFunc planeMask capStyle clipRects fb => ?_⟩
  · obtain ⟨fb', dashes', hplot⟩ := plotAll_linePoint l gc true (visited l) fb hdashes.dashing
    refine ⟨fb', dashes', ?_, hplot⟩
    rw [bresenhamLineGc, hwalk, hplot]
    rfl
  · rw [drawLineTiled]
    split
    · next hemp => exact ⟨fb, rfl, .inl ⟨hemp, rfl⟩⟩
    · obtain ⟨fb', hplot⟩ := plotAll_tiledPoint l tile gcFunc planeMask capStyle clipRects true (visited l) fb
      exact ⟨fb', (hwalk _ fb).trans hplot, .inr hplot⟩

/-- A line of three steps across and one down, begun in the middle of a dash. -/
theorem bresenhamLineGc_traces_short :
    ∃ points fb' dashes', Traces ⟨0, 0, 3, 1⟩ points ∧
      bresenhamLineGc 4 ⟨0, 0, 3, 1⟩ ⟨0xFF0000, 6, 0xFFFFFFFF, 1, 1, 0, []⟩ (some ⟨[2, 1], 0, 1, true⟩)
        (Framebuffer.new 4 2) = some fb' ∧
      plotAll (linePoint ⟨0, 0, 3, 1⟩ ⟨0xFF0000, 6, 0xFFFFFFFF, 1, 1, 0, []⟩) true points
        (Framebuffer.new 4 2, some ⟨[2, 1], 0, 1, true⟩) = some (fb', dashes') := by
  have hbegins : BeginsDashes (some ⟨[2, 1], 0, 1, true⟩) := by
    intro d hd
    exact ⟨[2, 1], 1, by decide, by rw [← Option.mem_def.mp hd]; decide⟩
  obtain ⟨points, htraces, -, hplots, -⟩ := @bresenhamLineGc_traces ⟨0, 0, 3, 1⟩ (by decide) 4 (by decide)
  obtain ⟨fb', dashes', hrun, hplot⟩ := hplots ⟨0xFF0000, 6, 0xFFFFFFFF, 1, 1, 0, []⟩ _ hbegins (Framebuffer.new 4 2)
  exact ⟨points, fb', dashes', htraces, hrun, hplot⟩

end X11Web.Bresenham
