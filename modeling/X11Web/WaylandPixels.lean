import Mathlib.Algebra.Group.Nat.Defs
import Mathlib.Algebra.Ring.Int.Defs
import Mathlib.Data.Int.Basic
import Mathlib.Order.Lattice

namespace X11Web.WaylandPixels

/-- A sum or difference as it lands in an `i32`. -/
def i32 (n : Int) : Int := Int.bmod n (2 ^ 32)

theorem i32_eq_self {n : Int} (hl : -2 ^ 31 ≤ n) (hr : n < 2 ^ 31) : i32 n = n := by
  rw [i32, Int.bmod_def]
  omega

structure Rect where
  x : Int
  y : Int
  w : Int
  h : Int
deriving DecidableEq

namespace Rect

def isEmpty (r : Rect) : Bool := r.w ≤ 0 || r.h ≤ 0

def union (r r' : Rect) : Rect :=
  if r.isEmpty then r'
  else if r'.isEmpty then r
  else
    let x0 := min r.x r'.x
    let y0 := min r.y r'.y
    let x1 := max (i32 (r.x + r.w)) (i32 (r'.x + r'.w))
    let y1 := max (i32 (r.y + r.h)) (i32 (r'.y + r'.h))
    ⟨x0, y0, i32 (x1 - x0), i32 (y1 - y0)⟩

/-- Clip to `0..w × 0..h`. -/
def clip (r : Rect) (w h : Int) : Option Rect :=
  let x0 := max r.x 0
  let y0 := max r.y 0
  let x1 := min (i32 (r.x + r.w)) w
  let y1 := min (i32 (r.y + r.h)) h
  if x1 ≤ x0 ∨ y1 ≤ y0 then none else some ⟨x0, y0, x1 - x0, y1 - y0⟩

def translate (r : Rect) (dx dy : Int) : Rect := ⟨i32 (r.x + dx), i32 (r.y + dy), r.w, r.h⟩

/-- A rectangle of at least one pixel, inside `0..w × 0..h`. -/
structure Within (r : Rect) (w h : Int) : Prop where
  left : 0 ≤ r.x
  top : 0 ≤ r.y
  wide : 0 < r.w
  high : 0 < r.h
  right : r.x + r.w ≤ w
  bottom : r.y + r.h ≤ h

theorem within_of_clip {r r' : Rect} {w h : Int} (hclip : r.clip w h = some r') : r'.Within w h := by
  simp only [clip] at hclip
  split at hclip
  · cases hclip
  · rename_i hsize
    obtain rfl : _ = r' := Option.some.inj hclip
    constructor <;> dsimp only <;> omega

end Rect

/-- The damage of a window or a surface: a bounding box, or all of it. -/
structure DamageAccumulator where
  bbox : Option Rect
  full : Bool
deriving DecidableEq

namespace DamageAccumulator

def new : DamageAccumulator := ⟨none, false⟩

def add (d : DamageAccumulator) (r : Rect) : DamageAccumulator :=
  if r.isEmpty then d
  else { d with bbox := some (match d.bbox with | some b => b.union r | none => r) }

def markFull (d : DamageAccumulator) : DamageAccumulator := { d with full := true }

def isDirty (d : DamageAccumulator) : Bool := d.full || d.bbox.isSome

/-- What is to be sent of a `w × h` window. Afterwards the damage is as `new`. -/
def take (d : DamageAccumulator) (w h : Int) : Option Rect :=
  if d.full then (Rect.mk 0 0 w h).clip w h else d.bbox.bind fun r => r.clip w h

theorem within_of_take {d : DamageAccumulator} {w h : Int} {r : Rect} (htake : d.take w h = some r) :
    r.Within w h := by
  rw [take] at htake
  split at htake
  · exact Rect.within_of_clip htake
  · obtain ⟨b, -, hclip⟩ := Option.bind_eq_some_iff.mp htake
    exact Rect.within_of_clip hclip

end DamageAccumulator

structure Pixel where
  r : UInt8
  g : UInt8
  b : UInt8
  a : UInt8
deriving DecidableEq

def opaqueBlack : Pixel := ⟨0, 0, 0, 255⟩

abbrev Image := Int → Int → Pixel

/-- One channel of a source with alpha `a` over a destination, rounded to the nearest. -/
def blendChannel (a s d : UInt8) : UInt8 :=
  UInt8.ofNat (min (s.toNat + (d.toNat * (255 - a.toNat) + 127) / 255) 255)

def Pixel.blend (s d : Pixel) : Pixel :=
  if s.a = 255 then s
  else if s.a = 0 then d
  else ⟨blendChannel s.a s.r d.r, blendChannel s.a s.g d.g, blendChannel s.a s.b d.b, blendChannel s.a s.a d.a⟩

def Overlaps (dstW dstH srcW srcH x y dx dy : Int) : Prop :=
  (0 < dstW ∧ 0 < dstH ∧ 0 < srcW ∧ 0 < srcH) ∧
    (max x 0 ≤ dx ∧ dx < min (i32 (x + srcW)) dstW) ∧ max y 0 ≤ dy ∧ dy < min (i32 (y + srcH)) dstH

instance (dstW dstH srcW srcH x y dx dy : Int) : Decidable (Overlaps dstW dstH srcW srcH x y dx dy) :=
  inferInstanceAs (Decidable ((_ ∧ _ ∧ _ ∧ _) ∧ (_ ∧ _) ∧ _ ∧ _))

/-- The two blits, which differ in what they make of a source and a destination pixel. -/
def blit (f : Pixel → Pixel → Pixel) (dst : Image) (dstW dstH : Int) (src : Image) (srcW srcH x y : Int) :
    Image := fun dx dy =>
  if Overlaps dstW dstH srcW srcH x y dx dy then f (src (dx - x) (dy - y)) (dst dx dy) else dst dx dy

def blitCopy : Image → Int → Int → Image → Int → Int → Int → Int → Image := blit fun s _ => s

def blitOver : Image → Int → Int → Image → Int → Int → Int → Int → Image := blit Pixel.blend

def cropRgba (fb : Image) (rect : Rect) : Image := fun dx dy => fb (rect.x + dx) (rect.y + dy)

def Pixel.forceOpaque (p : Pixel) : Pixel := { p with a := 255 }

def forceOpaque (rgba : Image) : Image := fun x y => (rgba x y).forceOpaque

end X11Web.WaylandPixels
