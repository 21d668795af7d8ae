import X11Web.CopyRequests
import X11Web.Regions

namespace X11Web.Presenting

open HashMaps Windows Overwrites Pixels Compositing Drawables
open CopyRequests (checkI16)
open Regions (RegionRect XFixesRegion)

/-- The drawables, the regions of the XFIXES extension, and the damage that was
notified. -/
structure PresentState extends DrawableStore where
  regions : HashMap XId XFixesRegion
  damaged : List (XId × RegionRect)

structure PresentPixmapRequest where
  window : XId
  pixmap : XId
  valid : XId
  update : XId
  xOff : Int16
  yOff : Int16

def PresentPixmapRequest.regionId (req : PresentPixmapRequest) : XId :=
  if req.update ≠ 0 then req.update else req.valid

def regionRects (regions : HashMap XId XFixesRegion) (req : PresentPixmapRequest) : Option (List RegionRect) :=
  if req.regionId ≠ 0 then
    (regions.lookup req.regionId).bind fun region =>
      if region.rects = [] then none
      else
        let v := region.rects.filter fun r => 0 < r.width ∧ 0 < r.height
        if v = [] then none else some v
  else none

structure SourceImage where
  width : UInt16
  height : UInt16
  data : Bytes
  depth : UInt8

def sourceImage (ds : DrawableStore) (pixmap : XId) : Option SourceImage :=
  let resolved := resolveDrawable ds pixmap
  ((ds.windows.lookup resolved).map fun win =>
      ⟨.ofNat win.framebuffer.width, .ofNat win.framebuffer.height, win.framebuffer.data, 24⟩).or
    ((ds.pixmaps.lookup resolved).map fun pix =>
      ⟨.ofNat pix.framebuffer.width, .ofNat pix.framebuffer.height, pix.framebuffer.data, pix.depth⟩)

def bitColor (b g r : UInt8) : Bytes :=
  let val := if b ≠ 0 ∨ g ≠ 0 ∨ r ≠ 0 then 0xFF else 0
  [val, val, val, 0xFF]

/-- The loop that turns the pixels of one bit into colours. -/
def expandBits (data : Bytes) : Bytes :=
  (List.range ((data.length + 3) / 4)).foldl (fun data (n : Nat) =>
    let i := n * 4
    if i + 3 < data.length then
      overwrite data i (bitColor (data.getD i 0) (data.getD (i + 1) 0) (data.getD (i + 2) 0))
    else data) data

def SourceImage.converted (src : SourceImage) : SourceImage :=
  if src.depth ≤ 1 then { src with data := expandBits src.data } else src

/-- Move the corner of a rectangle into the source, and cut its size. -/
def clampRect (srcW srcH : UInt16) (r : RegionRect) : RegionRect :=
  let cx := max r.x 0
  let cy := max r.y 0
  ⟨cx, cy, min r.width (.ofNat (srcW.toNat - asU16 cx.toInt)), min r.height (.ofNat (srcH.toNat - asU16 cy.toInt))⟩

def copyRects (srcW srcH : UInt16) : Option (List RegionRect) → List RegionRect
  | none => [⟨0, 0, srcW, srcH⟩]
  | some rects =>
    if 1 < rects.length then
      (rects.map (clampRect srcW srcH)).filter fun r => 0 < r.width ∧ 0 < r.height
    else rects.map (clampRect srcW srcH)

/-- Climb from a window towards the root, at most as many steps, and add up the
positions. -/
def topLevelFrom (ws : PaintedWindows) : Nat → XId → Int → Int → XId × Int × Int
  | 0, wid, tx, ty => (wid, tx, ty)
  | steps + 1, wid, tx, ty =>
    match ws.lookup wid with
    | none => (wid, tx, ty)
    | some win =>
      if win.parent ≠ rootWindow ∧ win.parent ≠ 0 then topLevelFrom ws steps win.parent (tx + win.x) (ty + win.y)
      else (wid, tx, ty)

def topLevel (ws : PaintedWindows) (window : XId) : XId × Int × Int := topLevelFrom ws 10 window 0 0

/-- The part of the source in a rectangle, as an image of its own. -/
def subImage (src : SourceImage) (r : RegionRect) : Bytes :=
  let srcStride := src.width.toNat * 4
  let dstStride := r.width.toNat * 4
  let rows := (List.range r.height.toNat).takeWhile fun row => asUsize r.y.toInt + row < src.height.toNat
  rows.foldl (fun sub (row : Nat) =>
    let sStart := (asUsize r.y.toInt + row) * srcStride + asUsize r.x.toInt * 4
    if sStart + dstStride ≤ src.data.length then
      overwrite sub (row * dstStride) (slice src.data sStart dstStride)
    else sub) (List.replicate (dstStride * r.height.toNat) 0)

structure Placement where
  x : Int16
  y : Int16
  width : UInt16
  height : UInt16
  data : Bytes

/-- The image of one rectangle, unless its place overflows. -/
def place (req : PresentPixmapRequest) (src : SourceImage) (r : RegionRect) : Option Placement :=
  if r.x ≠ 0 ∨ r.y ≠ 0 ∨ r.width ≠ src.width ∨ r.height ≠ src.height then
    (checkI16 (req.xOff.toInt + r.x.toInt)).bind fun x =>
      (checkI16 (req.yOff.toInt + r.y.toInt)).map fun y =>
        ⟨.ofInt x, .ofInt y, r.width, r.height, subImage src r⟩
  else some ⟨req.xOff, req.yOff, src.width, src.height, src.data⟩

/-- The negation of the column overflows in a round of the loop of `put_image`. -/
def negationOverflows (fbHeight : Nat) (x y : Int16) (p : Placement) : Prop :=
  x.toInt = -2 ^ 15 ∧ ¬ (p.width.toNat = 0 ∨ p.height.toNat = 0 ∨ p.data = []) ∧
    ¬ p.data.length < p.width.toNat * 4 * p.height.toNat ∧
    ∃ row ∈ List.range p.height.toNat, ¬ (y.toInt + row < 0 ∨ (fbHeight : Int) ≤ y.toInt + row)

instance (fbHeight : Nat) (x y : Int16) (p : Placement) : Decidable (negationOverflows fbHeight x y p) :=
  inferInstanceAs (Decidable (_ ∧ _))

/-- Draw an image on a window, if there is one, unless `put_image` overflows. -/
def drawPlacement (w : XId) (x y : Int16) (p : Placement) (ws : PaintedWindows) : Option PaintedWindows :=
  match ws.lookup w with
  | none => some ws
  | some win =>
    if negationOverflows win.framebuffer.height x y p then none
    else some (editFramebuffer w (·.putImage x y p.width p.height p.data) ws)

structure DamageBounds where
  minX : Int
  minY : Int
  maxX : Int
  maxY : Int

def DamageBounds.start : DamageBounds := ⟨2 ^ 15 - 1, 2 ^ 15 - 1, -2 ^ 15, -2 ^ 15⟩

/-- The round of the loop for one rectangle, unless it overflows. -/
def presentRect (req : PresentPixmapRequest) (src : SourceImage) (target : XId × Int × Int)
    (acc : PaintedWindows × DamageBounds) (r : RegionRect) : Option (PaintedWindows × DamageBounds) :=
  (place req src r).bind fun p =>
    (drawPlacement req.window p.x p.y p acc.1).bind fun ws =>
      (if target.1 ≠ req.window then
        drawPlacement target.1 (.ofInt (p.x.toInt + target.2.1)) (.ofInt (p.y.toInt + target.2.2)) p ws
      else some ws).bind fun ws =>
        (checkI16 (p.x.toInt + asI16 p.width.toNat)).bind fun right =>
          (checkI16 (p.y.toInt + asI16 p.height.toNat)).map fun bottom =>
            (ws, ⟨min acc.2.minX p.x.toInt, min acc.2.minY p.y.toInt, max acc.2.maxX right, max acc.2.maxY bottom⟩)

/-- The rectangle of the damage, unless its size overflows; `none` where there is no
damage. -/
def damageRect (b : DamageBounds) : Option (Option RegionRect) :=
  if b.minX < b.maxX ∧ b.minY < b.maxY then
    (checkI16 (b.maxX - b.minX)).bind fun width =>
      (checkI16 (b.maxY - b.minY)).map fun height =>
        some ⟨.ofInt b.minX, .ofInt b.minY, .ofNat (asU16 width), .ofNat (asU16 height)⟩
  else some none

/-- The copy by a PresentPixmap request. There is no state after an overflow, or after
the log line that indexes the first of no rectangles. -/
def presentPixmap (req : PresentPixmapRequest) (s : PresentState) : Option PresentState :=
  let ds := syncShmPixmap req.pixmap s.toDrawableStore
  match sourceImage ds req.pixmap with
  | none => some { s with toDrawableStore := ds }
  | some src =>
    let rects := copyRects src.width src.height (regionRects s.regions req)
    let target := topLevel ds.windows req.window
    (rects.foldlM (presentRect req src.converted target) (ds.windows, .start)).bind fun acc =>
      if rects = [] ∧ target.1 = req.window then none
      else
        (damageRect acc.2).map fun damage =>
          { s with
            toDrawableStore := { ds with windows := acc.1 }
            damaged := s.damaged ++ (damage.map fun r => (req.window, r)).toList }

end X11Web.Presenting
