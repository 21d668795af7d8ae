import X11Web.Overwrites
import X11Web.Windows
import Mathlib.Algebra.Order.Group.Int

namespace X11Web.Pixels

open Windows Overwrites

def planeMaskAll : UInt32 := 0xFFFFFFFF

def alphaMax : Nat := 255

structure Rgba where
  r : UInt8
  g : UInt8
  b : UInt8
  a : UInt8
deriving DecidableEq

def Rgba.bytes (p : Rgba) : Bytes := [p.r, p.g, p.b, p.a]

structure ClipRect where
  x : Int16
  y : Int16
  width : UInt16
  height : UInt16
deriving DecidableEq

structure Rect where
  x : Int
  y : Int
  width : Nat
  height : Nat
deriving DecidableEq

structure Framebuffer where
  data : Bytes
  width : Nat
  height : Nat
  stride : Nat
  dirty : Option Rect
deriving DecidableEq

def Framebuffer.new (width height : Nat) : Framebuffer :=
  ⟨List.replicate (width * 4 * height) 0, width, height, width * 4, none⟩

def unpackRgb (rgb : UInt32) (alpha : UInt8) : Rgba :=
  ⟨((rgb >>> 16) &&& 0xFF).toUInt8, ((rgb >>> 8) &&& 0xFF).toUInt8, (rgb &&& 0xFF).toUInt8, alpha⟩

def packRgb (r g b : UInt8) : UInt32 :=
  (r.toUInt32 <<< 16) ||| (g.toUInt32 <<< 8) ||| b.toUInt32

def readPixel (data : Bytes) (off : Nat) : UInt32 :=
  packRgb (data.getD off 0) (data.getD (off + 1) 0) (data.getD (off + 2) 0)

def writePixel (data : Bytes) (off : Nat) (color : UInt32) (alpha : UInt8) : Bytes :=
  overwrite data off (unpackRgb color alpha).bytes

namespace GX

def copy : UInt8 := 3
def noop : UInt8 := 5

end GX

/-- The raster operations of a graphics context, an unknown one taken for a copy. -/
def applyGcFunction (func : UInt8) (src dst : UInt32) : UInt32 :=
  match func.toNat with
  | 0 => 0
  | 1 => src &&& dst
  | 2 => src &&& ~~~dst
  | 3 => src
  | 4 => ~~~src &&& dst
  | 5 => dst
  | 6 => src ^^^ dst
  | 7 => src ||| dst
  | 8 => ~~~(src ||| dst)
  | 9 => ~~~(src ^^^ dst)
  | 10 => ~~~dst
  | 11 => src ||| ~~~dst
  | 12 => ~~~src
  | 13 => ~~~src ||| dst
  | 14 => ~~~(src &&& dst)
  | 15 => 0xFFFFFFFF
  | _ => src

/-- The planes of the mask from the result of the operation, the others as they
were. -/
def applyPlanes (func : UInt8) (planeMask src dst : UInt32) : UInt32 :=
  (applyGcFunction func src dst &&& planeMask) ||| (dst &&& ~~~planeMask)

def pointInClipRects (x y : Int) (rects : List ClipRect) : Bool :=
  rects.any (fun r => r.x.toInt ≤ x ∧ x < r.x.toInt + r.width.toNat ∧
    r.y.toInt ≤ y ∧ y < r.y.toInt + r.height.toNat)

def clippedAway (x y : Int) (rects : List ClipRect) : Bool :=
  !rects.isEmpty && !pointInClipRects x y rects

/-- Grow the dirty box. A negative origin is moved to 0 and the size kept. -/
def Framebuffer.markDirty (fb : Framebuffer) (x y : Int) (w h : Nat) : Framebuffer :=
  let x := max x 0
  let y := max y 0
  let w := min w (fb.width - x).toNat
  let h := min h (fb.height - y).toNat
  if w = 0 ∨ h = 0 then fb
  else
    { fb with
      dirty := some (match fb.dirty with
        | none => ⟨x, y, w, h⟩
        | some d =>
          ⟨min d.x x, min d.y y, (max (d.x + d.width) (x + w) - min d.x x).toNat,
            (max (d.y + d.height) (y + h) - min d.y y).toNat⟩) }

def Framebuffer.blank (fb : Framebuffer) (width height : Nat) : Framebuffer :=
  { Framebuffer.new width height with dirty := fb.dirty }

namespace Gravity

def bitForget : Nat := 0

/-- Where the old content goes when the size grows by `dw` and `dh`. -/
def shift (gravity : Nat) (dw dh : Int) : Int × Int :=
  match gravity with
  | 1 => (0, 0)
  | 2 => (dw.tdiv 2, 0)
  | 3 => (dw, 0)
  | 4 => (0, dh.tdiv 2)
  | 5 => (dw.tdiv 2, dh.tdiv 2)
  | 6 => (dw, dh.tdiv 2)
  | 7 => (0, dh)
  | 8 => (dw.tdiv 2, dh)
  | 9 => (dw, dh)
  | _ => (0, 0)

end Gravity

def Framebuffer.resizeWithGravity (fb : Framebuffer) (newWidth newHeight : Nat) (gravity : UInt8) :
    Framebuffer :=
  if newWidth = 0 ∨ newHeight = 0 then fb
  else if newWidth = fb.width ∧ newHeight = fb.height then fb
  else
    let blank := fb.blank newWidth newHeight
    if gravity.toNat = Gravity.bitForget then blank.markDirty 0 0 newWidth newHeight
    else
      let shift := Gravity.shift gravity.toNat (newWidth - fb.width) (newHeight - fb.height)
      let srcXStart := (-shift.1).toNat
      let dstXStart := shift.1.toNat
      let copyW := min fb.width (newWidth - dstXStart) - srcXStart
      let data := (List.range fb.height).foldl (fun data (srcY : Nat) =>
        let dstY := srcY + shift.2
        if dstY < 0 ∨ (newHeight : Int) ≤ dstY ∨ copyW = 0 then data
        else
          let srcOff := srcY * fb.stride + srcXStart * 4
          let dstOff := dstY.toNat * blank.stride + dstXStart * 4
          if srcOff + copyW * 4 ≤ fb.data.length ∧ dstOff + copyW * 4 ≤ data.length then
            overwrite data dstOff (slice fb.data srcOff (copyW * 4))
          else data) blank.data
      { blank with data := data }.markDirty 0 0 newWidth newHeight

structure DirtyPixels where
  x : Int16
  y : Int16
  width : UInt16
  height : UInt16
  pixels : Bytes
deriving DecidableEq

def Framebuffer.takeDirtyPixels (fb : Framebuffer) : Option DirtyPixels × Framebuffer :=
  match fb.dirty with
  | none => (none, fb)
  | some d =>
    let fb := { fb with dirty := none }
    if d.width = 0 ∨ d.height = 0 then (none, fb)
    else
      let dx := min (max d.x 0) (fb.width - 1)
      let dy := min (max d.y 0) (fb.height - 1)
      let dw := min d.width (fb.width - dx).toNat
      let dh := min d.height (fb.height - dy).toNat
      let pixels := (List.range dh).flatMap (fun row =>
        let off := (dy.toNat + row) * fb.stride + dx.toNat * 4
        if off + dw * 4 ≤ fb.data.length then slice fb.data off (dw * 4) else [])
      (some ⟨Int16.ofInt dx, Int16.ofInt dy, UInt16.ofNat dw, UInt16.ofNat dh, pixels⟩, fb)

def Framebuffer.fillRect (fb : Framebuffer) (x y : Int16) (width height : UInt16)
    (color : UInt32) : Framebuffer :=
  let rowStart := (max x.toInt 0).toNat
  let rowEnd := (min (x.toInt + width.toNat) fb.width).toNat
  if rowEnd ≤ rowStart then fb
  else
    let rowLen := rowEnd - rowStart
    let rowBuf := (List.range rowLen).flatMap (fun _ => (unpackRgb color 0xFF).bytes)
    let data := (List.range height.toNat).foldl (fun data (row : Nat) =>
      let dy := y.toInt + row
      if dy < 0 ∨ (fb.height : Int) ≤ dy then data
      else
        let dstOff := dy.toNat * fb.stride + rowStart * 4
        if dstOff + rowLen * 4 ≤ data.length then overwrite data dstOff rowBuf else data) fb.data
    { fb with data := data }.markDirty x.toInt y.toInt width.toNat height.toNat

def Framebuffer.fillRectRop (fb : Framebuffer) (x y : Int16) (width height : UInt16)
    (color : UInt32) (function : UInt8) (planeMask : UInt32) : Framebuffer :=
  if function = GX.copy ∧ planeMask = planeMaskAll then fb.fillRect x y width height color
  else if function = GX.noop then fb
  else
    let rowStart := (max x.toInt 0).toNat
    let rowEnd := (min (x.toInt + width.toNat) fb.width).toNat
    if rowEnd ≤ rowStart then fb
    else
      let rowLen := rowEnd - rowStart
      let data := (List.range height.toNat).foldl (fun data (row : Nat) =>
        let dy := y.toInt + row
        if dy < 0 ∨ (fb.height : Int) ≤ dy then data
        else
          let baseOff := dy.toNat * fb.stride + rowStart * 4
          if data.length < baseOff + rowLen * 4 then data
          else
            (List.range rowLen).foldl (fun data i =>
              let dst := readPixel data (baseOff + i * 4)
              writePixel data (baseOff + i * 4) (applyPlanes function planeMask color dst) 0xFF)
              data) fb.data
      { fb with data := data }.markDirty x.toInt y.toInt width.toNat height.toNat

def asUsize (n : Int) : Nat := (n % 2 ^ 64).toNat

/-- The columns left of the framebuffer. At `-32768` the negation wraps, as in a release build. -/
def colStart (x : Int16) : Nat := if x.toInt < 0 then asUsize (-x).toInt else 0

def Framebuffer.putImage (fb : Framebuffer) (x y : Int16) (width height : UInt16) (image : Bytes) :
    Framebuffer :=
  let w := width.toNat
  if w = 0 ∨ height.toNat = 0 ∨ image = [] then fb
  else
    let srcStride := w * 4
    if image.length < srcStride * height.toNat then fb
    else
      let data := (List.range height.toNat).foldl (fun data (row : Nat) =>
        let dy := y.toInt + row
        if dy < 0 ∨ (fb.height : Int) ≤ dy then data
        else
          let colEnd := min w ((fb.width - max x.toInt 0).toNat + colStart x)
          if colEnd ≤ colStart x then data
          else
            let dxStart := (max (x.toInt + colStart x) 0).toNat
            let srcOff := row * srcStride + colStart x * 4
            let dstOff := dy.toNat * fb.stride + dxStart * 4
            let copyLen := (colEnd - colStart x) * 4
            if dstOff + copyLen ≤ data.length ∧ srcOff + copyLen ≤ image.length then
              overwrite data dstOff (slice image srcOff copyLen)
            else data) fb.data
      { fb with data := data }.markDirty x.toInt y.toInt w height.toNat

/-- The loop over the pixels of an image that are on the framebuffer. `pixel` is
given the data so far, the position, and the offsets into the image and the data;
where it is `none` the pixel stays. -/
def Framebuffer.blitPixels (fb : Framebuffer) (x y : Int16) (width height : UInt16)
    (pixel : Bytes → Int → Int → Nat → Nat → Option Rgba) : Framebuffer :=
  let data := (List.range height.toNat).foldl (fun data (row : Nat) =>
    let dy := y.toInt + row
    if dy < 0 ∨ (fb.height : Int) ≤ dy then data
    else
      (List.range width.toNat).foldl (fun data (col : Nat) =>
        let dx := x.toInt + col
        if dx < 0 ∨ (fb.width : Int) ≤ dx then data
        else
          let srcOff := row * (width.toNat * 4) + col * 4
          let dstOff := dy.toNat * fb.stride + dx.toNat * 4
          if data.length ≤ dstOff + 3 then data
          else
            match pixel data dx dy srcOff dstOff with
            | none => data
            | some p => overwrite data dstOff p.bytes) data) fb.data
  { fb with data := data }.markDirty x.toInt y.toInt width.toNat height.toNat

def blend (alpha src dst : UInt8) : UInt8 :=
  UInt8.ofNat ((src.toNat * alpha.toNat + dst.toNat * (alphaMax - alpha.toNat)) / alphaMax)

/-- The source pixel over the destination, its alpha dropped unless it is full. -/
def overPixel (image data : Bytes) (srcOff dstOff : Nat) : Option Rgba :=
  let alpha := image.getD (srcOff + 3) 0
  if alpha = 0 then none
  else if alpha = 0xFF then
    some ⟨image.getD srcOff 0, image.getD (srcOff + 1) 0, image.getD (srcOff + 2) 0, alpha⟩
  else
    some ⟨blend alpha (image.getD srcOff 0) (data.getD dstOff 0),
      blend alpha (image.getD (srcOff + 1) 0) (data.getD (dstOff + 1) 0),
      blend alpha (image.getD (srcOff + 2) 0) (data.getD (dstOff + 2) 0), 0xFF⟩

def Framebuffer.putImageOver (fb : Framebuffer) (x y : Int16) (width height : UInt16)
    (image : Bytes) : Framebuffer :=
  if width.toNat = 0 ∨ height.toNat = 0 ∨ image = [] then fb
  else if image.length < width.toNat * 4 * height.toNat then fb
  else
    fb.blitPixels x y width height (fun data _ _ srcOff dstOff =>
      overPixel image data srcOff dstOff)

def Framebuffer.putImageOverGc (fb : Framebuffer) (x y : Int16) (width height : UInt16)
    (image : Bytes) (function : UInt8) (planeMask : UInt32) (clipRects : List ClipRect) :
    Framebuffer :=
  if width.toNat = 0 ∨ height.toNat = 0 ∨ image = [] then fb
  else if function = GX.copy ∧ planeMask = planeMaskAll ∧ clipRects = [] then
    fb.putImageOver x y width height image
  else if image.length < width.toNat * 4 * height.toNat then fb
  else
    fb.blitPixels x y width height (fun data dx dy srcOff dstOff =>
      (overPixel image data srcOff dstOff).bind (fun src =>
        if clippedAway dx dy clipRects then none
        else
          some (unpackRgb (applyPlanes function planeMask (packRgb src.r src.g src.b)
            (readPixel data dstOff)) 0xFF)))

def Framebuffer.putImageGc (fb : Framebuffer) (x y : Int16) (width height : UInt16)
    (image : Bytes) (function : UInt8) (planeMask : UInt32) (clipRects : List ClipRect) :
    Framebuffer :=
  if width.toNat = 0 ∨ height.toNat = 0 ∨ image = [] then fb
  else if function = GX.copy ∧ planeMask = planeMaskAll ∧ clipRects = [] then
    fb.putImage x y width height image
  else if image.length < width.toNat * 4 * height.toNat then fb
  else
    fb.blitPixels x y width height (fun data dx dy srcOff dstOff =>
      if clippedAway dx dy clipRects then none
      else
        some (unpackRgb (applyPlanes function planeMask (readPixel image srcOff)
          (readPixel data dstOff)) 0xFF))

/-- The pixels of a rectangle. Where it begins left of the framebuffer, the row is
copied from column 0 to the start. -/
def Framebuffer.extractPixels (fb : Framebuffer) (x y : Int16) (width height : UInt16) : Bytes :=
  if width.toNat = 0 ∨ height.toNat = 0 then []
  else
    let w := width.toNat
    let h := height.toNat
    (List.range h).foldl (fun pixels (row : Nat) =>
      let sy := y.toInt + row
      if sy < 0 ∨ (fb.height : Int) ≤ sy then pixels
      else
        let sx := max x.toInt 0
        let copyW := min w (fb.width - sx).toNat * 4
        let srcOff := sy.toNat * fb.stride + sx.toNat * 4
        if copyW = 0 ∨ fb.data.length < srcOff + copyW then pixels
        else overwrite pixels (row * w * 4) (slice fb.data srcOff copyW))
      (List.replicate (w * h * 4) 0)

def Framebuffer.copyAreaSelf (fb : Framebuffer) (srcX srcY dstX dstY : Int16)
    (width height : UInt16) : Framebuffer :=
  if width.toNat = 0 ∨ height.toNat = 0 then fb
  else fb.putImage dstX dstY width height (fb.extractPixels srcX srcY width height)

def Framebuffer.drawPointWithFunc (fb : Framebuffer) (x y : Int32) (color : UInt32)
    (gcFunc : UInt8) : Framebuffer :=
  if x.toInt < 0 ∨ y.toInt < 0 ∨ (fb.width : Int) ≤ x.toInt ∨ (fb.height : Int) ≤ y.toInt then fb
  else
    let off := y.toInt.toNat * fb.stride + x.toInt.toNat * 4
    if fb.data.length ≤ off + 3 then fb
    else
      { fb with
        data := writePixel fb.data off
          (applyGcFunction gcFunc color (readPixel fb.data off)) 0xFF }.markDirty x.toInt y.toInt 1 1

def Framebuffer.drawPoint (fb : Framebuffer) (x y : Int32) (color : UInt32) : Framebuffer :=
  fb.drawPointWithFunc x y color 3

def skiaEligible (gcFunc : UInt8) (planeMask : UInt32) : Prop :=
  gcFunc = GX.copy ∧ planeMask = planeMaskAll

instance (gcFunc : UInt8) (planeMask : UInt32) : Decidable (skiaEligible gcFunc planeMask) :=
  inferInstanceAs (Decidable (_ ∧ _))

def Framebuffer.drawPointGc (fb : Framebuffer) (x y : Int32) (color : UInt32) (gcFunc : UInt8)
    (planeMask : UInt32) (clipRects : List ClipRect) : Framebuffer :=
  if x.toInt < 0 ∨ y.toInt < 0 ∨ (fb.width : Int) ≤ x.toInt ∨ (fb.height : Int) ≤ y.toInt then fb
  else if clippedAway x.toInt y.toInt clipRects then fb
  else if skiaEligible gcFunc planeMask then fb.drawPoint x y color
  else
    let off := y.toInt.toNat * fb.stride + x.toInt.toNat * 4
    if fb.data.length ≤ off + 3 then fb
    else
      { fb with
        data := writePixel fb.data off
          (applyPlanes gcFunc planeMask color (readPixel fb.data off)) 0xFF }.markDirty
        x.toInt y.toInt 1 1

end X11Web.Pixels
