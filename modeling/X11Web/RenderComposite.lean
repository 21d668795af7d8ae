import X11Web.DrawRequests

namespace X11Web.RenderComposite

open HashMaps Windows Pixels DirtyMirror DrawRequests

namespace PictFormat

def rgb24 : Nat := 0x25
def xrgb32 : Nat := 0x28
def xbgr32 : Nat := 0x29

end PictFormat

def pictFormatHasAlpha (formatId : Nat) : Bool :=
  formatId != PictFormat.rgb24 && formatId != PictFormat.xrgb32 && formatId != PictFormat.xbgr32

namespace PictOp

def clear : UInt8 := 0
def src : UInt8 := 1
def dst : UInt8 := 2
def in_ : UInt8 := 5
def inReverse : UInt8 := 6
def out : UInt8 := 7
def atopReverse : UInt8 := 10

end PictOp

def zeroSrcHasNoEffect (op : UInt8) : Bool :=
  !(op == PictOp.clear || op == PictOp.src || op == PictOp.in_ || op == PictOp.inReverse ||
    op == PictOp.out || op == PictOp.atopReverse)

def clampByte (n : Int) : Int := max 0 (min n 255)

def inDis (a b : Int) : Int := if a = 0 then 0 else clampByte ((max (a + b - 255) 0 * 255).tdiv a)
def outDis (a b : Int) : Int := if a = 0 then 0 else clampByte (((255 - b) * 255).tdiv a)
def inCon (a b : Int) : Int := if a = 0 then 0 else clampByte ((b * 255).tdiv a)
def outCon (a b : Int) : Int := if a = 0 then 0 else clampByte ((max (a - b) 0 * 255).tdiv a)

/-- The factors of the source and of the destination, 255 for one. -/
def pictOpFactors (op : UInt8) (sa da : Int) : Int × Int :=
  match op.toNat with
  | 0 => (0, 0)
  | 1 => (255, 0)
  | 2 => (0, 255)
  | 3 => (255, 255 - sa)
  | 4 => (255 - da, 255)
  | 5 => (da, 0)
  | 6 => (0, sa)
  | 7 => (255 - da, 0)
  | 8 => (0, 255 - sa)
  | 9 => (da, 255 - sa)
  | 10 => (255 - da, sa)
  | 11 => (255 - da, 255 - sa)
  | 12 => (255, 255)
  | 13 | 20 => (outDis sa da, 255)
  | 16 => (0, 0)
  | 17 => (255, 0)
  | 18 => (0, 255)
  | 19 => (255, outDis da sa)
  | 21 => (inDis sa da, 0)
  | 22 => (0, inDis da sa)
  | 23 => (outDis sa da, 0)
  | 24 => (0, outDis da sa)
  | 25 => (inDis sa da, outDis da sa)
  | 26 => (outDis sa da, inDis da sa)
  | 27 => (outDis sa da, outDis da sa)
  | 32 => (0, 0)
  | 33 => (255, 0)
  | 34 => (0, 255)
  | 35 => (255, outCon da sa)
  | 36 => (outCon sa da, 255)
  | 37 => (inCon sa da, 0)
  | 38 => (0, inCon da sa)
  | 39 => (outCon sa da, 0)
  | 40 => (0, outCon da sa)
  | 41 => (inCon sa da, outCon da sa)
  | 42 => (outCon sa da, inCon da sa)
  | 43 => (outCon sa da, outCon da sa)
  | _ => (255, 255 - sa)

def blendChan (src dst : UInt8) (factors : Int × Int) : UInt8 :=
  UInt8.ofNat (clampByte ((src.toNat * factors.1 + dst.toNat * factors.2 + 127).tdiv 255)).toNat

def dstAlpha (dst : Rgba) (dstHasAlpha : Bool) : Int := if dstHasAlpha then dst.a.toNat else 255

def compositePixel (op : UInt8) (dst src : Rgba) (dstHasAlpha : Bool) : Rgba :=
  if op = PictOp.clear then ⟨0, 0, 0, if dstHasAlpha then 0 else 255⟩
  else if op = PictOp.src then { src with a := if dstHasAlpha then src.a else 255 }
  else if op = PictOp.dst then dst
  else
    let factors := pictOpFactors op src.a.toNat (dstAlpha dst dstHasAlpha)
    ⟨blendChan src.r dst.r factors, blendChan src.g dst.g factors, blendChan src.b dst.b factors,
      if dstHasAlpha then blendChan src.a dst.a factors else 255⟩

def compositePixelCa (op : UInt8) (dst src alphas : Rgba) (dstHasAlpha : Bool) : Rgba :=
  let factors := fun (sa : UInt8) => pictOpFactors op sa.toNat (dstAlpha dst dstHasAlpha)
  ⟨blendChan src.r dst.r (factors alphas.r), blendChan src.g dst.g (factors alphas.g),
    blendChan src.b dst.b (factors alphas.b),
    if dstHasAlpha then blendChan src.a dst.a (factors alphas.a) else 255⟩

structure SourceImage where
  pixels : Bytes
  width : Nat

def SourceImage.pixelAt (image : SourceImage) (row col : Nat) : Option Rgba :=
  let off := (row * image.width + col) * 4
  if image.pixels.length ≤ off + 3 then none
  else
    some ⟨image.pixels.getD (off + 2) 0, image.pixels.getD (off + 1) 0, image.pixels.getD off 0,
      image.pixels.getD (off + 3) 0⟩

def scale (v m : UInt8) : UInt8 := UInt8.ofNat (v.toNat * m.toNat / 255)

def scaleBy (src mask : Rgba) : Rgba :=
  ⟨scale src.r mask.r, scale src.g mask.g, scale src.b mask.b, scale src.a mask.a⟩

structure ClipSnapshot where
  rects : Option (List ClipRect)
  originX : Int16
  originY : Int16
  maskAlpha : Option (Nat × Nat × Bytes)

def alphaBytes (fb : Framebuffer) : Bytes :=
  (List.range fb.height).flatMap (fun y =>
    (List.range fb.width).map (fun x => fb.data.getD (y * (fb.width * 4) + x * 4 + 3) 0))

def ClipSnapshot.fromPicture (s : DrawState) (pid : XId) : ClipSnapshot :=
  match s.pictures.lookup pid with
  | none => ⟨none, 0, 0, none⟩
  | some pic =>
    let mask := (pic.clipMask.filter (· ≠ 0)).bind (fun maskId =>
      ((s.pixmaps.lookup maskId).map (·.framebuffer)).or ((s.paints.lookup maskId).map (·.framebuffer)))
    ⟨pic.clipRects, pic.clipOriginX, pic.clipOriginY,
      mask.map (fun fb => (fb.width, fb.height, alphaBytes fb))⟩

def ClipSnapshot.allows (clip : ClipSnapshot) (x y : Int) : Bool :=
  let rectOk := clip.rects.all (fun rects => rects.any (fun r =>
    let cx := clip.originX.toInt + r.x.toInt
    let cy := clip.originY.toInt + r.y.toInt
    cx ≤ x ∧ x < cx + r.width.toNat ∧ cy ≤ y ∧ y < cy + r.height.toNat))
  rectOk && clip.maskAlpha.all (fun mask =>
    let mx := x - clip.originX.toInt
    let my := y - clip.originY.toInt
    if mx < 0 ∨ my < 0 ∨ (mask.1 : Int) ≤ mx ∨ (mask.2.1 : Int) ≤ my then false
    else mask.2.2.getD (my.toNat * mask.1 + mx.toNat) 0 != 0)

structure CompositeRequest where
  op : UInt8
  src : XId
  mask : XId
  dst : XId
  srcX : Int16
  srcY : Int16
  maskX : Int16
  maskY : Int16
  dstX : Int16
  dstY : Int16
  width : UInt16
  height : UInt16

/-- How a picture gives its pixels: from a colour, a gradient, or a drawable whose
shared memory is read into its pixmap first. -/
abbrev SourceResolver :=
  DrawState → XId → Int16 → Int16 → UInt16 → UInt16 → Option SourceImage × HashMap XId Pixmap

/-- A source pixel through its mask onto the pixel that is there. -/
def compositeThrough (op : UInt8) (componentAlpha dstHasAlpha : Bool) (mask : Option Rgba) (src dst : Rgba) :
    Option Rgba :=
  match mask with
  | none => some (compositePixel op dst src dstHasAlpha)
  | some m =>
    if componentAlpha then
      if (m.b = 0 ∧ m.g = 0 ∧ m.r = 0 ∧ m.a = 0) ∧ zeroSrcHasNoEffect op then none
      else
        some (compositePixelCa op dst (scaleBy src m) (scaleBy ⟨src.a, src.a, src.a, src.a⟩ m) dstHasAlpha)
    else if m.a = 0 ∧ zeroSrcHasNoEffect op then none
    else some (compositePixel op dst (scaleBy src ⟨m.a, m.a, m.a, m.a⟩) dstHasAlpha)

def handleComposite (resolve : SourceResolver) (req : CompositeRequest) (s : DrawState) : DrawState :=
  let source := resolve s req.src req.srcX req.srcY req.width req.height
  let s₁ := { s with pixmaps := source.2 }
  let masked := if req.mask ≠ 0 then resolve s₁ req.mask req.maskX req.maskY req.width req.height
    else (none, s₁.pixmaps)
  let s₂ := { s₁ with pixmaps := masked.2 }
  let clip := ClipSnapshot.fromPicture s₂ req.dst
  let componentAlpha := req.mask != 0 && (s₂.pictures.lookup req.mask).any (·.componentAlpha)
  match source.1, s₂.pictures.lookup req.dst with
  | some src, some dst =>
    editDrawable dst.drawable (fun fb =>
      fb.blitPixels req.dstX req.dstY req.width req.height (fun data dx dy _ dstOff =>
        if clip.allows dx dy then
          let row := (dy - req.dstY.toInt).toNat
          let col := (dx - req.dstX.toInt).toNat
          (src.pixelAt row col).bind (fun p =>
            compositeThrough req.op componentAlpha (pictFormatHasAlpha dst.formatId)
              (masked.1.bind (·.pixelAt row col)) p (rgbaAt data dstOff))
        else none)) s₂
  | _, _ => s₂

end X11Web.RenderComposite
