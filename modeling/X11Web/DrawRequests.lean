import X11Web.Compositing
import X11Web.MapReparent
import X11Web.WriteLists
import Mathlib.Data.List.ProdSigma
import Mathlib.Data.UInt

namespace X11Web.DrawRequests

open HashMaps Windows Overwrites Pixels DirtyMirror

/-- The fields of a graphics context that the image requests read. -/
structure Gc where
  function : UInt8
  planeMask : UInt32
  foreground : UInt32
  background : UInt32
  clipRects : List ClipRect

/-- A pixmap; one that was named after a window stands for the window's pixels. -/
structure Pixmap where
  width : UInt16
  height : UInt16
  depth : UInt8
  framebuffer : Framebuffer
  aliasWindow : Option XId

namespace VisualClass

def staticGray : UInt8 := 0
def grayScale : UInt8 := 1
def staticColor : UInt8 := 2
def pseudoColor : UInt8 := 3
def directColor : UInt8 := 5

end VisualClass

structure Colormap where
  visualClass : UInt8
  entries : List (UInt16 × UInt16 × UInt16)

def rootColormap : XId := 0x20

/-- An 8-bit channel in both bytes of a 16-bit one. -/
def widen (v : UInt8) : UInt16 := (v.toUInt16 <<< 8) ||| v.toUInt16

def Colormap.lookup (cmap : Colormap) (pixel : UInt32) : UInt16 × UInt16 × UInt16 :=
  let p := unpackRgb pixel 0
  if cmap.visualClass = VisualClass.directColor then
    ((cmap.entries[p.r.toNat]?.map (·.1)).getD (widen p.r),
      (cmap.entries[p.g.toNat]?.map (·.2.1)).getD (widen p.g),
      (cmap.entries[p.b.toNat]?.map (·.2.2)).getD (widen p.b))
  else if cmap.visualClass = VisualClass.staticGray ∨ cmap.visualClass = VisualClass.grayScale ∨
      cmap.visualClass = VisualClass.staticColor ∨ cmap.visualClass = VisualClass.pseudoColor then
    cmap.entries[pixel.toNat]?.getD (0, 0, 0)
  else (widen p.r, widen p.g, widen p.b)

structure Picture where
  drawable : XId
  formatId : Nat
  componentAlpha : Bool
  clipRects : Option (List ClipRect)
  clipOriginX : Int16
  clipOriginY : Int16
  clipMask : Option XId

structure WindowPaint where
  framebuffer : Framebuffer
  clipShape : Option (List ClipRect)
  boundingShape : Option (List ClipRect)
  colormap : XId
  backgroundPixmap : Option XId
  backgroundPixel : UInt32
  backingStore : UInt8
  backingPixmap : Option Bytes

structure DrawState extends ClientState where
  paints : HashMap XId WindowPaint
  pixmaps : HashMap XId Pixmap
  gcs : HashMap XId Gc
  colormaps : HashMap XId Colormap
  pictures : HashMap XId Picture

inductive DrawError
  | value | window | match_ | drawable | gContext | length
deriving DecidableEq

inductive DrawResponse
  | ok
  | error (code : DrawError) (badValue : Nat) (majorOpcode : Nat)
deriving DecidableEq

def mapColorForDrawable (s : DrawState) (drawable : XId) (color : UInt32) : UInt32 :=
  let depth := ((s.pixmaps.lookup drawable).map (·.depth.toNat)).getD
    (((s.windows.lookup drawable).map (·.depth)).getD 24)
  if depth ≤ 1 then if color ≠ 0 then 0xFFFFFF else 0x000000
  else color

def drawTarget (s : DrawState) (drawable : XId) : XId :=
  ((s.pixmaps.lookup drawable).bind (·.aliasWindow)).getD drawable

def editPaint (w : XId) (f : Framebuffer → Framebuffer) (paints : HashMap XId WindowPaint) :
    HashMap XId WindowPaint :=
  modify w (fun paint => { paint with framebuffer := f paint.framebuffer }) paints

/-- Draw on the framebuffer of a drawable, as far as there is one. -/
def editDrawable (drawable : XId) (f : Framebuffer → Framebuffer) (s : DrawState) : DrawState :=
  let target := drawTarget s drawable
  if target ∈ s.paints then { s with paints := editPaint target f s.paints }
  else
    { s with pixmaps := modify target (fun pix => { pix with framebuffer := f pix.framebuffer }) s.pixmaps }

namespace ImageFormat

def xyBitmap : UInt8 := 0
def xyPixmap : UInt8 := 1
def zPixmap : UInt8 := 2

end ImageFormat

structure PutImageRequest where
  format : UInt8
  drawable : XId
  gc : XId
  width : UInt16
  height : UInt16
  dstX : Int16
  dstY : Int16
  leftPad : UInt8
  depth : UInt8
  data : Bytes

def swapBr : Bytes → Bytes
  | b :: g :: r :: a :: rest => r :: g :: b :: a :: swapBr rest
  | rest => rest

def rgb565ToRgb888 (val : UInt16) : UInt32 :=
  let r5 := ((val >>> 11) &&& 0x1F).toUInt8
  let g6 := ((val >>> 5) &&& 0x3F).toUInt8
  let b5 := (val &&& 0x1F).toUInt8
  packRgb ((r5 <<< 3) ||| (r5 >>> 2)) ((g6 <<< 2) ||| (g6 >>> 4)) ((b5 <<< 3) ||| (b5 >>> 2))

def rgbaAt (data : Bytes) (off : Nat) : Rgba :=
  ⟨data.getD off 0, data.getD (off + 1) 0, data.getD (off + 2) 0, data.getD (off + 3) 0⟩

def color (p : Rgba) : UInt32 := packRgb p.r p.g p.b

def applyRop (function : UInt8) (src dst : UInt32) : UInt32 := applyGcFunction function src dst

/-- The source colour on a pixel, as the function and the planes have it. -/
def Gc.rop (gc : Gc) (src : UInt32) (dst : Rgba) : UInt32 :=
  (applyRop gc.function src (color dst) &&& gc.planeMask) ||| (color dst &&& ~~~gc.planeMask)

/-- What an image has for a row and a column, over the pixel that is there. -/
abbrev ImagePixel := Nat → Nat → Rgba → Option Rgba

def rgb565Pixel (gc : Gc) (req : PutImageRequest) : ImagePixel := fun row col dst =>
  let srcOff := row * alignTo4 (req.width.toNat * 2) + col * 2
  if req.data.length ≤ srcOff + 1 then none
  else
    let val := (req.data.getD srcOff 0).toUInt16 ||| ((req.data.getD (srcOff + 1) 0).toUInt16 <<< 8)
    some (unpackRgb (gc.rop (rgb565ToRgb888 val) dst) 0xFF)

/-- The colours of the indices, with the index for the alpha. -/
def indexTable (s : DrawState) (drawable : XId) (idx : UInt8) : Rgba :=
  let own := ((s.paints.lookup drawable).map (·.colormap)).filter (· ≠ 0)
  match s.colormaps.lookup (own.getD rootColormap) with
  | some cmap =>
    let rgb := cmap.lookup idx.toUInt32
    ⟨(rgb.1 >>> 8).toUInt8, (rgb.2.1 >>> 8).toUInt8, (rgb.2.2 >>> 8).toUInt8, idx⟩
  | none => ⟨idx, idx, idx, idx⟩

def indexedPixel (s : DrawState) (gc : Gc) (req : PutImageRequest) : ImagePixel := fun row col dst =>
  let srcOff := row * alignTo4 req.width.toNat + col
  if req.data.length ≤ srcOff then none
  else
    let pixel := indexTable s req.drawable (req.data.getD srcOff 0)
    some (unpackRgb (gc.rop (color pixel) dst) pixel.a)

def nibblePixel (gc : Gc) (req : PutImageRequest) : ImagePixel := fun row col dst =>
  let byteOff := row * alignTo4 ((req.width.toNat + 1) / 2) + col / 2
  if req.data.length ≤ byteOff then none
  else
    let byte := req.data.getD byteOff 0
    let nibble := if col % 2 = 0 then byte &&& 0x0F else (byte >>> 4) &&& 0x0F
    let v := nibble ||| (nibble <<< 4)
    some (unpackRgb (gc.rop (packRgb v v v) dst) 0xFF)

def paddedScanline (req : PutImageRequest) : Nat :=
  alignTo4 ((req.leftPad.toNat + req.width.toNat + 7) / 8)

def msbBit (data : Bytes) (byteIdx bitPos : Nat) : Bool := (data.getD byteIdx 0).toNat.testBit (7 - bitPos % 8)

def bitmapPixel (s : DrawState) (gc : Gc) (req : PutImageRequest) : ImagePixel := fun row col dst =>
  let fg := mapColorForDrawable s req.drawable gc.foreground &&& gc.planeMask
  let bg := mapColorForDrawable s req.drawable gc.background &&& gc.planeMask
  let bitPos := req.leftPad.toNat + col
  let src := if msbBit req.data (row * paddedScanline req + bitPos / 8) bitPos then fg else bg
  if gc.function = GX.copy ∧ gc.planeMask = planeMaskAll then some (unpackRgb src 0xFF)
  else some (unpackRgb (gc.rop src dst) 0xFF)

/-- One plane of the image put into a colour; the shift is that of a machine word. -/
def putPlane (gc : Gc) (req : PutImageRequest) (row bitPos : Nat) (value : UInt32) (plane : Nat) : UInt32 :=
  let planeBit : UInt32 := 1 <<< UInt32.ofNat plane
  if gc.planeMask &&& planeBit = 0 then value
  else
    let planeOffset := (req.depth.toNat - 1 - plane) * (paddedScanline req * req.height.toNat)
    let byteIdx := planeOffset + row * paddedScanline req + bitPos / 8
    if req.data.length ≤ byteIdx then value
    else if msbBit req.data byteIdx bitPos then value ||| planeBit
    else value &&& ~~~planeBit

def planesPixel (gc : Gc) (req : PutImageRequest) : ImagePixel := fun row col dst =>
  let value := (List.range req.depth.toNat).foldl (putPlane gc req row (req.leftPad.toNat + col)) (color dst)
  if gc.function = GX.copy then some (unpackRgb value 0xFF)
  else some (unpackRgb (gc.rop value dst) 0xFF)

def grid (rows cols : List Nat) : List (Nat × Nat) := rows ×ˢ cols

/-- A loop that writes through the data and marks nothing. -/
def poke (fb : Framebuffer) (rounds : List (Nat × Nat))
    (step : Bytes → Nat × Nat → Option (Nat × Bytes)) : Framebuffer :=
  { fb with data := rounds.foldl (fun data p => (step data p).elim data (fun w => overwrite data w.1 w.2)) fb.data }

def pokePixel (fb : Framebuffer) (x y : Int16) (clipRects : List ClipRect) (pixel : ImagePixel)
    (data : Bytes) (p : Nat × Nat) : Option (Nat × Bytes) :=
  let dy := y.toInt + p.1
  let dx := x.toInt + p.2
  if dy < 0 ∨ (fb.height : Int) ≤ dy then none
  else if dx < 0 ∨ (fb.width : Int) ≤ dx then none
  else if clippedAway dx dy clipRects then none
  else
    let off := (dy.toNat * fb.width + dx.toNat) * 4
    if data.length ≤ off + 3 then none
    else (pixel p.1 p.2 (rgbaAt data off)).map (fun q => (off, q.bytes))

/-- The same for the images of depth 1, that are neither clipped nor combined. -/
def pokeBit (fb : Framebuffer) (req : PutImageRequest) (data : Bytes) (p : Nat × Nat) : Option (Nat × Bytes) :=
  let byteIdx := p.1 * alignTo4 ((req.width.toNat + 7) / 8) + p.2 / 8
  let bit := (req.data.getD byteIdx 0).toNat.testBit (p.2 % 8)
  let off := ((asUsize req.dstY.toInt + p.1) * fb.width + (asUsize req.dstX.toInt + p.2)) * 4
  if data.length ≤ off + 3 then none
  else
    let val : UInt8 := if bit then 0xFF else 0x00
    some (off, [val, val, val, 0])

inductive Painter
  | gc
  | pixels (pixel : ImagePixel)
  | bits

def imagePainter (s : DrawState) (gc : Gc) (req : PutImageRequest) : Option Painter :=
  if req.format = ImageFormat.zPixmap ∧ 24 ≤ req.depth then some .gc
  else if req.format = ImageFormat.zPixmap ∧ req.depth = 16 then some (.pixels (rgb565Pixel gc req))
  else if req.format = ImageFormat.zPixmap ∧ req.depth = 8 then some (.pixels (indexedPixel s gc req))
  else if req.format = ImageFormat.zPixmap ∧ req.depth = 4 then some (.pixels (nibblePixel gc req))
  else if req.format = ImageFormat.zPixmap ∧ req.depth = 1 then some .bits
  else if req.format = ImageFormat.xyBitmap then some (.pixels (bitmapPixel s gc req))
  else if req.format = ImageFormat.xyPixmap then some (.pixels (planesPixel gc req))
  else none

def imageRounds (req : PutImageRequest) : List (Nat × Nat) :=
  grid (List.range req.height.toNat) (List.range req.width.toNat)

/-- The loops of depth 1 end where they leave the framebuffer. -/
def bitRounds (fb : Framebuffer) (req : PutImageRequest) : List (Nat × Nat) :=
  grid ((List.range req.height.toNat).takeWhile (fun row => asUsize req.dstY.toInt + row < fb.height))
    ((List.range req.width.toNat).takeWhile (fun col => asUsize req.dstX.toInt + col < fb.width))

def Painter.paint (gc : Gc) (req : PutImageRequest) (fb : Framebuffer) : Painter → Framebuffer
  | .gc =>
    fb.putImageGc req.dstX req.dstY req.width req.height (swapBr req.data) gc.function gc.planeMask gc.clipRects
  | .pixels pixel =>
    poke fb (imageRounds req) (pokePixel fb req.dstX req.dstY gc.clipRects pixel)
  | .bits => poke fb (bitRounds fb req) (pokeBit fb req)

/-- The checks of the request, and how it paints if it passes them. -/
def putImagePainter (s : DrawState) (req : PutImageRequest) : Except DrawResponse (Gc × Painter) :=
  if req.drawable ∉ s.paints ∧ req.drawable ∉ s.pixmaps then .error (.error .drawable req.drawable 72)
  else
    match s.gcs.lookup req.gc with
    | none => .error (.error .gContext req.gc 72)
    | some gc =>
      if req.format > ImageFormat.zPixmap then .error (.error .value req.format.toNat 72)
      else if req.width > 32767 ∨ req.height > 32767 then .error (.error .value req.width.toNat 72)
      else if 0 < req.width ∧ 0 < req.height ∧ req.data = [] then .error (.error .length 0 72)
      else
        match imagePainter s gc req with
        | none => .error (.error .match_ req.format.toNat 72)
        | some painter => .ok (gc, painter)

def handlePutImage (req : PutImageRequest) (s : DrawState) : DrawState × DrawResponse :=
  match putImagePainter s req with
  | .error r => (s, r)
  | .ok (gc, painter) => (editDrawable req.drawable (painter.paint gc req) s, .ok)

end X11Web.DrawRequests
