import X11Web.BitRuns
import X11Web.CopyRequests

namespace X11Web.GraphicsContexts

open HashMaps Windows Pixels BitRuns
open CopyRequests (checkI16)
open DrawRequests (Pixmap)

/-- A clip mask with one bit for each pixel, eight to a byte from the lowest on. -/
structure ClipMaskBitmap where
  width : UInt16
  height : UInt16
  bits : List UInt8
deriving DecidableEq

def ClipMaskBitmap.stride (bm : ClipMaskBitmap) : Nat := (bm.width.toNat + 7) / 8

def bitOf (x : Nat) : UInt8 := 1 <<< UInt8.ofNat (x % 8)

def ClipMaskBitmap.isSet (bm : ClipMaskBitmap) (y x : Nat) : Bool :=
  let byteIdx := y * bm.stride + x / 8
  !(bm.bits.length ≤ byteIdx || bm.bits.getD byteIdx 0 &&& bitOf x == 0)

def ClipMaskBitmap.rowRuns (bm : ClipMaskBitmap) : List (Nat × Nat × Nat) :=
  (List.range bm.height.toNat).flatMap fun y => (runs (bm.isSet y) bm.width.toNat).map fun r => (r.1, y, r.2)

/-- The rectangles of a mask at an origin, unless an addition overflows. -/
def ClipMaskBitmap.toClipRects (bm : ClipMaskBitmap) (originX originY : Int16) : Option (List ClipRect) :=
  bm.rowRuns.mapM fun r =>
    (checkI16 (asI16 r.1 + originX.toInt)).bind fun x =>
      (checkI16 (asI16 r.2.1 + originY.toInt)).map fun y => ⟨.ofInt x, .ofInt y, .ofNat r.2.2, 1⟩

structure GcState where
  function : UInt8
  planeMask : UInt32
  foreground : UInt32
  background : UInt32
  lineWidth : UInt16
  lineStyle : UInt8
  capStyle : UInt8
  joinStyle : UInt8
  fillStyle : UInt8
  fillRule : UInt8
  tile : XId
  stipple : XId
  tsX : Int16
  tsY : Int16
  fontId : XId
  subwindowMode : UInt8
  graphicsExposures : Bool
  clipX : Int16
  clipY : Int16
  clipMask : XId
  dashOffset : UInt16
  dashes : UInt8
  arcMode : UInt8
  clipRects : List ClipRect
  clipMaskBitmap : Option ClipMaskBitmap
  dashList : List UInt8

def GcState.default : GcState where
  function := GX.copy
  planeMask := 0xFFFFFFFF
  foreground := 0
  background := 0xFFFFFF
  lineWidth := 0
  lineStyle := 0
  capStyle := 1
  joinStyle := 0
  fillStyle := 0
  fillRule := 0
  tile := 0
  stipple := 0
  tsX := 0
  tsY := 0
  fontId := 0
  subwindowMode := 0
  graphicsExposures := true
  clipX := 0
  clipY := 0
  clipMask := 0
  dashOffset := 0
  dashes := 4
  arcMode := 1
  clipRects := []
  clipMaskBitmap := none
  dashList := []

/-- The values of a request that creates or changes a graphics context. -/
structure GcAux where
  function : Option UInt32
  planeMask : Option UInt32
  foreground : Option UInt32
  background : Option UInt32
  lineWidth : Option UInt32
  lineStyle : Option UInt32
  capStyle : Option UInt32
  joinStyle : Option UInt32
  fillStyle : Option UInt32
  fillRule : Option UInt32
  tile : Option XId
  stipple : Option XId
  tileStippleXOrigin : Option Int32
  tileStippleYOrigin : Option Int32
  font : Option XId
  subwindowMode : Option UInt32
  graphicsExposures : Option UInt32
  clipXOrigin : Option Int32
  clipYOrigin : Option Int32
  clipMask : Option XId
  dashOffset : Option UInt32
  dashes : Option UInt32
  arcMode : Option UInt32

def applyCreateGcAux (gc : GcState) (aux : GcAux) : GcState :=
  { gc with
    function := (aux.function.map (·.toUInt8)).getD gc.function
    planeMask := aux.planeMask.getD gc.planeMask
    foreground := aux.foreground.getD gc.foreground
    background := aux.background.getD gc.background
    lineWidth := (aux.lineWidth.map (·.toUInt16)).getD gc.lineWidth
    lineStyle := (aux.lineStyle.map (·.toUInt8)).getD gc.lineStyle
    capStyle := (aux.capStyle.map (·.toUInt8)).getD gc.capStyle
    joinStyle := (aux.joinStyle.map (·.toUInt8)).getD gc.joinStyle
    fillStyle := (aux.fillStyle.map (·.toUInt8)).getD gc.fillStyle
    fillRule := (aux.fillRule.map (·.toUInt8)).getD gc.fillRule
    tile := aux.tile.getD gc.tile
    stipple := aux.stipple.getD gc.stipple
    tsX := (aux.tileStippleXOrigin.map (·.toInt16)).getD gc.tsX
    tsY := (aux.tileStippleYOrigin.map (·.toInt16)).getD gc.tsY
    fontId := aux.font.getD gc.fontId
    subwindowMode := (aux.subwindowMode.map (·.toUInt8)).getD gc.subwindowMode
    graphicsExposures := (aux.graphicsExposures.map (· != 0)).getD gc.graphicsExposures
    clipX := (aux.clipXOrigin.map (·.toInt16)).getD gc.clipX
    clipY := (aux.clipYOrigin.map (·.toInt16)).getD gc.clipY
    clipMask := aux.clipMask.getD gc.clipMask
    dashOffset := (aux.dashOffset.map (·.toUInt16)).getD gc.dashOffset
    dashes := (aux.dashes.map (·.toUInt8)).getD gc.dashes
    arcMode := (aux.arcMode.map (·.toUInt8)).getD gc.arcMode }

inductive GcError
  | idChoice | alloc | drawable | match_ | gContext | value
deriving DecidableEq

/-- The answer to a request. An overflow of the checked arithmetic ends the request
without one. -/
inductive GcResponse
  | ok
  | error (code : GcError) (badValue majorOpcode : Nat)
  | overflow
deriving DecidableEq

/-- The graphics contexts of a client, and what their requests look at. -/
structure GcDesk where
  resourceIdBase : Nat
  windows : HashMap XId WindowState
  pixmaps : HashMap XId Pixmap
  gcs : HashMap XId GcState

def maxGcs : Nat := 4096

def validateResourceId (d : GcDesk) (id : XId) : Bool := id - id % (resourceIdMask + 1) == d.resourceIdBase

def canCreateGc (d : GcDesk) : Bool := d.gcs.keys.card < maxGcs

/-- A pixel of a pixmap counts as one if it is not black. -/
def pixelSet (data : Bytes) (off : Nat) : Bool :=
  off + 3 < data.length && (data.getD off 0 != 0 || data.getD (off + 1) 0 != 0 || data.getD (off + 2) 0 != 0)

/-- The mask of the pixels of a pixmap, by a loop that sets a bit for each. -/
def resolveClipMask (pixmaps : HashMap XId Pixmap) (pixmapId : XId) : Option ClipMaskBitmap :=
  if pixmapId = 0 then none
  else
    (pixmaps.lookup pixmapId).map fun pix =>
      let w := pix.width.toNat
      let h := pix.height.toNat
      let stride := (w + 7) / 8
      let bits := (List.range h).foldl (fun bits (y : Nat) =>
        (List.range w).foldl (fun bits (x : Nat) =>
          if pixelSet pix.framebuffer.data ((y * w + x) * 4) then
            let byteIdx := y * stride + x / 8
            bits.set byteIdx (bits.getD byteIdx 0 ||| bitOf x)
          else bits) bits) (List.replicate (stride * h) 0)
      ⟨pix.width, pix.height, bits⟩

/-- The rectangles of a mask that was set, none if it names no pixmap. -/
def maskRects (bitmap : Option ClipMaskBitmap) (gc : GcState) : Option GcState :=
  match bitmap with
  | some bm => (bm.toClipRects gc.clipX gc.clipY).map fun rects =>
      { gc with clipMaskBitmap := bitmap, clipRects := rects }
  | none => some { gc with clipMaskBitmap := none, clipRects := [] }

structure CreateGcRequest where
  cid : XId
  drawable : XId
  valueList : GcAux

def checkCreateGc (req : CreateGcRequest) (d : GcDesk) : Option GcResponse :=
  if ¬ validateResourceId d req.cid then some (.error .idChoice req.cid 55)
  else if ¬ canCreateGc d then some (.error .alloc req.cid 55)
  else if req.drawable ∉ d.windows ∧ req.drawable ∉ d.pixmaps then some (.error .drawable req.drawable 55)
  else if (d.windows.lookup req.drawable).any (·.winClass == inputOnly) then
    some (.error .match_ req.drawable 55)
  else if req.cid ∈ d.gcs then some (.error .idChoice req.cid 55)
  else none

def handleCreateGc (req : CreateGcRequest) (d : GcDesk) : GcDesk × GcResponse :=
  match checkCreateGc req d with
  | some r => (d, r)
  | none =>
    let gc := applyCreateGcAux .default req.valueList
    match if req.valueList.clipMask.isSome then
        maskRects (if gc.clipMask ≠ 0 then resolveClipMask d.pixmaps gc.clipMask else none) gc
      else some gc with
    | none => (d, .overflow)
    | some gc => ({ d with gcs := d.gcs.insert req.cid gc }, .ok)

/-- What ChangeGC makes of a graphics context, unless an addition overflows. -/
def changeGc (pixmaps : HashMap XId Pixmap) (aux : GcAux) (gc : GcState) : Option GcState :=
  let gc := applyCreateGcAux gc aux
  (if aux.clipMask.isSome then
    maskRects (if gc.clipMask ≠ 0 then resolveClipMask pixmaps gc.clipMask else none) gc
  else some gc).bind fun gc =>
    if (aux.clipXOrigin.isSome ∨ aux.clipYOrigin.isSome) ∧ aux.clipMask.isNone then
      match gc.clipMaskBitmap with
      | some bm => (bm.toClipRects gc.clipX gc.clipY).map fun rects => { gc with clipRects := rects }
      | none => some gc
    else some gc

def handleChangeGc (gcId : XId) (aux : GcAux) (d : GcDesk) : GcDesk × GcResponse :=
  match d.gcs.lookup gcId with
  | none => (d, .error .gContext gcId 56)
  | some gc =>
    match changeGc d.pixmaps aux gc with
    | none => (d, .overflow)
    | some gc => ({ d with gcs := d.gcs.insert gcId gc }, .ok)

namespace GcMask

def function : UInt32 := 0x1
def planeMask : UInt32 := 0x2
def foreground : UInt32 := 0x4
def background : UInt32 := 0x8
def lineWidth : UInt32 := 0x10
def lineStyle : UInt32 := 0x20
def capStyle : UInt32 := 0x40
def joinStyle : UInt32 := 0x80
def fillStyle : UInt32 := 0x100
def fillRule : UInt32 := 0x200
def tile : UInt32 := 0x400
def stipple : UInt32 := 0x800
def tileStippleOriginX : UInt32 := 0x1000
def tileStippleOriginY : UInt32 := 0x2000
def font : UInt32 := 0x4000
def subwindowMode : UInt32 := 0x8000
def graphicsExposures : UInt32 := 0x10000
def clipOriginX : UInt32 := 0x20000
def clipOriginY : UInt32 := 0x40000
def clipMask : UInt32 := 0x80000
def dashOffset : UInt32 := 0x100000
def dashList : UInt32 := 0x200000
def arcMode : UInt32 := 0x400000
def clipBits : UInt32 := clipOriginX ||| clipOriginY ||| clipMask

end GcMask

def pick {α : Type} (valueMask bit : UInt32) (src dst : α) : α := if valueMask &&& bit ≠ 0 then src else dst

/-- The components of the mask from the source, the clip rectangles with any of those of
the clip. -/
def copyGc (valueMask : UInt32) (src dst : GcState) : GcState where
  function := pick valueMask GcMask.function src.function dst.function
  planeMask := pick valueMask GcMask.planeMask src.planeMask dst.planeMask
  foreground := pick valueMask GcMask.foreground src.foreground dst.foreground
  background := pick valueMask GcMask.background src.background dst.background
  lineWidth := pick valueMask GcMask.lineWidth src.lineWidth dst.lineWidth
  lineStyle := pick valueMask GcMask.lineStyle src.lineStyle dst.lineStyle
  capStyle := pick valueMask GcMask.capStyle src.capStyle dst.capStyle
  joinStyle := pick valueMask GcMask.joinStyle src.joinStyle dst.joinStyle
  fillStyle := pick valueMask GcMask.fillStyle src.fillStyle dst.fillStyle
  fillRule := pick valueMask GcMask.fillRule src.fillRule dst.fillRule
  tile := pick valueMask GcMask.tile src.tile dst.tile
  stipple := pick valueMask GcMask.stipple src.stipple dst.stipple
  tsX := pick valueMask GcMask.tileStippleOriginX src.tsX dst.tsX
  tsY := pick valueMask GcMask.tileStippleOriginY src.tsY dst.tsY
  fontId := pick valueMask GcMask.font src.fontId dst.fontId
  subwindowMode := pick valueMask GcMask.subwindowMode src.subwindowMode dst.subwindowMode
  graphicsExposures := pick valueMask GcMask.graphicsExposures src.graphicsExposures dst.graphicsExposures
  clipX := pick valueMask GcMask.clipOriginX src.clipX dst.clipX
  clipY := pick valueMask GcMask.clipOriginY src.clipY dst.clipY
  clipMask := pick valueMask GcMask.clipMask src.clipMask dst.clipMask
  clipMaskBitmap := pick valueMask GcMask.clipMask src.clipMaskBitmap dst.clipMaskBitmap
  dashOffset := pick valueMask GcMask.dashOffset src.dashOffset dst.dashOffset
  dashes := pick valueMask GcMask.dashList src.dashes dst.dashes
  dashList := pick valueMask GcMask.dashList src.dashList dst.dashList
  arcMode := pick valueMask GcMask.arcMode src.arcMode dst.arcMode
  clipRects := pick valueMask GcMask.clipBits src.clipRects dst.clipRects

def handleCopyGc (srcGc dstGc : XId) (valueMask : UInt32) (d : GcDesk) : GcDesk × GcResponse :=
  match d.gcs.lookup srcGc, d.gcs.lookup dstGc with
  | none, _ => (d, .error .gContext srcGc 57)
  | some _, none => (d, .error .gContext dstGc 57)
  | some src, some dst => ({ d with gcs := d.gcs.insert dstGc (copyGc valueMask src dst) }, .ok)

def handleSetDashes (gcId : XId) (dashOffset : UInt16) (dashes : List UInt8) (d : GcDesk) : GcDesk × GcResponse :=
  match d.gcs.lookup gcId with
  | none => (d, .error .gContext gcId 58)
  | some gc =>
    if dashes = [] then (d, .error .value 0 58)
    else if 0 ∈ dashes then (d, .error .value 0 58)
    else ({ d with gcs := d.gcs.insert gcId { gc with dashOffset := dashOffset, dashList := dashes } }, .ok)

/-- A rectangle moved by the origin of the clip, unless an addition overflows. -/
def offsetRect (clipX clipY : Int16) (r : ClipRect) : Option ClipRect :=
  (checkI16 (r.x.toInt + clipX.toInt)).bind fun x =>
    (checkI16 (r.y.toInt + clipY.toInt)).map fun y => ⟨.ofInt x, .ofInt y, r.width, r.height⟩

def handleSetClipRectangles (gcId : XId) (clipX clipY : Int16) (rectangles : List ClipRect) (d : GcDesk) :
    GcDesk × GcResponse :=
  match d.gcs.lookup gcId with
  | none => (d, .error .gContext gcId 59)
  | some gc =>
    match rectangles.mapM (offsetRect clipX clipY) with
    | none => (d, .overflow)
    | some rects =>
      ({ d with
        gcs := d.gcs.insert gcId
          { gc with clipX := clipX, clipY := clipY, clipRects := rects, clipMask := 0, clipMaskBitmap := none } }, .ok)

def handleFreeGc (gcId : XId) (d : GcDesk) : GcDesk × GcResponse :=
  if gcId ∈ d.gcs then ({ d with gcs := d.gcs.erase gcId }, .ok) else (d, .error .gContext gcId 60)

/-- The requests on graphics contexts, and what other requests do to the windows and
pixmaps between them. -/
inductive GcAction
  | createGc (req : CreateGcRequest)
  | changeGc (gcId : XId) (valueList : GcAux)
  | copyGc (srcGc dstGc : XId) (valueMask : UInt32)
  | setDashes (gcId : XId) (dashOffset : UInt16) (dashes : List UInt8)
  | setClipRectangles (gcId : XId) (clipX clipY : Int16) (rectangles : List ClipRect)
  | freeGc (gcId : XId)
  | others (windows : HashMap XId WindowState) (pixmaps : HashMap XId Pixmap)

def GcAction.handle (d : GcDesk) : GcAction → GcDesk × GcResponse
  | .createGc req => handleCreateGc req d
  | .changeGc gcId valueList => handleChangeGc gcId valueList d
  | .copyGc srcGc dstGc valueMask => handleCopyGc srcGc dstGc valueMask d
  | .setDashes gcId dashOffset dashes => handleSetDashes gcId dashOffset dashes d
  | .setClipRectangles gcId clipX clipY rectangles => handleSetClipRectangles gcId clipX clipY rectangles d
  | .freeGc gcId => handleFreeGc gcId d
  | .others windows pixmaps => ({ d with windows, pixmaps }, .ok)

end X11Web.GraphicsContexts
