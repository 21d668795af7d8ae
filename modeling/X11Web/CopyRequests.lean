import X11Web.Drawables

namespace X11Web.CopyRequests

open HashMaps Windows Overwrites Pixels Compositing Drawables
open DrawRequests (Gc DrawError)

/-- The fields of a graphics context that the copies read. -/
structure CopyGc extends Gc where
  subwindowMode : UInt8
  graphicsExposures : Bool

inductive CopyEvent
  | noExposure (drawable : XId) (majorOpcode : Nat)
  | graphicsExposure (drawable : XId) (rect : Rect) (count majorOpcode : Nat)
deriving DecidableEq

structure CopyState extends DrawableStore where
  gcs : HashMap XId CopyGc
  pendingEvents : List CopyEvent

/-- The answer to a request. An overflow of the checked arithmetic ends the request
without one. -/
inductive CopyResponse
  | ok
  | error (code : DrawError) (badValue majorOpcode : Nat)
  | overflow
deriving DecidableEq

structure CopyAreaRequest where
  srcDrawable : XId
  dstDrawable : XId
  gc : XId
  srcX : Int16
  srcY : Int16
  dstX : Int16
  dstY : Int16
  width : UInt16
  height : UInt16

structure CopyPlaneRequest extends CopyAreaRequest where
  bitPlane : UInt32

namespace SubwindowMode

def includeInferiors : UInt8 := 1

end SubwindowMode

/-- Put the pixels of a child over those taken from its parent, the rows of the child as
long as it is wide. -/
def blitChild (child : PaintedWindow) (x y : Int16) (w h : Nat) (result : Bytes) : Bytes :=
  let childData := child.framebuffer.data
  (List.range child.height).foldl (fun result (row : Nat) =>
    let dstRow := child.y + row - y.toInt
    if dstRow < 0 ∨ (h : Int) ≤ dstRow then result
    else
      (List.range child.width).foldl (fun result (col : Nat) =>
        let dstCol := child.x + col - x.toInt
        if dstCol < 0 ∨ (w : Int) ≤ dstCol then result
        else
          let srcOff := (row * child.width + col) * 4
          let dstOff := (dstRow.toNat * w + dstCol.toNat) * 4
          if srcOff + 3 < childData.length ∧ dstOff + 3 < result.length then
            overwrite result dstOff (slice childData srcOff 4)
          else result) result) result

def mappedChildren (ws : PaintedWindows) (win : PaintedWindow) : List PaintedWindow :=
  win.childrenOrder.filterMap (fun c => (ws.lookup c).filter (·.mapped))

def extractPixelsIncludeInferiors (ds : DrawableStore) (windowId : XId) (x y : Int16) (width height : UInt16) :
    Bytes :=
  match ds.windows.lookup windowId with
  | some win =>
    (mappedChildren ds.windows win).foldl (fun result child => blitChild child x y width.toNat height.toNat result)
      (win.framebuffer.extractPixels x y width height)
  | none =>
    match ds.pixmaps.lookup windowId with
    | some pix => pix.framebuffer.extractPixels x y width height
    | none => List.replicate (width.toNat * height.toNat * 4) 0

def mapColorForDrawable (ds : DrawableStore) (drawable : XId) (color : UInt32) : UInt32 :=
  let depth := ((ds.pixmaps.lookup drawable).map (·.depth.toNat)).getD
    (((ds.windows.lookup drawable).map (·.depth)).getD 24)
  if depth ≤ 1 then if color ≠ 0 then 0xFFFFFF else 0x000000
  else color

/-- The loop over the pixels of an image that draws each as a point of one of two
colours. -/
def drawBits (fb : Framebuffer) (req : CopyAreaRequest) (gc : CopyGc) (pixels : Bytes) (color : UInt32 → UInt32) :
    Framebuffer :=
  (List.range req.height.toNat).foldl (fun fb (row : Nat) =>
    (List.range req.width.toNat).foldl (fun fb (col : Nat) =>
      let dx := req.dstX.toInt + col
      let dy := req.dstY.toInt + row
      if clippedAway dx dy gc.clipRects then fb
      else
        let srcOff := row * (req.width.toNat * 4) + col * 4
        if pixels.length ≤ srcOff + 3 then fb
        else
          fb.drawPointWithFunc (Int32.ofInt dx) (Int32.ofInt dy) (color (readPixel pixels srcOff)) gc.function) fb) fb

/-- The copy of the pixels by an accepted CopyArea request. -/
def copyPixels (req : CopyAreaRequest) (gc : CopyGc) (ds : DrawableStore) : DrawableStore :=
  let srcDepth := ((ds.pixmaps.lookup req.srcDrawable).map (·.depth)).getD 24
  let inferiors := gc.subwindowMode = SubwindowMode.includeInferiors ∧ req.srcDrawable ∈ ds.windows
  if req.srcDrawable = req.dstDrawable ∧ ¬ inferiors then
    if gc.clipRects ≠ [] then
      drawOn req.srcDrawable (fun fb =>
        fb.putImageGc req.dstX req.dstY req.width req.height
          (fb.extractPixels req.srcX req.srcY req.width req.height) gc.function gc.planeMask gc.clipRects) ds
    else
      drawOn req.srcDrawable (·.copyAreaSelf req.srcX req.srcY req.dstX req.dstY req.width req.height) ds
  else
    let pixels :=
      if inferiors then
        some (extractPixelsIncludeInferiors ds req.srcDrawable req.srcX req.srcY req.width req.height)
      else
        (getFramebuffer ds req.srcDrawable).map (·.extractPixels req.srcX req.srcY req.width req.height)
    match pixels with
    | none => ds
    | some pixels =>
      if srcDepth ≤ 1 ∧ gc.function ≠ GX.copy then
        let fg := mapColorForDrawable ds req.dstDrawable gc.foreground
        let bg := mapColorForDrawable ds req.dstDrawable gc.background
        drawOn req.dstDrawable (fun fb => drawBits fb req gc pixels (fun p => if p ≠ 0 then fg else bg)) ds
      else if gc.function ≠ GX.copy ∨ gc.clipRects ≠ [] then
        drawOn req.dstDrawable (·.putImageGc req.dstX req.dstY req.width req.height pixels gc.function
          gc.planeMask gc.clipRects) ds
      else drawOn req.dstDrawable (·.putImage req.dstX req.dstY req.width req.height pixels) ds

/-- The result of an operation on 16 bits with a sign, unless it overflows. -/
def checkI16 (n : Int) : Option Int := if -2 ^ 15 ≤ n ∧ n < 2 ^ 15 then some n else none

/-- The negation of the column by `put_image`, at its first row on the framebuffer. -/
def putImageOverflows (fb : Framebuffer) (x y : Int16) (width height : UInt16) (image : Bytes) : Bool :=
  let w := width.toNat
  ¬ (w = 0 ∨ height.toNat = 0 ∨ image = []) ∧ w * 4 * height.toNat ≤ image.length ∧
    (List.range height.toNat).any fun row =>
      (0 ≤ y.toInt + row ∧ y.toInt + row < fb.height) ∧ x.toInt < 0 ∧ checkI16 (-x.toInt) = none

/-- Whether the copy of the pixels overflows: on the paths that call `put_image`. -/
def copyOverflows (req : CopyAreaRequest) (gc : CopyGc) (ds : DrawableStore) : Bool :=
  let inferiors := gc.subwindowMode = SubwindowMode.includeInferiors ∧ req.srcDrawable ∈ ds.windows
  let put (fb : Framebuffer) (pixels : Bytes) :=
    putImageOverflows fb req.dstX req.dstY req.width req.height pixels
  if req.srcDrawable = req.dstDrawable ∧ ¬ inferiors then
    gc.clipRects = [] ∧ (getFramebuffer ds req.srcDrawable).any fun fb =>
      put fb (fb.extractPixels req.srcX req.srcY req.width req.height)
  else
    let pixels :=
      if inferiors then
        some (extractPixelsIncludeInferiors ds req.srcDrawable req.srcX req.srcY req.width req.height)
      else
        (getFramebuffer ds req.srcDrawable).map (·.extractPixels req.srcX req.srcY req.width req.height)
    gc.function = GX.copy ∧ gc.clipRects = [] ∧
      pixels.any fun pixels => (getFramebuffer ds req.dstDrawable).any (put · pixels)

def stripBefore (src : Int16) (size : UInt16) : Option (List Nat) :=
  if src.toInt < 0 then (checkI16 (-src.toInt)).map fun n => [asU16 (min n (asI16 size.toNat))]
  else some []

/-- Where the strip beyond the source begins on one axis, and its size. -/
def stripBeyond (src dst : Int16) (size srcSize : UInt16) : Option (List (Int × Nat)) :=
  (checkI16 (src.toInt + asI16 size.toNat)).bind fun stop =>
    if asI16 srcSize.toNat < stop then
      (checkI16 (stop - asI16 srcSize.toNat)).bind fun excess =>
        let overshoot := max excess 0
        (checkI16 (dst.toInt + asI16 size.toNat)).bind fun dstStop =>
          (checkI16 (dstStop - overshoot)).map fun pos => [(pos, asU16 (min overshoot (asI16 size.toNat)))]
    else some []

/-- The rectangles that are reported as missing from the source. -/
def exposedRects (req : CopyAreaRequest) (srcW srcH : UInt16) : Option (List Rect) :=
  (stripBefore req.srcX req.width).bind fun left =>
    (stripBefore req.srcY req.height).bind fun top =>
      (stripBeyond req.srcX req.dstX req.width srcW).bind fun right =>
        (stripBeyond req.srcY req.dstY req.height srcH).map fun bottom =>
          left.map (⟨req.dstX.toInt, req.dstY.toInt, ·, req.height.toNat⟩) ++
            top.map (⟨req.dstX.toInt, req.dstY.toInt, req.width.toNat, ·⟩) ++
            right.map (fun p => ⟨p.1, req.dstY.toInt, p.2, req.height.toNat⟩) ++
            bottom.map (fun p => ⟨req.dstX.toInt, p.1, req.width.toNat, p.2⟩)

/-- A rectangle as the event carries it, its corner without a sign. -/
def sentRect (rect : Rect) : Rect := { rect with x := asU16 rect.x, y := asU16 rect.y }

def exposureEvents (drawable : XId) (majorOpcode : Nat) (rects : List Rect) : List CopyEvent :=
  if rects = [] then [.noExposure drawable majorOpcode]
  else rects.mapIdx fun i rect => .graphicsExposure drawable (sentRect rect) (rects.length - 1 - i) majorOpcode

def reportExposures (majorOpcode : Nat) (req : CopyAreaRequest) (gc : CopyGc) (s : CopyState) :
    CopyState × CopyResponse :=
  if gc.graphicsExposures then
    let size := (getDrawableSize s.toDrawableStore req.srcDrawable).getD (0, 0)
    match exposedRects req size.1 size.2 with
    | none => (s, .overflow)
    | some rects =>
      ({ s with pendingEvents := s.pendingEvents ++ exposureEvents req.dstDrawable majorOpcode rects }, .ok)
  else (s, .ok)

/-- The checks of both requests, and the graphics context of one that passes them. -/
def checkCopy (majorOpcode : Nat) (req : CopyAreaRequest) (s : CopyState) : Except CopyResponse CopyGc :=
  if req.srcDrawable ∉ s.windows ∧ req.srcDrawable ∉ s.pixmaps then
    .error (.error .drawable req.srcDrawable majorOpcode)
  else if req.dstDrawable ∉ s.windows ∧ req.dstDrawable ∉ s.pixmaps then
    .error (.error .drawable req.dstDrawable majorOpcode)
  else
    match s.gcs.lookup req.gc with
    | none => .error (.error .gContext req.gc majorOpcode)
    | some gc => .ok gc

def handleCopyArea (req : CopyAreaRequest) (s : CopyState) : CopyState × CopyResponse :=
  match checkCopy 62 req s with
  | .error r => (s, r)
  | .ok gc =>
    let synced := syncShmPixmap req.srcDrawable s.toDrawableStore
    let copied := { s with toDrawableStore := copyPixels req gc synced }
    if copyOverflows req gc synced then (copied, .overflow) else reportExposures 62 req gc copied

/-- The copy of one plane by an accepted CopyPlane request. -/
def copyPlane (req : CopyPlaneRequest) (gc : CopyGc) (ds : DrawableStore) : DrawableStore :=
  let fg := mapColorForDrawable ds req.dstDrawable gc.foreground
  let bg := mapColorForDrawable ds req.dstDrawable gc.background
  match (getFramebuffer ds req.srcDrawable).map (·.extractPixels req.srcX req.srcY req.width req.height) with
  | none => ds
  | some pixels =>
    drawOn req.dstDrawable (fun fb =>
      drawBits fb req.toCopyAreaRequest gc pixels (fun p => if p &&& req.bitPlane ≠ 0 then fg else bg)) ds

def handleCopyPlane (req : CopyPlaneRequest) (s : CopyState) : CopyState × CopyResponse :=
  if req.bitPlane = 0 ∨ req.bitPlane &&& (req.bitPlane - 1) ≠ 0 then
    (s, .error .value req.bitPlane.toNat 63)
  else
    match checkCopy 63 req.toCopyAreaRequest s with
    | .error r => (s, r)
    | .ok gc =>
      let ds := copyPlane req gc (syncShmPixmap req.srcDrawable s.toDrawableStore)
      reportExposures 63 req.toCopyAreaRequest gc { s with toDrawableStore := ds }

end X11Web.CopyRequests
