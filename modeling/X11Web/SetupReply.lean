import X11Web.ByteLayouts
import X11Web.Framing
import Mathlib

namespace X11Web.SetupReply

open Windows Framing ByteLayouts List

structure Format where
  depth : UInt8
  bitsPerPixel : UInt8
  scanlinePad : UInt8
deriving DecidableEq

structure Visualtype where
  visualId : UInt32
  visualClass : UInt8
  bitsPerRgbValue : UInt8
  colormapEntries : UInt16
  redMask : UInt32
  greenMask : UInt32
  blueMask : UInt32
deriving DecidableEq

structure Depth where
  depth : UInt8
  visuals : List Visualtype
  counted : visuals.length < 2 ^ 16

structure Screen where
  root : UInt32
  defaultColormap : UInt32
  whitePixel : UInt32
  blackPixel : UInt32
  currentInputMasks : UInt32
  widthInPixels : UInt16
  heightInPixels : UInt16
  widthInMillimeters : UInt16
  heightInMillimeters : UInt16
  minInstalledMaps : UInt16
  maxInstalledMaps : UInt16
  rootVisual : UInt32
  backingStores : UInt8
  saveUnders : Bool
  rootDepth : UInt8
  allowedDepths : List Depth
  counted : allowedDepths.length < 2 ^ 8

structure Setup where
  status : UInt8
  protocolMajorVersion : UInt16
  protocolMinorVersion : UInt16
  length : UInt16
  releaseNumber : UInt32
  resourceIdBase : UInt32
  resourceIdMask : UInt32
  motionBufferSize : UInt32
  maximumRequestLength : UInt16
  imageByteOrder : UInt8
  bitmapFormatBitOrder : UInt8
  bitmapFormatScanlineUnit : UInt8
  bitmapFormatScanlinePad : UInt8
  minKeycode : UInt8
  maxKeycode : UInt8
  vendor : Bytes
  pixmapFormats : List Format
  roots : List Screen
  vendorCounted : vendor.length < 2 ^ 16
  formatsCounted : pixmapFormats.length < 2 ^ 8
  rootsCounted : roots.length < 2 ^ 8

/-- A stretch of the reply in the wire layout of the protocol: a field, or bytes that have no order. -/
inductive Piece
  | octets (bs : Bytes)
  | card16 (v : UInt16)
  | card32 (v : UInt32)
deriving DecidableEq

def Piece.bytes (msb : Bool) : Piece → Bytes
  | .octets bs => bs
  | .card16 v => toClientBytes msb (toLeBytes16 v.toNat)
  | .card32 v => toClientBytes msb (toLeBytes32 v.toNat)

def serializePieces (msb : Bool) (pieces : List Piece) : Bytes := pieces.flatMap (Piece.bytes msb)

def padding (n : Nat) : Piece := .octets (List.replicate n 0)

def Format.serialize (f : Format) : Bytes :=
  serializePieces false [.octets [f.depth, f.bitsPerPixel, f.scanlinePad], padding 5]

def Visualtype.pieces (v : Visualtype) : List Piece :=
  [.card32 v.visualId, .octets [v.visualClass, v.bitsPerRgbValue], .card16 v.colormapEntries, .card32 v.redMask,
    .card32 v.greenMask, .card32 v.blueMask, padding 4]

def Visualtype.serialize (msb : Bool) (v : Visualtype) : Bytes := serializePieces msb v.pieces

def Depth.pieces (d : Depth) : List Piece :=
  [.octets [d.depth], padding 1, .card16 (UInt16.ofNat d.visuals.length), padding 4]

def Depth.serialize (msb : Bool) (d : Depth) : Bytes :=
  serializePieces msb d.pieces ++ d.visuals.flatMap (Visualtype.serialize msb)

def Screen.pieces (s : Screen) : List Piece :=
  [.card32 s.root, .card32 s.defaultColormap, .card32 s.whitePixel, .card32 s.blackPixel, .card32 s.currentInputMasks,
    .card16 s.widthInPixels, .card16 s.heightInPixels, .card16 s.widthInMillimeters, .card16 s.heightInMillimeters,
    .card16 s.minInstalledMaps, .card16 s.maxInstalledMaps, .card32 s.rootVisual,
    .octets [s.backingStores, if s.saveUnders then 1 else 0, s.rootDepth, UInt8.ofNat s.allowedDepths.length]]

def Screen.serialize (msb : Bool) (s : Screen) : Bytes :=
  serializePieces msb s.pieces ++ s.allowedDepths.flatMap (Depth.serialize msb)

def Setup.leading (s : Setup) : List Piece :=
  [.octets [s.status], padding 1, .card16 s.protocolMajorVersion, .card16 s.protocolMinorVersion, .card16 s.length,
    .card32 s.releaseNumber, .card32 s.resourceIdBase, .card32 s.resourceIdMask, .card32 s.motionBufferSize]

def Setup.counts (s : Setup) : List Piece :=
  [.card16 (UInt16.ofNat s.vendor.length), .card16 s.maximumRequestLength,
    .octets [UInt8.ofNat s.roots.length, UInt8.ofNat s.pixmapFormats.length, s.imageByteOrder,
      s.bitmapFormatBitOrder, s.bitmapFormatScanlineUnit, s.bitmapFormatScanlinePad, s.minKeycode, s.maxKeycode],
    padding 4]

/-- What has no byte order: the vendor, filled up to a word, and the formats. -/
def Setup.unordered (s : Setup) : Bytes :=
  s.vendor ++ List.replicate (alignTo4 s.vendor.length - s.vendor.length) 0 ++ s.pixmapFormats.flatMap Format.serialize

def Setup.serialize (msb : Bool) (s : Setup) : Bytes :=
  serializePieces msb s.leading ++ serializePieces msb s.counts ++ s.unordered ++
    s.roots.flatMap (Screen.serialize msb)

inductive Stop
  | returned (b : Bytes)
  | panicked
deriving DecidableEq

def swap (b : Bytes) (i j : Nat) : Bytes := (b.set i (b.getD j 0)).set j (b.getD i 0)

def swap16 (b : Bytes) (off : Nat) : Bytes := if off + 2 ≤ b.length then swap b off (off + 1) else b

def swap32 (b : Bytes) (off : Nat) : Bytes :=
  if off + 4 ≤ b.length then swap (swap b off (off + 3)) (off + 1) (off + 2) else b

def index (b : Bytes) (i : Nat) : Except Stop UInt8 :=
  match b[i]? with
  | some v => .ok v
  | none => .error .panicked

def fromLeBytes16 (x y : UInt8) : Nat := x.toNat + y.toNat * 256

/-- A loop over the counts of the reply, the buffer and the offset handed on. -/
def times (body : Bytes → Nat → Except Stop (Bytes × Nat)) : Nat → Bytes → Nat → Except Stop (Bytes × Nat)
  | 0, b, off => .ok (b, off)
  | n + 1, b, off => do
    let (b, off) ← body b off
    times body n b off

namespace SetupLayout
def releaseNumber : Nat := 8
def resourceIdBase : Nat := 12
def resourceIdMask : Nat := 16
def motionBufferSize : Nat := 20
def vendorLen : Nat := 24
def maxRequestLen : Nat := 26
def numScreens : Nat := 28
def numFormats : Nat := 29
def headerSize : Nat := 40
end SetupLayout

namespace ScreenLayout
def root : Nat := 0
def defaultColormap : Nat := 4
def whitePixel : Nat := 8
def blackPixel : Nat := 12
def currentInputMasks : Nat := 16
def widthPx : Nat := 20
def heightPx : Nat := 22
def widthMm : Nat := 24
def heightMm : Nat := 26
def minInstalledMaps : Nat := 28
def maxInstalledMaps : Nat := 30
def rootVisual : Nat := 32
def numDepths : Nat := 39
def size : Nat := 40
end ScreenLayout

namespace DepthLayout
def numVisuals : Nat := 2
def size : Nat := 8
end DepthLayout

namespace VisualLayout
def visualId : Nat := 0
def colormapEntries : Nat := 6
def redMask : Nat := 8
def greenMask : Nat := 12
def blueMask : Nat := 16
def size : Nat := 24
end VisualLayout

def pixmapFormatSize : Nat := 8

def swapVisualFields (b : Bytes) (off : Nat) : Bytes :=
  let b := swap32 b (off + VisualLayout.visualId)
  let b := swap16 b (off + VisualLayout.colormapEntries)
  let b := swap32 b (off + VisualLayout.redMask)
  let b := swap32 b (off + VisualLayout.greenMask)
  swap32 b (off + VisualLayout.blueMask)

def swapVisual (b : Bytes) (off : Nat) : Except Stop (Bytes × Nat) :=
  if b.length < off + VisualLayout.size then .error (.returned b)
  else .ok (swapVisualFields b off, off + VisualLayout.size)

def swapDepth (b : Bytes) (off : Nat) : Except Stop (Bytes × Nat) :=
  if b.length < off + DepthLayout.size then .error (.returned b)
  else do
    let low ← index b (off + DepthLayout.numVisuals)
    let high ← index b (off + DepthLayout.numVisuals + 1)
    times swapVisual (fromLeBytes16 low high) (swap16 b (off + DepthLayout.numVisuals)) (off + DepthLayout.size)

def swapScreenFields (b : Bytes) (off : Nat) : Bytes :=
  let b := swap32 b (off + ScreenLayout.root)
  let b := swap32 b (off + ScreenLayout.defaultColormap)
  let b := swap32 b (off + ScreenLayout.whitePixel)
  let b := swap32 b (off + ScreenLayout.blackPixel)
  let b := swap32 b (off + ScreenLayout.currentInputMasks)
  let b := swap16 b (off + ScreenLayout.widthPx)
  let b := swap16 b (off + ScreenLayout.heightPx)
  let b := swap16 b (off + ScreenLayout.widthMm)
  let b := swap16 b (off + ScreenLayout.heightMm)
  let b := swap16 b (off + ScreenLayout.minInstalledMaps)
  let b := swap16 b (off + ScreenLayout.maxInstalledMaps)
  swap32 b (off + ScreenLayout.rootVisual)

def swapScreen (b : Bytes) (off : Nat) : Except Stop (Bytes × Nat) :=
  if b.length < off + ScreenLayout.size then .error (.returned b)
  else do
    let b := swapScreenFields b off
    let numDepths ← index b (off + ScreenLayout.numDepths)
    times swapDepth numDepths.toNat b (off + ScreenLayout.size)

def swapHeaderFields (b : Bytes) : Bytes :=
  let b := swap16 b 2
  let b := swap16 b 4
  let b := swap16 b 6
  let b := swap32 b SetupLayout.releaseNumber
  let b := swap32 b SetupLayout.resourceIdBase
  let b := swap32 b SetupLayout.resourceIdMask
  swap32 b SetupLayout.motionBufferSize

/-- The walk over the reply: the buffer and the offset where it ends. -/
def walk (b : Bytes) : Except Stop (Bytes × Nat) :=
  if b.length < 32 then .error (.returned b)
  else do
    let b := swapHeaderFields b
    let low ← index b SetupLayout.vendorLen
    let high ← index b (SetupLayout.vendorLen + 1)
    let numFormats ← index b SetupLayout.numFormats
    let numScreens ← index b SetupLayout.numScreens
    let b := swap16 b SetupLayout.vendorLen
    let b := swap16 b SetupLayout.maxRequestLen
    times swapScreen numScreens.toNat b
      (SetupLayout.headerSize + alignTo4 (fromLeBytes16 low high) + numFormats.toNat * pixmapFormatSize)

/-- What `byteswap_setup_reply` leaves in the buffer, if it does not panic. -/
def byteswapSetupReply (b : Bytes) : Option Bytes :=
  match walk b with
  | .ok (b, _) => some b
  | .error (.returned b) => some b
  | .error .panicked => none

variable {pre mid post : Bytes} {i j c : Nat}

@[simp] theorem length_swap (b : Bytes) (i j : Nat) : (swap b i j).length = b.length := by
  rw [swap, length_set, length_set]

theorem set_append_mid (hi : i < mid.length) (v : UInt8) :
    (pre ++ mid ++ post).set (pre.length + i) v = pre ++ mid.set i v ++ post := by
  rw [append_assoc, set_append_right _ _ (Nat.le_add_right _ _), Nat.add_sub_cancel_left,
    set_append_left _ _ hi, append_assoc]

theorem getElem?_append_mid (hi : i < mid.length) : (pre ++ mid ++ post)[pre.length + i]? = mid[i]? := by
  rw [append_assoc, List.getElem?_append_right (Nat.le_add_right _ _), Nat.add_sub_cancel_left,
    List.getElem?_append_left hi]

theorem swap_append (hi : i < mid.length) (hj : j < mid.length) :
    swap (pre ++ mid ++ post) (pre.length + i) (pre.length + j) = pre ++ swap mid i j ++ post := by
  rw [swap, getD_eq_getElem?_getD, getD_eq_getElem?_getD, getElem?_append_mid hi, getElem?_append_mid hj,
    set_append_mid hi, set_append_mid (by simpa using hj)]
  rfl

theorem swap16_append (hc : c + 2 ≤ mid.length) :
    swap16 (pre ++ mid ++ post) (pre.length + c) = pre ++ swap16 mid c ++ post := by
  rw [swap16, swap16, if_pos hc, if_pos (by simp only [length_append]; omega), Nat.add_assoc,
    swap_append (by omega) (by omega)]

theorem swap32_append (hc : c + 4 ≤ mid.length) :
    swap32 (pre ++ mid ++ post) (pre.length + c) = pre ++ swap32 mid c ++ post := by
  rw [swap32, swap32, if_pos hc, if_pos (by simp only [length_append]; omega), Nat.add_assoc, Nat.add_assoc,
    Nat.add_assoc, swap_append (by omega) (by omega), swap_append (by simp; omega) (by simp; omega)]

def Piece.size : Piece → Nat
  | .octets bs => bs.length
  | .card16 _ => 2
  | .card32 _ => 4

def Piece.swap (b : Bytes) (off : Nat) : Piece → Bytes
  | .octets _ => b
  | .card16 _ => swap16 b off
  | .card32 _ => swap32 b off

def swapPieces : List Piece → Bytes → Nat → Bytes
  | [], b, _ => b
  | p :: pieces, b, off => swapPieces pieces (p.swap b off) (off + p.size)

variable (msb : Bool)

theorem length_pieceBytes (p : Piece) : (p.bytes msb).length = p.size := by
  cases p with
  | octets bs => rfl
  | card16 v => cases msb <;> rfl
  | card32 v => cases msb <;> rfl

theorem length_serializePieces (pieces : List Piece) :
    (serializePieces msb pieces).length = (pieces.map Piece.size).sum := by
  rw [serializePieces, length_flatMap]
  exact congrArg List.sum (map_congr_left fun p _ => length_pieceBytes msb p)

theorem swap_piece (p : Piece) (pre post : Bytes) :
    p.swap (pre ++ p.bytes false ++ post) pre.length = pre ++ p.bytes true ++ post := by
  cases p with
  | octets bs => rfl
  | card16 v => exact swap16_append (c := 0) (show 0 + 2 ≤ 2 by decide)
  | card32 v => exact swap32_append (c := 0) (show 0 + 4 ≤ 4 by decide)

theorem swapPieces_serialize (pieces : List Piece) (pre post : Bytes) :
    swapPieces pieces (pre ++ serializePieces false pieces ++ post) pre.length =
      pre ++ serializePieces true pieces ++ post := by
  induction pieces generalizing pre with
  | nil => rfl
  | cons p pieces ih =>
    have hnext := ih (pre ++ p.bytes true)
    rw [length_append, length_pieceBytes] at hnext
    simp only [serializePieces, flatMap_cons, swapPieces, ← append_assoc] at hnext ⊢
    rw [append_assoc _ _ post, swap_piece, ← append_assoc]
    exact hnext

theorem swapVisualFields_eq (v : Visualtype) (b : Bytes) (off : Nat) :
    swapVisualFields b off = swapPieces v.pieces b off := rfl

theorem swapScreenFields_eq (s : Screen) (b : Bytes) (off : Nat) :
    swapScreenFields b off = swapPieces s.pieces b off := rfl

variable (s : Setup)

theorem swapHeaderFields_eq (b : Bytes) : swapHeaderFields b = swapPieces s.leading b 0 := rfl

theorem swapCounts_eq (b : Bytes) :
    swap16 (swap16 b SetupLayout.vendorLen) SetupLayout.maxRequestLen = swapPieces s.counts b 24 := rfl

theorem swapDepthField_eq (d : Depth) (b : Bytes) (off : Nat) :
    swap16 b (off + DepthLayout.numVisuals) = swapPieces d.pieces b off := rfl

/-- A part of the walk that takes the little-endian form of a value at the offset
for its big-endian form and goes on behind it. -/
def Turns {α : Type} (body : Bytes → Nat → Except Stop (Bytes × Nat)) (little big : α → Bytes) (a : α) : Prop :=
  ∀ pre post, body (pre ++ little a ++ post) pre.length = .ok (pre ++ big a ++ post, (pre ++ big a).length)

theorem turns_times {α : Type} {body : Bytes → Nat → Except Stop (Bytes × Nat)} {little big : α → Bytes}
    (h : ∀ a, Turns body little big a) (as : List α) :
    Turns (times body as.length) (List.flatMap little) (List.flatMap big) as := by
  intro pre post
  induction as generalizing pre with
  | nil => simp [times]
  | cons a as ih =>
    have hfst := h a pre (as.flatMap little ++ post)
    have hrest := ih (pre ++ big a)
    rw [← append_assoc] at hfst
    rw [flatMap_cons, flatMap_cons, length_cons, times, ← append_assoc pre, hfst]
    change times body as.length _ _ = _
    simpa only [append_assoc] using hrest

theorem index_append (hi : i < mid.length) : index (pre ++ mid ++ post) (pre.length + i) = index mid i := by
  rw [index, index, getElem?_append_mid hi]

theorem fromLeBytes16_count {n : Nat} (hn : n < 2 ^ 16) :
    fromLeBytes16 (UInt8.ofNat (UInt16.ofNat n).toNat) (UInt8.ofNat ((UInt16.ofNat n).toNat / 2 ^ 8)) = n := by
  rw [fromLeBytes16, UInt8.toNat_ofNat', UInt8.toNat_ofNat', UInt16.toNat_ofNat']
  omega

theorem turns_visual (v : Visualtype) :
    Turns swapVisual (Visualtype.serialize false) (Visualtype.serialize true) v := by
  intro pre post
  have hsize : ∀ msb, (v.serialize msb).length = VisualLayout.size := fun msb => length_serializePieces msb v.pieces
  rw [swapVisual, if_neg (by simp only [length_append, hsize]; omega), swapVisualFields_eq v, length_append,
    hsize]
  exact congrArg (fun b => Except.ok (b, pre.length + VisualLayout.size)) (swapPieces_serialize v.pieces pre post)

theorem turns_depth (d : Depth) : Turns swapDepth (Depth.serialize false) (Depth.serialize true) d := by
  intro pre post
  have hsize : ∀ msb, (serializePieces msb d.pieces).length = DepthLayout.size :=
    fun msb => length_serializePieces msb d.pieces
  have hlow : index (serializePieces false d.pieces) DepthLayout.numVisuals =
      .ok (UInt8.ofNat (UInt16.ofNat d.visuals.length).toNat) := rfl
  have hhigh : index (serializePieces false d.pieces) (DepthLayout.numVisuals + 1) =
      .ok (UInt8.ofNat ((UInt16.ofNat d.visuals.length).toNat / 2 ^ 8)) := rfl
  have hvisuals := turns_times turns_visual d.visuals (pre ++ serializePieces true d.pieces) post
  rw [length_append, hsize] at hvisuals
  simp only [Depth.serialize]
  rw [← append_assoc pre, append_assoc _ _ post, swapDepth,
    if_neg (by simp only [length_append, hsize]; omega), Nat.add_assoc, index_append (by rw [hsize]; decide),
    index_append (by rw [hsize]; decide), hlow, hhigh]
  change times swapVisual (fromLeBytes16 _ _) _ _ = _
  rw [fromLeBytes16_count d.counted, swapDepthField_eq d, swapPieces_serialize, ← append_assoc, hvisuals]
  simp only [append_assoc]

theorem turns_screen (s : Screen) : Turns swapScreen (Screen.serialize false) (Screen.serialize true) s := by
  intro pre post
  have hsize : ∀ msb, (serializePieces msb s.pieces).length = ScreenLayout.size := by
    intro msb
    rw [length_serializePieces]
    simp only [Screen.pieces, map_cons, map_nil, sum_cons, sum_nil, Piece.size, length_cons,
      length_nil, ScreenLayout.size, Nat.reduceAdd]
  have hcnt : index (serializePieces true s.pieces) ScreenLayout.numDepths =
      .ok (UInt8.ofNat s.allowedDepths.length) := rfl
  have hdepths := turns_times turns_depth s.allowedDepths (pre ++ serializePieces true s.pieces) post
  rw [length_append, hsize] at hdepths
  simp only [Screen.serialize]
  rw [← append_assoc pre, append_assoc _ _ post, swapScreen,
    if_neg (by simp only [length_append, hsize]; omega)]
  simp only [swapScreenFields_eq s, swapPieces_serialize]
  rw [index_append (by rw [hsize]; decide), hcnt]
  change times swapDepth (UInt8.ofNat s.allowedDepths.length).toNat _ _ = _
  rw [UInt8.toNat_ofNat', Nat.mod_eq_of_lt s.counted, ← append_assoc, hdepths]
  simp only [append_assoc]

theorem length_unordered :
    s.unordered.length = alignTo4 s.vendor.length + s.pixmapFormats.length * pixmapFormatSize := by
  have hformat : ∀ f : Format, f.serialize.length = pixmapFormatSize := fun f => length_serializePieces false _
  rw [Setup.unordered, length_append, length_append, length_replicate,
    length_flatMap_records hformat]
  unfold alignTo4
  omega

theorem length_leading (s : Setup) :
    (serializePieces msb s.leading).length = SetupLayout.vendorLen := length_serializePieces msb s.leading

theorem length_counts (s : Setup) : (serializePieces msb s.counts).length = 16 :=
  length_serializePieces msb s.counts

theorem walk_header (rest : Bytes) :
    walk (serializePieces false s.leading ++ serializePieces false s.counts ++ rest) =
      times swapScreen s.roots.length (serializePieces true s.leading ++ serializePieces true s.counts ++ rest)
        (SetupLayout.headerSize + alignTo4 s.vendor.length + s.pixmapFormats.length * pixmapFormatSize) := by
  have hleading := swapPieces_serialize s.leading [] (serializePieces false s.counts ++ rest)
  have hcts := swapPieces_serialize s.counts (serializePieces true s.leading) rest
  rw [length_leading] at hcts
  rw [nil_append, nil_append, length_nil, ← append_assoc, ← append_assoc] at hleading
  have hat : ∀ i < 16, index (serializePieces true s.leading ++ serializePieces false s.counts ++ rest)
      (SetupLayout.vendorLen + i) = index (serializePieces false s.counts) i := by
    intro i hi
    rw [← length_leading true s]
    exact index_append (by rw [length_counts]; exact hi)
  have hlow : index (serializePieces true s.leading ++ serializePieces false s.counts ++ rest) SetupLayout.vendorLen =
      .ok (UInt8.ofNat (UInt16.ofNat s.vendor.length).toNat) := hat 0 (by decide)
  have hhigh : index (serializePieces true s.leading ++ serializePieces false s.counts ++ rest)
      (SetupLayout.vendorLen + 1) = .ok (UInt8.ofNat ((UInt16.ofNat s.vendor.length).toNat / 2 ^ 8)) :=
    hat 1 (by decide)
  have hscreens : index (serializePieces true s.leading ++ serializePieces false s.counts ++ rest)
      SetupLayout.numScreens = .ok (UInt8.ofNat s.roots.length) := hat 4 (by decide)
  have hformats : index (serializePieces true s.leading ++ serializePieces false s.counts ++ rest)
      SetupLayout.numFormats = .ok (UInt8.ofNat s.pixmapFormats.length) := hat 5 (by decide)
  have hlong : ¬(serializePieces false s.leading ++ serializePieces false s.counts ++ rest).length < 32 := by
    rw [length_append, length_append, length_leading, length_counts, SetupLayout.vendorLen]
    omega
  rw [walk, if_neg hlong]
  simp only [swapHeaderFields_eq s, hleading, hlow, hhigh, hscreens, hformats]
  change times swapScreen (UInt8.ofNat s.roots.length).toNat _ (SetupLayout.headerSize + alignTo4 (fromLeBytes16 _ _) +
    (UInt8.ofNat s.pixmapFormats.length).toNat * pixmapFormatSize) = _
  rw [swapCounts_eq s, show 24 = SetupLayout.vendorLen from rfl, hcts, fromLeBytes16_count s.vendorCounted,
    UInt8.toNat_ofNat', UInt8.toNat_ofNat', Nat.mod_eq_of_lt s.rootsCounted, Nat.mod_eq_of_lt s.formatsCounted]

theorem walk_serialize : walk (s.serialize false) = .ok (s.serialize true, (s.serialize true).length) := by
  have hroots := turns_times turns_screen s.roots (serializePieces true s.leading ++ serializePieces true s.counts ++
    s.unordered) []
  have hoff : (serializePieces true s.leading ++ serializePieces true s.counts ++ s.unordered).length =
      SetupLayout.headerSize + alignTo4 s.vendor.length + s.pixmapFormats.length * pixmapFormatSize := by
    rw [length_append, length_append, length_leading, length_counts, length_unordered, ← Nat.add_assoc]
    rfl
  rw [hoff, append_nil, append_nil] at hroots
  simp only [Setup.serialize]
  rw [append_assoc _ s.unordered, walk_header, ← append_assoc, hroots]

/-- Every reply is turned into its big-endian form, by a walk that reads nothing
beyond the buffer and goes through to its end. -/
theorem byteswapSetupReply_serialize (s : Setup) :
    byteswapSetupReply (s.serialize false) = some (s.serialize true) ∧
      walk (s.serialize false) = .ok (s.serialize true, (s.serialize true).length) := by
  rw [byteswapSetupReply, walk_serialize]
  exact ⟨rfl, rfl⟩

end X11Web.SetupReply
