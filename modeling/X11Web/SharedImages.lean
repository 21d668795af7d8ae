import X11Web.CheckedRuns
import X11Web.Drawables

namespace X11Web.SharedImages

open HashMaps Windows Overwrites Pixels DirtyMirror ImagePixels List
open Drawables CheckedRuns Compositing
open DrawRequests (Pixmap swapBr)

/-- Where the pixels of a pixmap are in shared memory: the offset is that of a request. -/
structure ShmPixmapBacking where
  shmseg : XId
  offset : Nat
  fits : offset < 2 ^ 32

/-- A client with its attached segments, each the bytes of its size. -/
structure ShmClient where
  drawables : DrawableStore
  segments : HashMap XId Bytes
  shmBacking : XId → Option ShmPixmapBacking

structure PutImageRequest where
  drawable : XId
  gc : XId
  totalWidth : UInt16
  totalHeight : UInt16
  srcX : UInt16
  srcY : UInt16
  srcWidth : UInt16
  srcHeight : UInt16
  dstX : Int16
  dstY : Int16
  depth : UInt8
  format : UInt8
  sendEvent : Bool
  shmseg : XId
  offset : UInt32

structure GetImageRequest where
  drawable : XId
  x : Int16
  y : Int16
  width : UInt16
  height : UInt16
  planeMask : UInt32
  format : UInt8
  shmseg : XId
  offset : UInt32

inductive Response
  | none
  | valueError (badValue : Nat)
  | completion (drawable shmseg : XId) (offset : UInt32)
  | image (depth : Nat) (visual : XId) (size : Nat)

/-- A copy out of a segment. No bytes may be taken anywhere. -/
def readSegment (seg : Bytes) (off len : Nat) : Checked Bytes :=
  checked (slice seg off len) (len = 0 ∨ off + len ≤ seg.length) .outOfBounds

def writeSegment (seg : Bytes) (off : Nat) (bytes : Bytes) : Checked Bytes :=
  checked (overwrite seg off bytes) (bytes.length = 0 ∨ off + bytes.length ≤ seg.length) .outOfBounds

/-- Some row of the image is on the framebuffer, and takes the negation of the origin. -/
def TakesNegation (fb : Framebuffer) (x y : Int16) (width height : UInt16) : Prop :=
  width.toNat ≠ 0 ∧ x.toInt < 0 ∧ ∃ row < height.toNat, 0 ≤ y.toInt + row ∧ y.toInt + row < fb.height

instance (fb : Framebuffer) (x y : Int16) (width height : UInt16) : Decidable (TakesNegation fb x y width height) :=
  inferInstanceAs (Decidable (_ ∧ _ ∧ ∃ row < _, _))

/-- `put_image`, where the most negative origin has no negation in its type. -/
def putImage (fb : Framebuffer) (x y : Int16) (width height : UInt16) (image : Bytes) : Checked Framebuffer :=
  checked (fb.putImage x y width height image) (TakesNegation fb x y width height → x.toInt ≠ -2 ^ 15) .overflow

def takeRows (seg : Bytes) (base srcX srcY srcStride w h : Nat) : Checked Bytes :=
  (List.range h).foldlM (fun pixels row => do
    let srcOff ← usize ((srcY + row) * srcStride + srcX * 4)
    let bytes ← readSegment seg (base + srcOff) (w * 4)
    pure (overwrite pixels (row * w * 4) bytes)) (List.replicate (w * h * 4) 0)

def drawChecked (drawable : XId) (f : Framebuffer → Checked Framebuffer) (ds : DrawableStore) : Checked DrawableStore :=
  match getFramebuffer ds drawable with
  | some fb => do
    let fb' ← f fb
    pure (drawOn drawable (fun _ => fb') ds)
  | none => pure ds

def handlePutImage (c : ShmClient) (req : PutImageRequest) : Checked (Response × ShmClient) :=
  match c.segments.lookup req.shmseg with
  | none => pure (.valueError req.shmseg, c)
  | some seg => do
    let srcStride ← usize (req.totalWidth.toNat * 4)
    let regionSize ← usize (srcStride * (req.srcY.toNat + req.srcHeight.toNat))
    let regionEnd ← usize (req.offset.toNat + regionSize)
    if seg.length < regionEnd then pure (.valueError req.offset.toNat, c)
    else do
      let w := req.srcWidth.toNat
      let h := req.srcHeight.toNat
      let n ← usize (w * h * 4)
      alloc n
      let pixels ← takeRows seg req.offset.toNat req.srcX.toNat req.srcY.toNat srcStride w h
      let drawables ← drawChecked req.drawable
        (fun fb => putImage fb req.dstX req.dstY req.srcWidth req.srcHeight (swapBr pixels)) c.drawables
      pure (if req.sendEvent then .completion req.drawable req.shmseg req.offset else .none,
        { c with drawables := drawables })

/-- Bring a pixmap in shared memory up to date, if its pixels are all there. -/
def syncShmPixmap (drawable : XId) (c : ShmClient) : Checked ShmClient :=
  let target := resolveDrawable c.drawables drawable
  match c.drawables.pixmaps.lookup target,
    (c.shmBacking target).bind fun b => (c.segments.lookup b.shmseg).map (b, ·) with
  | some pix, some (backing, seg) => do
    let totalBytes ← usize (pix.width.toNat * 4 * pix.height.toNat)
    let copyEnd ← usize (backing.offset + totalBytes)
    if seg.length < copyEnd then pure c
    else do
      let bytes ← readSegment seg backing.offset (min totalBytes pix.framebuffer.data.length)
      let pixmaps := modify target (fun pix =>
        { pix with framebuffer := { pix.framebuffer with
          data := overwrite pix.framebuffer.data 0 (swapBr bytes) } }) c.drawables.pixmaps
      pure { c with drawables := { c.drawables with pixmaps := pixmaps } }
  | _, _ => pure c

/-- The pixels that a GetImage gives: black where there is no drawable. -/
def imageOf (ds : DrawableStore) (req : GetImageRequest) : Bytes :=
  match getFramebuffer ds (resolveDrawable ds req.drawable) with
  | some fb => fb.extractPixels req.x req.y req.width req.height
  | none => List.replicate (req.width.toNat * req.height.toNat * 4) 0

def handleGetImage (c : ShmClient) (req : GetImageRequest) : Checked (Response × ShmClient) := do
  let c ← syncShmPixmap req.drawable c
  let pixels := swapBr (imageOf c.drawables req)
  let size ← checked (req.width.toNat * req.height.toNat) (req.width.toNat * req.height.toNat < 2 ^ 32) .overflow
  let answer := Response.image 24 rootVisual size
  match c.segments.lookup req.shmseg with
  | none => pure (answer, c)
  | some seg => do
    let totalBytes ← usize (req.width.toNat * 4 * req.height.toNat)
    let copyEnd ← usize (req.offset.toNat + totalBytes)
    if copyEnd ≤ seg.length then do
      let seg ← writeSegment seg req.offset.toNat (pixels.take totalBytes)
      pure (answer, { c with segments := c.segments.insert req.shmseg seg })
    else pure (answer, c)

inductive Request
  | putImage (req : PutImageRequest)
  | getImage (req : GetImageRequest)

/-- The request passes its check, and there is something to draw and to draw on. -/
def Draws (c : ShmClient) (req : PutImageRequest) (seg : Bytes) (fb : Framebuffer) : Prop :=
  c.segments.lookup req.shmseg = some seg ∧
    req.offset.toNat + req.totalWidth.toNat * 4 * (req.srcY.toNat + req.srcHeight.toNat) ≤ seg.length ∧
    getFramebuffer c.drawables req.drawable = some fb ∧ req.srcWidth.toNat ≠ 0 ∧ req.srcHeight.toNat ≠ 0

def SourceInside (req : PutImageRequest) : Prop :=
  req.srcX.toNat + req.srcWidth.toNat ≤ req.totalWidth.toNat ∧
    req.srcY.toNat + req.srcHeight.toNat ≤ req.totalHeight.toNat

/-- A pixel of the image in the segment, in the order of the framebuffers. -/
def segmentPixel (seg : Bytes) (req : PutImageRequest) (x y : Nat) : Bytes :=
  swapBr (slice seg (req.offset.toNat + (y * req.totalWidth.toNat + x) * 4) 4)

/-- Every copy stays in its segment, nothing wraps, and what is drawn is a part of the image. -/
structure PutSafe (c : ShmClient) (req : PutImageRequest) : Prop where
  within : Within (fun _ => True) (handlePutImage c req)
  inside : ∀ seg fb, Draws c req seg fb → SourceInside req
  pixels : ∀ seg fb, Draws c req seg fb →
    ∃ fb', getFramebuffer (handlePutImage c req).value.2.drawables req.drawable = some fb' ∧
      ∀ i < req.srcWidth.toNat, ∀ j < req.srcHeight.toNat, ∀ col < fb.width, ∀ row < fb.height,
        (col : Int) = req.dstX.toInt + i → (row : Int) = req.dstY.toInt + j →
          pixelAt fb' col row = segmentPixel seg req (req.srcX.toNat + i) (req.srcY.toNat + j)

def Safe (c : ShmClient) : Request → Prop
  | .putImage req => PutSafe c req
  | .getImage req => Within (fun _ => True) (handleGetImage c req)

/-- A request that passes the check and has a source rectangle takes its last row from the
segment; and where it draws, the rectangle is in the image and the origin has a negation. -/
def PutFits (c : ShmClient) (req : PutImageRequest) : Prop :=
  ∀ seg, c.segments.lookup req.shmseg = some seg →
    req.offset.toNat + req.totalWidth.toNat * 4 * (req.srcY.toNat + req.srcHeight.toNat) ≤ seg.length →
    req.srcWidth.toNat ≠ 0 → req.srcHeight.toNat ≠ 0 →
      req.offset.toNat + ((req.srcY.toNat + (req.srcHeight.toNat - 1)) * (req.totalWidth.toNat * 4) +
        req.srcX.toNat * 4) + req.srcWidth.toNat * 4 ≤ seg.length ∧
      ∀ fb, getFramebuffer c.drawables req.drawable = some fb →
        SourceInside req ∧
          (TakesNegation fb req.dstX req.dstY req.srcWidth req.srcHeight → req.dstX.toInt ≠ -2 ^ 15)

def Fits (c : ShmClient) : Request → Prop
  | .putImage req => PutFits c req
  | .getImage _ => True

variable {c : ShmClient} {req : PutImageRequest} {seg image : Bytes} {fb : Framebuffer} {ok : Nat → Prop}
  {base srcX srcY stride w h off len : Nat}

@[simp] theorem within_readSegment : Within ok (readSegment seg off len) ↔ len = 0 ∨ off + len ≤ seg.length :=
  within_checked nofun

@[simp] theorem within_writeSegment {bytes : Bytes} :
    Within ok (writeSegment seg off bytes) ↔ bytes.length = 0 ∨ off + bytes.length ≤ seg.length :=
  within_checked nofun

theorem within_takeRows (hstr : stride ≤ 2 ^ 18) (hx : srcX < 2 ^ 16) (hy : srcY < 2 ^ 16) (hh : h < 2 ^ 16) :
    Within ok (takeRows seg base srcX srcY stride w h) ↔
      (w ≠ 0 → h ≠ 0 → base + ((srcY + (h - 1)) * stride + srcX * 4) + w * 4 ≤ seg.length) := by
  have hloop : Within ok (takeRows seg base srcX srcY stride w h) ↔
      ∀ row ∈ List.range h, w * 4 = 0 ∨ base + ((srcY + row) * stride + srcX * 4) + w * 4 ≤ seg.length := by
    refine within_foldlM (I := fun _ => True) (fun _ _ _ _ => trivial) (fun p row hrow _ => ?_) trivial
    have hrow := mem_range.mp hrow
    have hsize : (srcY + row) * stride ≤ 2 ^ 17 * 2 ^ 18 := Nat.mul_le_mul (by omega) hstr
    rw [within_bind, within_usize, value_usize, within_bind, within_readSegment, and_iff_left (within_pure _),
      and_iff_right (by omega)]
  rw [hloop]
  constructor
  · intro hrows hw hh'
    have hlast := hrows (h - 1) (mem_range.mpr (by omega))
    omega
  · intro hlast row hrow
    have hrow := mem_range.mp hrow
    by_cases hw : w = 0
    · exact .inl (by omega)
    · have hmono : (srcY + row) * stride ≤ (srcY + (h - 1)) * stride := Nat.mul_le_mul_right stride (by omega)
      have hend := hlast hw (by omega)
      exact .inr (by omega)

theorem value_takeRows (seg : Bytes) (base srcX srcY stride w h : Nat) :
    (takeRows seg base srcX srcY stride w h).value =
      (List.range h).foldl (fun pixels row => overwrite pixels (row * w * 4)
        (slice seg (base + ((srcY + row) * stride + srcX * 4)) (w * 4))) (List.replicate (w * h * 4) 0) := by
  rw [takeRows, value_foldlM]
  rfl

theorem drop_swapBr (b : Bytes) (k : Nat) : (swapBr b).drop (k * 4) = swapBr (b.drop (k * 4)) := by
  induction k generalizing b with
  | zero => rw [Nat.zero_mul, drop_zero, drop_zero]
  | succ k ih =>
    match b with
    | r :: g :: b :: a :: rest =>
      rw [Nat.succ_mul]
      exact ih rest
    | [] | [_] | [_, _] | [_, _, _] =>
      rw [drop_of_length_le, drop_of_length_le]
      · rfl
      · simp only [length_cons, length_nil]
        omega
      · simp only [swapBr, length_cons, length_nil]
        omega

theorem take_swapBr (b : Bytes) : (swapBr b).take 4 = swapBr (b.take 4) := by
  match b with
  | r :: g :: b :: a :: rest => rfl
  | [] | [_] | [_, _] | [_, _, _] => rfl

theorem imagePixel_swapBr (image : Bytes) (w col row : Nat) :
    imagePixel (swapBr image) w col row = swapBr (imagePixel image w col row) := by
  rw [imagePixel, imagePixel, slice, slice, drop_swapBr, take_swapBr]

theorem length_swapBr (b : Bytes) : (swapBr b).length = b.length := by
  match b with
  | b :: g :: r :: a :: rest => exact congrArg (· + 4) (length_swapBr rest)
  | [] | [_] | [_, _] | [_, _, _] => rfl

theorem length_takeRows (hrows : ∀ row < h, base + ((srcY + row) * stride + srcX * 4) + w * 4 ≤ seg.length) :
    (takeRows seg base srcX srcY stride w h).value.length = w * h * 4 := by
  rw [value_takeRows]
  have hkeep := ChangesOnly.foldl (S := Set.univ) (a := List.replicate (w * h * 4) (0 : UInt8))
    (f := fun pixels row => overwrite pixels (row * w * 4)
      (slice seg (base + ((srcY + row) * stride + srcX * 4)) (w * 4))) (List.range h) ?_
  · rw [hkeep.length, length_replicate]
  · intro b hb row hrow
    have hrow := mem_range.mp hrow
    have hfit : row * w + w ≤ w * h := by
      rw [← Nat.succ_mul, Nat.mul_comm w]
      exact Nat.mul_le_mul_right w hrow
    refine (overwrite_changesOnly ?_).mono (Set.subset_univ _)
    rw [length_slice (hrows row hrow), hb, length_replicate]
    omega

theorem imagePixel_takeRows {i j : Nat}
    (hrows : ∀ row < h, base + ((srcY + row) * stride + srcX * 4) + w * 4 ≤ seg.length) (hi : i < w) (hj : j < h) :
    imagePixel (takeRows seg base srcX srcY stride w h).value w i j =
      slice seg (base + ((srcY + j) * stride + (srcX + i) * 4)) 4 := by
  have hfit : ∀ row < h, row * w * 4 + w * 4 ≤ w * h * 4 := by
    intro row hrow
    have hmul : row * w + w ≤ w * h := by
      rw [← Nat.succ_mul, Nat.mul_comm w]
      exact Nat.mul_le_mul_right w hrow
    omega
  have hpart : ∀ p : Bytes, p.length = w * h * 4 → ∀ row < h,
      row * w * 4 + (slice seg (base + ((srcY + row) * stride + srcX * 4)) (w * 4)).length ≤ p.length := by
    intro p hp row hrow
    rw [length_slice (hrows row hrow), hp]
    exact hfit row hrow
  rw [value_takeRows]
  refine (part_foldl_range (r := j) (v := slice seg (base + ((srcY + j) * stride + (srcX + i) * 4)) 4)
    (fun p => imagePixel p w i j) (fun p => p.length = w * h * 4) length_replicate ?_ ?_ ?_).trans (if_pos hj)
  · intro p hp row hrow
    rw [length_overwrite (hpart p hp row hrow), hp]
  · intro p hp row hrow hne
    refine slice_overwrite_disjoint (hpart p hp row hrow) ?_
    rw [length_slice (hrows row hrow)]
    rcases Nat.lt_or_gt_of_ne hne with hlt | hgt
    · have hmul : row * w + w ≤ j * w := by
        rw [← Nat.succ_mul]
        exact Nat.mul_le_mul_right w hlt
      exact .inr (by omega)
    · have hmul : j * w + w ≤ row * w := by
        rw [← Nat.succ_mul]
        exact Nat.mul_le_mul_right w hgt
      exact .inl (by omega)
  · intro p hp _ _
    refine slice_congr fun b hb => ?_
    rw [getElem?_overwrite (hpart p hp j hj), length_slice (hrows j hj), if_pos (by omega), getElem?_slice (by omega)]
    congr 1
    omega

theorem within_putImage {x y : Int16} {width height : UInt16} :
    Within ok (putImage fb x y width height image) ↔ (TakesNegation fb x y width height → x.toInt ≠ -2 ^ 15) :=
  within_checked nofun

theorem within_drawChecked {drawable : XId} {f : Framebuffer → Checked Framebuffer} {ds : DrawableStore} :
    Within ok (drawChecked drawable f ds) ↔ ∀ fb, getFramebuffer ds drawable = some fb → Within ok (f fb) := by
  rw [drawChecked]
  cases getFramebuffer ds drawable with
  | none => exact iff_of_true (within_pure _) fun fb h => by cases h
  | some fb => simp only [within_bind, within_pure, and_true, Option.some.injEq, forall_eq']

theorem value_drawChecked {drawable : XId} {f : Framebuffer → Checked Framebuffer} {ds : DrawableStore}
    (hfb : getFramebuffer ds drawable = some fb) :
    getFramebuffer (drawChecked drawable f ds).value drawable = some (f fb).value := by
  rw [drawChecked, hfb]
  change getFramebuffer (drawOn drawable (fun _ => (f fb).value) ds) drawable = _
  rw [getFramebuffer_drawOn, if_pos rfl, hfb]
  rfl

def sourceRows (seg : Bytes) (req : PutImageRequest) : Checked Bytes :=
  takeRows seg req.offset.toNat req.srcX.toNat req.srcY.toNat (req.totalWidth.toNat * 4) req.srcWidth.toNat
    req.srcHeight.toNat

theorem within_handlePutImage (hseg : c.segments.lookup req.shmseg = some seg)
    (hend : req.offset.toNat + req.totalWidth.toNat * 4 * (req.srcY.toNat + req.srcHeight.toNat) ≤ seg.length) :
    Within (fun _ => True) (handlePutImage c req) ↔
      (req.srcWidth.toNat ≠ 0 → req.srcHeight.toNat ≠ 0 →
        req.offset.toNat + ((req.srcY.toNat + (req.srcHeight.toNat - 1)) * (req.totalWidth.toNat * 4) +
          req.srcX.toNat * 4) + req.srcWidth.toNat * 4 ≤ seg.length) ∧
      ∀ fb, getFramebuffer c.drawables req.drawable = some fb →
        TakesNegation fb req.dstX req.dstY req.srcWidth req.srcHeight → req.dstX.toInt ≠ -2 ^ 15 := by
  have htotal := req.totalWidth.toNat_lt
  have hx := req.srcX.toNat_lt
  have hy := req.srcY.toNat_lt
  have hw := req.srcWidth.toNat_lt
  have hh := req.srcHeight.toNat_lt
  have hoff := req.offset.toNat_lt
  have hregion : req.totalWidth.toNat * 4 * (req.srcY.toNat + req.srcHeight.toNat) ≤ 2 ^ 18 * 2 ^ 17 :=
    Nat.mul_le_mul (by omega) (by omega)
  have hsize : req.srcWidth.toNat * req.srcHeight.toNat ≤ 2 ^ 16 * 2 ^ 16 := Nat.mul_le_mul (by omega) (by omega)
  rw [handlePutImage, hseg]
  dsimp only
  rw [within_bind, within_usize, value_usize, within_bind, within_usize, value_usize, within_bind, within_usize,
    value_usize, and_iff_right (by omega), and_iff_right (by omega), and_iff_right (by omega), within_ite,
    if_neg (by omega), within_bind, within_usize, value_usize, and_iff_right (by omega), within_bind, within_alloc,
    and_iff_right trivial, within_bind, within_takeRows (by omega) hx hy hh, within_bind, within_drawChecked,
    and_iff_left (within_pure _)]
  simp only [within_putImage]

theorem getFramebuffer_handlePutImage (hdrw : Draws c req seg fb) :
    getFramebuffer (handlePutImage c req).value.2.drawables req.drawable =
      some (fb.putImage req.dstX req.dstY req.srcWidth req.srcHeight (swapBr (sourceRows seg req).value)) := by
  obtain ⟨hseg, hend, hfb, -, -⟩ := hdrw
  rw [handlePutImage, hseg]
  dsimp only
  rw [value_bind, value_usize, value_bind, value_usize, value_bind, value_usize, if_neg (by omega)]
  exact value_drawChecked hfb

theorem within_refused
    (h : ∀ seg, c.segments.lookup req.shmseg = some seg →
      seg.length < req.offset.toNat + req.totalWidth.toNat * 4 * (req.srcY.toNat + req.srcHeight.toNat)) :
    Within (fun _ => True) (handlePutImage c req) := by
  have htotal := req.totalWidth.toNat_lt
  have hy := req.srcY.toNat_lt
  have hh := req.srcHeight.toNat_lt
  have hoff := req.offset.toNat_lt
  have hregion : req.totalWidth.toNat * 4 * (req.srcY.toNat + req.srcHeight.toNat) ≤ 2 ^ 18 * 2 ^ 17 :=
    Nat.mul_le_mul (by omega) (by omega)
  rw [handlePutImage]
  cases hseg : c.segments.lookup req.shmseg with
  | none => exact within_pure _
  | some seg =>
    dsimp only
    rw [within_bind, within_usize, value_usize, within_bind, within_usize, value_usize, within_bind, within_usize,
      value_usize, and_iff_right (by omega), and_iff_right (by omega), and_iff_right (by omega), if_pos (h seg hseg)]
    exact within_pure _

theorem within_syncShmPixmap (drawable : XId) :
    Within (fun _ => True) (syncShmPixmap drawable c) := by
  rw [syncShmPixmap]
  dsimp only
  split
  · next pix backing seg _ hbacking =>
    obtain ⟨b, -, hmap⟩ := Option.bind_eq_some_iff.mp hbacking
    obtain ⟨seg', -, hpair⟩ := Option.map_eq_some_iff.mp hmap
    obtain ⟨rfl, rfl⟩ := Prod.mk.inj hpair
    have hoffset := b.fits
    have hwd := pix.width.toNat_lt
    have hht := pix.height.toNat_lt
    have htotal : pix.width.toNat * 4 * pix.height.toNat ≤ 2 ^ 18 * 2 ^ 16 := Nat.mul_le_mul (by omega) (by omega)
    rw [within_bind, within_usize, value_usize, within_bind, within_usize, value_usize, and_iff_right (by omega),
      and_iff_right (by omega), within_ite]
    split
    · exact within_pure _
    · rw [within_bind, within_readSegment, and_iff_left (within_pure _)]
      exact .inr (by omega)
  · exact within_pure _

theorem within_handleGetImage (req : GetImageRequest) :
    Within (fun _ => True) (handleGetImage c req) := by
  have hwd := req.width.toNat_lt
  have hht := req.height.toNat_lt
  have hoffset := req.offset.toNat_lt
  have hsize : req.width.toNat * req.height.toNat ≤ 65535 * 65535 := Nat.mul_le_mul (by omega) (by omega)
  have htotal : req.width.toNat * 4 * req.height.toNat ≤ 2 ^ 18 * 2 ^ 16 := Nat.mul_le_mul (by omega) (by omega)
  have hans : Within (fun _ => True) (checked (req.width.toNat * req.height.toNat)
      (req.width.toNat * req.height.toNat < 2 ^ 32) .overflow) := by
    refine (within_checked ?_).mpr (by omega)
    exact fun h => h
  rw [handleGetImage, within_bind, and_iff_right (within_syncShmPixmap req.drawable), within_bind,
    and_iff_right hans]
  dsimp only
  split
  · exact within_pure _
  · rw [within_bind, within_usize, value_usize, within_bind, within_usize, value_usize, and_iff_right (by omega),
      and_iff_right (by omega), within_ite]
    split
    · rw [within_bind, within_writeSegment, and_iff_left (within_pure _), length_take]
      exact .inr (by omega)
    · exact within_pure _

theorem pixelAt_putRows (hwell : WellFormed fb)
    (hlast : req.offset.toNat + ((req.srcY.toNat + (req.srcHeight.toNat - 1)) * (req.totalWidth.toNat * 4) +
      req.srcX.toNat * 4) + req.srcWidth.toNat * 4 ≤ seg.length)
    (hneg : TakesNegation fb req.dstX req.dstY req.srcWidth req.srcHeight → req.dstX.toInt ≠ -2 ^ 15) :
    ∀ i < req.srcWidth.toNat, ∀ j < req.srcHeight.toNat, ∀ col < fb.width, ∀ row < fb.height,
      (col : Int) = req.dstX.toInt + i → (row : Int) = req.dstY.toInt + j →
        pixelAt (fb.putImage req.dstX req.dstY req.srcWidth req.srcHeight (swapBr (sourceRows seg req).value)) col row =
          segmentPixel seg req (req.srcX.toNat + i) (req.srcY.toNat + j) := by
  intro i hi j hj col hcol row hrow hcolumn hline
  have hrows : ∀ k < req.srcHeight.toNat, req.offset.toNat + ((req.srcY.toNat + k) * (req.totalWidth.toNat * 4) +
      req.srcX.toNat * 4) + req.srcWidth.toNat * 4 ≤ seg.length := by
    intro k hk
    have hmono : (req.srcY.toNat + k) * (req.totalWidth.toNat * 4) ≤
        (req.srcY.toNat + (req.srcHeight.toNat - 1)) * (req.totalWidth.toNat * 4) :=
      Nat.mul_le_mul_right _ (by omega)
    omega
  have himg : req.srcWidth.toNat * req.srcHeight.toNat * 4 ≤ (swapBr (sourceRows seg req).value).length := by
    rw [length_swapBr, sourceRows, length_takeRows hrows]
  have hmin : req.dstX.toInt ≠ -2 ^ 15 := by
    intro hmin
    exact hneg ⟨by omega, by omega, j, hj, by omega, by omega⟩ hmin
  have hon : OnImage req.dstX req.dstY req.srcWidth req.srcHeight col row := ⟨hmin, by omega, by omega⟩
  have hi' : (col - req.dstX.toInt).toNat = i := by omega
  have hj' : (row - req.dstY.toInt).toNat = j := by omega
  rw [pixelAt_putImage hwell himg hcol hrow, if_pos hon, hi', hj', imagePixel_swapBr, sourceRows,
    imagePixel_takeRows hrows hi hj, segmentPixel]
  have hoff : req.offset.toNat + ((req.srcY.toNat + j) * (req.totalWidth.toNat * 4) + (req.srcX.toNat + i) * 4) =
      req.offset.toNat + ((req.srcY.toNat + j) * req.totalWidth.toNat + (req.srcX.toNat + i)) * 4 := by
    rw [← Nat.mul_assoc, ← Nat.add_mul]
  rw [hoff]

/-- A request is safe exactly if it fits, and a GetImage always is. -/
theorem safe_iff_fits (c : ShmClient) (hwell : AllWellFormed c.drawables) (r : Request) : Safe c r ↔ Fits c r := by
  cases r with
  | getImage req => exact iff_of_true (within_handleGetImage req) trivial
  | putImage req =>
    constructor
    · intro hsafe seg hseg hend hw hh
      obtain ⟨hrows, hneg⟩ := (within_handlePutImage hseg hend).mp hsafe.within
      exact ⟨hrows hw hh, fun fb hfb => ⟨hsafe.inside seg fb ⟨hseg, hend, hfb, hw, hh⟩, hneg fb hfb⟩⟩
    · intro hfits
      refine ⟨?_, ?_, ?_⟩
      · by_cases hpass : ∃ seg, c.segments.lookup req.shmseg = some seg ∧
            req.offset.toNat + req.totalWidth.toNat * 4 * (req.srcY.toNat + req.srcHeight.toNat) ≤ seg.length
        · obtain ⟨seg, hseg, hend⟩ := hpass
          refine (within_handlePutImage hseg hend).mpr
            ⟨fun hw hh => (hfits seg hseg hend hw hh).1, fun fb hfb hneg => ?_⟩
          obtain ⟨hw, -, row, hrow, -⟩ := id hneg
          exact ((hfits seg hseg hend hw (by omega)).2 fb hfb).2 hneg
        · refine within_refused fun seg hseg => Nat.lt_of_not_le fun hend => hpass ⟨seg, hseg, hend⟩
      · rintro seg fb ⟨hseg, hend, hfb, hw, hh⟩
        exact ((hfits seg hseg hend hw hh).2 fb hfb).1
      · intro seg fb hdrw
        refine ⟨_, getFramebuffer_handlePutImage hdrw, ?_⟩
        obtain ⟨hseg, hend, hfb, hw, hh⟩ := hdrw
        obtain ⟨hlast, hfit⟩ := hfits seg hseg hend hw hh
        exact pixelAt_putRows (hwell.framebuffer hfb) hlast (hfit fb hfb).2

/-- A client with this segment, and a pixmap of one pixel. -/
def attached (seg : Bytes) : ShmClient where
  drawables := ⟨∅, (∅ : HashMap XId Pixmap).insert 7 ⟨1, 1, 24, Framebuffer.new 1 1, none⟩, fun _ => none⟩
  segments := (∅ : HashMap XId Bytes).insert 1 seg
  shmBacking := fun _ => none

theorem lookup_attached (seg : Bytes) : (attached seg).segments.lookup 1 = some seg := Finmap.lookup_insert _

theorem attached_wellFormed (seg : Bytes) : AllWellFormed (attached seg).drawables := by
  refine ⟨fun w win h => by simp [attached] at h, fun p pix h => ?_⟩
  rw [attached, lookup_insert_eq] at h
  split at h
  · cases h
    exact new_wellFormed 1 1
  · simp at h

/-- A row of one pixel, taken from column `srcX` of an image of width 1. -/
def putPixel (srcX : UInt16) : PutImageRequest := ⟨7, 0, 1, 1, srcX, 0, 1, 1, 0, 0, 24, 2, false, 1, 0⟩

theorem safe_putPixel : Safe (attached [1, 2, 3, 4]) (.putImage (putPixel 0)) := by
  refine (safe_iff_fits (attached [1, 2, 3, 4]) (attached_wellFormed _) (.putImage (putPixel 0))).mpr ?_
  intro seg hseg _ _ _
  obtain rfl : [1, 2, 3, 4] = seg := Option.some.inj ((lookup_attached _).symm.trans hseg)
  exact ⟨by decide, fun fb _ => ⟨⟨by decide, by decide⟩, fun _ => by decide⟩⟩

/-- A rectangle right of the image is read behind the end of the segment. -/
theorem putPixel_outside : ¬ ∀ (c : ShmClient) (r : Request), AllWellFormed c.drawables → Safe c r := by
  intro h
  have hsafe : PutSafe (attached [1, 2, 3, 4]) (putPixel 1) := h _ (.putImage (putPixel 1)) (attached_wellFormed _)
  have hrows := ((within_handlePutImage (lookup_attached [1, 2, 3, 4]) (by decide)).mp hsafe.within).1
    (by decide) (by decide)
  revert hrows
  decide

end X11Web.SharedImages
