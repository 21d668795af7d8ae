import X11Web.CopyRequests

namespace X11Web.CopyArea

open Option

open HashMaps Windows Overwrites Pixels DirtyMirror ImagePixels
  X11Web.ExtractPixels X11Web.BlitPixels X11Web.Compositing X11Web.Drawables X11Web.CopyRequests
open DrawRequests (rgbaAt)

def childPixel (child : PaintedWindow) (col row : Int) : Option Bytes :=
  if (child.x ≤ col ∧ col < child.x + child.width) ∧ (child.y ≤ row ∧ row < child.y + child.height) then
    let off := ((row - child.y).toNat * child.width + (col - child.x).toNat) * 4
    if off + 3 < child.framebuffer.data.length then some (slice child.framebuffer.data off 4) else none
  else none

def childRgba (childData : Bytes) (_ : Bytes) (_ _ : Int) (srcOff _ : Nat) : Option Rgba :=
  if srcOff + 3 < childData.length then some (rgbaAt childData srcOff) else none

theorem bytes_rgbaAt {data : Bytes} {off : Nat} (h : off + 3 < data.length) :
    (rgbaAt data off).bytes = slice data off 4 := by
  apply List.ext_getElem?
  intro i
  have hget : ∀ k < 4, (slice data off 4)[k]? = some (data.getD (off + k) 0) := by
    intro k hk
    rw [getElem?_slice hk, List.getD_eq_getElem?_getD, List.getElem?_eq_getElem (by omega), getD_some]
  by_cases hi : i < 4
  · rw [hget i hi]
    match i, hi with
    | 0, _ | 1, _ | 2, _ | 3, _ => rfl
  · rw [List.getElem?_eq_none (by simp [Rgba.bytes]; omega), slice, List.getElem?_take, if_neg hi]

variable {result : Bytes} {w h col row : Nat}

def sheet (result : Bytes) (w h : Nat) : Framebuffer := ⟨result, w, h, w * 4, none⟩

theorem sheet_wellFormed (hresult : result.length = w * h * 4) : WellFormed (sheet result w h) :=
  ⟨rfl, by rw [sheet, hresult, Nat.mul_comm w, Nat.mul_assoc], fun _ hd => nomatch hd⟩

variable (child : PaintedWindow)

theorem blitChild_rows (x y : Int16) (w h : Nat) (result : Bytes) :
    blitChild child x y w h result = (List.range child.height).foldl
      (blitRow (sheet result w h) (child.x - x.toInt) (child.y - y.toInt) child.width
        (childRgba child.framebuffer.data)) result := by
  have hcell : ∀ r c w : Nat, (r * w + c) * 4 = r * (w * 4) + c * 4 := by
    intro r c w
    rw [Nat.add_mul, Nat.mul_assoc]
  simp only [blitChild, hcell]
  congr 1
  funext data r
  simp only [blitRow, sub_add_eq_add_sub]
  refine if_congr Iff.rfl rfl ?_
  congr 1
  funext data c
  simp only [blitCell, sub_add_eq_add_sub]
  refine if_congr Iff.rfl rfl ?_
  simp only [sheet, childRgba]
  obtain ⟨dstOff, hoff⟩ : ∃ off, off = (child.y + r - y.toInt).toNat * (w * 4) + (child.x + c - x.toInt).toNat * 4 :=
    ⟨_, rfl⟩
  simp only [← hoff]
  by_cases hdst : data.length ≤ dstOff + 3
  · rw [if_pos hdst, if_neg (by omega)]
  · rw [if_neg hdst]
    by_cases hsrc : r * (child.width * 4) + c * 4 + 3 < child.framebuffer.data.length
    · rw [if_pos hsrc, if_pos (by omega)]
      dsimp only
      rw [bytes_rgbaAt hsrc]
    · rw [if_neg hsrc, if_neg (by omega)]

theorem length_blitChild (x y : Int16) (w h : Nat) (result : Bytes) :
    (blitChild child x y w h result).length = result.length := by
  rw [blitChild_rows]
  exact (ChangesOnly.foldl (S := Set.univ) _ fun b _ r _ =>
    ⟨length_blitRow _ _ _ _ _ b r, fun i hi => absurd (Set.mem_univ i) hi⟩).length

theorem imagePixel_blitChild (x y : Int16) (hresult : result.length = w * h * 4)
    (hcol : col < w) (hrow : row < h) :
    imagePixel (blitChild child x y w h result) w col row =
      (childPixel child (x.toInt + col) (y.toInt + row)).getD (imagePixel result w col row) := by
  have hreads : ReadsPixel (childRgba child.framebuffer.data) := fun _ _ _ _ _ _ _ => rfl
  have hslice := @blitRows_slice (sheet result w h) result col row (childRgba child.framebuffer.data)
    (child.x - x.toInt) (child.y - y.toInt) child.width child.height (sheet_wellFormed hresult) hreads hcol hrow rfl
  have hoff : ∀ data : Bytes, slice data (row * (sheet result w h).stride + col * 4) 4 = imagePixel data w col row :=
    fun data => imagePixel_offset data w col row
  rw [hoff, hoff, ← blitChild_rows] at hslice
  have hcolumn : (col - (child.x - x.toInt)) = x.toInt + col - child.x := by omega
  have hline : (row - (child.y - y.toInt)) = y.toInt + row - child.y := by omega
  rw [hslice, childPixel, childRgba, hcolumn, hline]
  by_cases hin : (child.x ≤ x.toInt + col ∧ x.toInt + col < child.x + child.width) ∧
      (child.y ≤ y.toInt + row ∧ y.toInt + row < child.y + child.height)
  · rw [if_pos hin, if_pos (by omega), ← Nat.mul_assoc, ← Nat.add_mul]
    dsimp only
    split
    · next hoff =>
      rw [elim_some, getD_some, bytes_rgbaAt hoff]
    · rfl
  · rw [if_neg hin, if_neg (by omega)]
    rfl

def topmostPixel (children : List PaintedWindow) (col row : Int) : Option Bytes :=
  children.foldl (fun below child => (childPixel child col row).or below) none

theorem length_blitChildren (children : List PaintedWindow) (x y : Int16) (w h : Nat) (result : Bytes) :
    (children.foldl (fun result child => blitChild child x y w h result) result).length = result.length := by
  induction children generalizing result with
  | nil => rfl
  | cons child children ih => exact (ih _).trans (length_blitChild ..)

theorem imagePixel_blitChildren (children : List PaintedWindow) (x y : Int16) (hcol : col < w) (hrow : row < h)
    (hresult : result.length = w * h * 4) :
    imagePixel (children.foldl (fun result child => blitChild child x y w h result) result) w col row =
      (topmostPixel children (x.toInt + col) (y.toInt + row)).getD (imagePixel result w col row) := by
  suffices hall : ∀ (base : Bytes) (below : Option Bytes) (result : Bytes), result.length = w * h * 4 →
      imagePixel result w col row = below.getD base →
      imagePixel (children.foldl (fun result child => blitChild child x y w h result) result) w col row =
        (children.foldl (fun below child => (childPixel child (x.toInt + col) (y.toInt + row)).or below)
          below).getD base from hall _ none result hresult rfl
  intro base
  induction children with
  | nil => exact fun below result hresult hbel => hbel
  | cons child children ih =>
    intro below result hresult hbel
    refine ih _ _ ((length_blitChild ..).trans hresult) ?_
    rw [imagePixel_blitChild child x y hresult hcol hrow, hbel]
    dsimp only
    cases childPixel child (x.toInt + col) (y.toInt + row) with
    | none => rw [getD_none, none_or]
    | some p => rw [getD_some, some_or, getD_some]

section Request

variable (req : CopyAreaRequest) (gc : CopyGc) (ds : DrawableStore)

def IncludesInferiors : Prop :=
  gc.subwindowMode = SubwindowMode.includeInferiors ∧ req.srcDrawable ∈ ds.windows

instance : Decidable (IncludesInferiors req gc ds) := inferInstanceAs (Decidable (_ ∧ _))

def sourceFramebuffer : Option Framebuffer :=
  if IncludesInferiors req gc ds then (ds.windows.lookup req.srcDrawable).map (·.framebuffer)
  else getFramebuffer ds req.srcDrawable

/-- A pixel of the source, its own one taken from the column `own`. -/
def sourcePixel (fb : Framebuffer) (own col row : Int) : Bytes :=
  (if IncludesInferiors req gc ds then
    (ds.windows.lookup req.srcDrawable).bind fun win => topmostPixel (mappedChildren ds.windows win) col row
  else none).getD (copiedAt fb own row)

def sourcePixels : Option Bytes :=
  if IncludesInferiors req gc ds then
    some (extractPixelsIncludeInferiors ds req.srcDrawable req.srcX req.srcY req.width req.height)
  else (getFramebuffer ds req.srcDrawable).map (·.extractPixels req.srcX req.srcY req.width req.height)

/-- The pixels are copied as they are, whatever the function and the planes. -/
def Plain : Prop :=
  gc.clipRects = [] ∧
    ((req.srcDrawable = req.dstDrawable ∧ ¬ IncludesInferiors req gc ds) ∨ gc.function = GX.copy)

instance : Decidable (Plain req gc ds) := inferInstanceAs (Decidable (_ ∧ _))

def putCopied (pixels : Bytes) (fb : Framebuffer) : Framebuffer :=
  if Plain req gc ds then fb.putImage req.dstX req.dstY req.width req.height pixels
  else fb.putImageGc req.dstX req.dstY req.width req.height pixels gc.function gc.planeMask gc.clipRects

/-- A copied pixel, from the source pixel that is taken and the one that was there. -/
def copiedResult (source old : Bytes) : Bytes :=
  if Plain req gc ds then if req.dstX.toInt = -2 ^ 15 then old else source
  else combined gc.function gc.planeMask (colorOf source) old

variable {req gc ds} {fb : Framebuffer}

theorem sourceFramebuffer_wellFormed (h : AllWellFormed ds)
    (hfb : sourceFramebuffer req gc ds = some fb) : WellFormed fb := by
  rw [sourceFramebuffer] at hfb
  split at hfb
  · obtain ⟨win, hwin, rfl⟩ := map_eq_some_iff.mp hfb
    exact h.windows _ win hwin
  · exact h.framebuffer hfb

/-- Where the rectangle begins left of the source, the source's own pixels are those of
the columns from 0 on. -/
theorem sourcePixels_eq (h : AllWellFormed ds) (hfb : sourceFramebuffer req gc ds = some fb) :
    ∃ pixels, sourcePixels req gc ds = some pixels ∧
      pixels.length = req.width.toNat * req.height.toNat * 4 ∧
      ∀ i < req.width.toNat, ∀ j < req.height.toNat, imagePixel pixels req.width.toNat i j =
        sourcePixel req gc ds fb (max req.srcX.toInt 0 + i) (req.srcX.toInt + i) (req.srcY.toInt + j) := by
  have hwell := sourceFramebuffer_wellFormed h hfb
  rw [sourceFramebuffer] at hfb
  by_cases hincl : IncludesInferiors req gc ds
  · rw [if_pos hincl] at hfb
    obtain ⟨win, hwin, rfl⟩ := map_eq_some_iff.mp hfb
    have hlen := @length_extractPixels win.framebuffer req.srcX req.srcY req.width req.height
    refine ⟨_, if_pos hincl, ?_, fun i hi j hj => ?_⟩
    · rw [extractPixelsIncludeInferiors, hwin]
      exact (length_blitChildren ..).trans hlen
    · rw [extractPixelsIncludeInferiors, hwin, sourcePixel, if_pos hincl, hwin, bind_some,
        ← imagePixel_extractPixels_at hwell hi hj]
      exact imagePixel_blitChildren (mappedChildren ds.windows win) req.srcX req.srcY hi hj hlen
  · rw [if_neg hincl] at hfb
    refine ⟨_, by rw [sourcePixels, if_neg hincl, hfb]; rfl, length_extractPixels, fun i hi j hj => ?_⟩
    rw [sourcePixel, if_neg hincl]
    exact imagePixel_extractPixels_at hwell hi hj

theorem copyAreaSelf_eq (fb : Framebuffer) (srcX srcY dstX dstY : Int16) (width height : UInt16) :
    fb.copyAreaSelf srcX srcY dstX dstY width height =
      fb.putImage dstX dstY width height (fb.extractPixels srcX srcY width height) := by
  rw [Framebuffer.copyAreaSelf]
  by_cases hemp : width.toNat = 0 ∨ height.toNat = 0
  · rw [if_pos hemp, Framebuffer.putImage]
    dsimp only
    rw [if_pos (by tauto)]
  · rw [if_neg hemp]

theorem copyPixels_eq (hdepth : ∀ pix, ds.pixmaps.lookup req.srcDrawable = some pix → pix.depth = 24)
    {pixels : Bytes} (hpx : sourcePixels req gc ds = some pixels) :
    ∃ f, copyPixels req gc ds = drawOn req.dstDrawable f ds ∧
      ∀ fb, getFramebuffer ds req.dstDrawable = some fb → f fb = putCopied req gc ds pixels fb := by
  have hdeep : ¬ (((ds.pixmaps.lookup req.srcDrawable).map (·.depth)).getD 24 ≤ 1 ∧ gc.function ≠ GX.copy) := by
    rintro ⟨hle, -⟩
    cases hpix : ds.pixmaps.lookup req.srcDrawable with
    | none => rw [hpix] at hle; exact absurd hle (by decide)
    | some pix =>
      rw [hpix, map_some, getD_some, hdepth pix hpix] at hle
      exact absurd hle (by decide)
  rw [copyPixels]
  dsimp only
  by_cases hself : req.srcDrawable = req.dstDrawable ∧ ¬ IncludesInferiors req gc ds
  · have hsource : ∀ fb, getFramebuffer ds req.dstDrawable = some fb →
        fb.extractPixels req.srcX req.srcY req.width req.height = pixels := by
      intro fb hfb
      rw [sourcePixels, if_neg hself.2, hself.1, hfb] at hpx
      exact some.inj hpx
    rw [if_pos (by exact hself), hself.1]
    by_cases hclip : gc.clipRects = []
    · refine ⟨_, if_neg (by rw [hclip]; exact fun h => h rfl), fun fb hfb => ?_⟩
      rw [putCopied, if_pos ⟨hclip, .inl hself⟩, copyAreaSelf_eq, hsource fb hfb]
    · refine ⟨_, if_pos hclip, fun fb hfb => ?_⟩
      rw [putCopied, if_neg fun hplain => hclip hplain.1, hsource fb hfb]
  · have htkn : (if gc.subwindowMode = SubwindowMode.includeInferiors ∧ req.srcDrawable ∈ ds.windows then
          some (extractPixelsIncludeInferiors ds req.srcDrawable req.srcX req.srcY req.width req.height)
        else (getFramebuffer ds req.srcDrawable).map (·.extractPixels req.srcX req.srcY req.width req.height)) =
        some pixels := hpx
    rw [if_neg (by exact hself), htkn]
    dsimp only
    rw [if_neg hdeep]
    by_cases hplain : Plain req gc ds
    · have hcopy := hplain.2.resolve_left hself
      refine ⟨_, if_neg (by rw [hcopy, hplain.1]; simp), fun fb _ => ?_⟩
      rw [putCopied, if_pos hplain]
    · have hgen : gc.function ≠ GX.copy ∨ gc.clipRects ≠ [] := by
        by_contra hnot
        push Not at hnot
        exact hplain ⟨hnot.2, .inr hnot.1⟩
      refine ⟨_, if_pos hgen, fun fb _ => ?_⟩
      rw [putCopied, if_neg hplain]

theorem putCopied_draws (h : WellFormed fb) (pixels : Bytes) : Draws fb (putCopied req gc ds pixels fb) := by
  rw [putCopied]
  split
  · exact Drawing.apply_draws h (.putImage req.dstX req.dstY req.width req.height pixels)
  · exact Drawing.apply_draws h
      (.putImageGc req.dstX req.dstY req.width req.height pixels gc.function gc.planeMask gc.clipRects)

theorem pixelAt_putCopied (h : WellFormed fb) {pixels : Bytes}
    (hlen : pixels.length = req.width.toNat * req.height.toNat * 4) (hcol : col < fb.width)
    (hrow : row < fb.height) :
    pixelAt (putCopied req gc ds pixels fb) col row =
      if OnRect req.dstX req.dstY req.width req.height col row ∧ ¬ clippedAway col row gc.clipRects then
        copiedResult req gc ds (imagePixel pixels req.width.toNat (col - req.dstX.toInt).toNat
          (row - req.dstY.toInt).toNat) (pixelAt fb col row)
      else pixelAt fb col row := by
  rw [putCopied, copiedResult]
  by_cases hplain : Plain req gc ds
  · have hclip : ¬ clippedAway col row gc.clipRects := by simp [hplain.1, clippedAway]
    rw [if_pos hplain, if_pos hplain, pixelAt_putImage h hlen.ge hcol hrow]
    by_cases hon : OnRect req.dstX req.dstY req.width req.height col row
    · by_cases hmin : req.dstX.toInt = -2 ^ 15
      · rw [if_neg fun hin : OnImage _ _ _ _ col row => hin.1 hmin, if_pos ⟨hon, hclip⟩, if_pos hmin]
      · rw [if_pos (show OnImage _ _ _ _ col row from ⟨hmin, hon⟩), if_pos ⟨hon, hclip⟩, if_neg hmin]
    · rw [if_neg fun hin : OnImage _ _ _ _ col row => hon hin.2, if_neg fun hin => hon hin.1]
  · rw [if_neg hplain, if_neg hplain]
    exact pixelAt_putImageGc h hlen.ge (fun hfast => hplain ⟨hfast.2.2, .inr hfast.1⟩) hcol hrow

theorem getFramebuffer_copyPixels_none (hsource : sourceFramebuffer req gc ds = none) (d : XId) :
    getFramebuffer (copyPixels req gc ds) d = getFramebuffer ds d := by
  have hincl : ¬ IncludesInferiors req gc ds := by
    intro hincl
    obtain ⟨win, hwin⟩ := isSome_iff_exists.mp (Finmap.lookup_isSome.mpr hincl.2)
    rw [sourceFramebuffer, if_pos hincl, hwin] at hsource
    exact absurd hsource (by simp)
  rw [sourceFramebuffer, if_neg hincl] at hsource
  rw [copyPixels]
  dsimp only
  by_cases hself : req.srcDrawable = req.dstDrawable ∧ ¬ IncludesInferiors req gc ds
  · rw [if_pos (by exact hself)]
    have hsame : ∀ f, getFramebuffer (drawOn req.srcDrawable f ds) d = getFramebuffer ds d := by
      intro f
      rw [getFramebuffer_drawOn]
      split
      · next htgt => rw [getFramebuffer_congr htgt, hsource, map_none]
      · rfl
    split <;> exact hsame _
  · rw [if_neg (by exact hself), if_neg (by exact hincl), hsource]
    rfl

end Request

/-- The colour of a pixel that a source pixel is combined with. -/
def specifiedColor (gc : CopyGc) (source old : Bytes) : UInt32 :=
  applyPlanes gc.function gc.planeMask (colorOf source) (colorOf old) &&& 0xFFFFFF

section Places

variable (req : CopyAreaRequest) (gc : CopyGc) (ds : DrawableStore) (sfb : Framebuffer) (col row : Nat)

/-- The place that the request draws on, and whose source pixel exists. -/
def Copied : Prop :=
  OnRect req.dstX req.dstY req.width req.height col row ∧ ¬ clippedAway col row gc.clipRects ∧
    (0 ≤ req.srcX.toInt + (col - req.dstX.toInt) ∧ req.srcX.toInt + (col - req.dstX.toInt) < sfb.width) ∧
    0 ≤ req.srcY.toInt + (row - req.dstY.toInt) ∧ req.srcY.toInt + (row - req.dstY.toInt) < sfb.height

def pixelFor : Bytes :=
  sourcePixel req gc ds sfb (req.srcX.toInt + (col - req.dstX.toInt)) (req.srcX.toInt + (col - req.dstX.toInt))
    (req.srcY.toInt + (row - req.dstY.toInt))

def pixelTaken : Bytes :=
  sourcePixel req gc ds sfb (max req.srcX.toInt 0 + (col - req.dstX.toInt))
    (req.srcX.toInt + (col - req.dstX.toInt)) (req.srcY.toInt + (row - req.dstY.toInt))

end Places

/-- The copy as the protocol has it, from one state of the drawables to the other. -/
structure CopiesExactly (req : CopyAreaRequest) (gc : CopyGc) (ds ds' : DrawableStore) : Prop where
  others : ∀ d, resolveDrawable ds d ≠ resolveDrawable ds req.dstDrawable → getFramebuffer ds' d = getFramebuffer ds d
  size : ∀ fb, getFramebuffer ds req.dstDrawable = some fb →
    ∃ fb', getFramebuffer ds' req.dstDrawable = some fb' ∧ fb'.width = fb.width ∧ fb'.height = fb.height
  copied : ∀ fb fb' sfb, getFramebuffer ds req.dstDrawable = some fb → getFramebuffer ds' req.dstDrawable = some fb' →
    sourceFramebuffer req gc ds = some sfb → ∀ col < fb.width, ∀ row < fb.height, Copied req gc sfb col row →
      colorOf (pixelAt fb' col row) = specifiedColor gc (pixelFor req gc ds sfb col row) (pixelAt fb col row)
  outside : ∀ fb fb', getFramebuffer ds req.dstDrawable = some fb → getFramebuffer ds' req.dstDrawable = some fb' →
    ∀ col < fb.width, ∀ row < fb.height,
      ¬ (OnRect req.dstX req.dstY req.width req.height col row ∧ ¬ clippedAway col row gc.clipRects) →
      pixelAt fb' col row = pixelAt fb col row

/-- The colour that is drawn: the plain copies leave out the function and the planes, and
at the most negative origin they draw nothing. -/
def drawnColor (req : CopyAreaRequest) (gc : CopyGc) (ds : DrawableStore) (source old : Bytes) : UInt32 :=
  if Plain req gc ds then if req.dstX.toInt = -2 ^ 15 then colorOf old else colorOf source
  else specifiedColor gc source old

theorem colorOf_copiedResult (req : CopyAreaRequest) (gc : CopyGc) (ds : DrawableStore) (source old : Bytes) :
    colorOf (copiedResult req gc ds source old) = drawnColor req gc ds source old := by
  rw [copiedResult, drawnColor]
  split
  · split <;> rfl
  · exact colorOf_unpackRgb _ _

/-- On every place that is copied to, the source pixel taken gives the colour that the
source pixel of the place gives. -/
def DrawsSpecified (req : CopyAreaRequest) (gc : CopyGc) (ds : DrawableStore) : Prop :=
  ∀ fb sfb, getFramebuffer ds req.dstDrawable = some fb → sourceFramebuffer req gc ds = some sfb →
    ∀ col < fb.width, ∀ row < fb.height, Copied req gc sfb col row →
      drawnColor req gc ds (pixelTaken req gc ds sfb col row) (pixelAt fb col row) =
        specifiedColor gc (pixelFor req gc ds sfb col row) (pixelAt fb col row)

variable {req : CopyAreaRequest} {gc : CopyGc} {ds : DrawableStore}

theorem copyPixels_pixels (hwell : AllWellFormed ds)
    (hdepth : ∀ pix, ds.pixmaps.lookup req.srcDrawable = some pix → pix.depth = 24) {sfb : Framebuffer}
    (hsource : sourceFramebuffer req gc ds = some sfb)
    (hfb : getFramebuffer ds req.dstDrawable = some fb) :
    ∃ fb', getFramebuffer (copyPixels req gc ds) req.dstDrawable = some fb' ∧ fb'.width = fb.width ∧
      fb'.height = fb.height ∧ ∀ col < fb.width, ∀ row < fb.height, pixelAt fb' col row =
        if OnRect req.dstX req.dstY req.width req.height col row ∧ ¬ clippedAway col row gc.clipRects then
          copiedResult req gc ds (pixelTaken req gc ds sfb col row) (pixelAt fb col row)
        else pixelAt fb col row := by
  obtain ⟨pixels, hpx, hlen, htkn⟩ := sourcePixels_eq hwell hsource
  obtain ⟨f, hcopy, hf⟩ := copyPixels_eq hdepth hpx
  have hfbWell := hwell.framebuffer hfb
  have hdrw := @putCopied_draws req gc ds fb hfbWell pixels
  refine ⟨putCopied req gc ds pixels fb, ?_, hdrw.width, hdrw.height, fun col hcol row hrow => ?_⟩
  · rw [hcopy, getFramebuffer_drawOn, if_pos rfl, hfb, map_some, hf fb hfb]
  · rw [pixelAt_putCopied hfbWell hlen hcol hrow]
    by_cases hin : OnRect req.dstX req.dstY req.width req.height col row ∧ ¬ clippedAway col row gc.clipRects
    · have hx := hin.1.1
      have hy := hin.1.2
      rw [if_pos hin, if_pos hin, htkn _ (by omega) _ (by omega), pixelTaken, Int.toNat_of_nonneg (by omega),
        Int.toNat_of_nonneg (by omega)]
    · rw [if_neg hin, if_neg hin]

theorem copyPixels_exact_iff (hwell : AllWellFormed ds)
    (hdepth : ∀ pix, ds.pixmaps.lookup req.srcDrawable = some pix → pix.depth = 24) :
    CopiesExactly req gc ds (copyPixels req gc ds) ↔ DrawsSpecified req gc ds := by
  cases hsource : sourceFramebuffer req gc ds with
  | none =>
    have hsame := getFramebuffer_copyPixels_none hsource
    refine ⟨fun _ fb sfb _ hsfb => ?_, fun _ => ⟨fun d _ => hsame d, fun fb hfb => ⟨fb, ?_, rfl, rfl⟩, ?_, ?_⟩⟩
    · rw [hsource] at hsfb
      exact absurd hsfb (by simp)
    · rw [hsame, hfb]
    · intro fb fb' sfb _ _ hsfb
      rw [hsource] at hsfb
      exact absurd hsfb (by simp)
    · intro fb fb' hfb hfb' col _ row _ _
      rw [hsame, hfb] at hfb'
      rw [some.inj hfb']
  | some sfb =>
    constructor
    · intro hexact fb sfb' hfb hsfb col hcol row hrow hplc
      obtain rfl : sfb = sfb' := some.inj (hsource.symm.trans hsfb)
      obtain ⟨fb', hfb', -, -, hpx⟩ := copyPixels_pixels hwell hdepth hsource hfb
      rw [← hexact.copied fb fb' sfb hfb hfb' hsfb col hcol row hrow hplc, hpx col hcol row hrow,
        if_pos ⟨hplc.1, hplc.2.1⟩, colorOf_copiedResult]
    · intro hdrw
      refine ⟨fun d hd => ?_, fun fb hfb => ?_, ?_, ?_⟩
      · obtain ⟨pixels, hpx, -⟩ := sourcePixels_eq hwell hsource
        obtain ⟨f, hcopy, -⟩ := copyPixels_eq hdepth hpx
        rw [hcopy, getFramebuffer_drawOn, if_neg hd]
      · obtain ⟨fb', hfb', hwd, hht, -⟩ := copyPixels_pixels hwell hdepth hsource hfb
        exact ⟨fb', hfb', hwd, hht⟩
      · intro fb fb' sfb' hfb hfb' hsfb col hcol row hrow hplc
        obtain ⟨fb'', hfb'', -, -, hpx⟩ := copyPixels_pixels hwell hdepth hsource hfb
        obtain rfl : fb'' = fb' := some.inj (hfb''.symm.trans hfb')
        obtain rfl : sfb = sfb' := some.inj (hsource.symm.trans hsfb)
        rw [hpx col hcol row hrow, if_pos ⟨hplc.1, hplc.2.1⟩, colorOf_copiedResult]
        exact hdrw fb sfb hfb hsfb col hcol row hrow hplc
      · intro fb fb' hfb hfb' col hcol row hrow hout
        obtain ⟨fb'', hfb'', -, -, hpx⟩ := copyPixels_pixels hwell hdepth hsource hfb
        obtain rfl : fb'' = fb' := some.inj (hfb''.symm.trans hfb')
        rw [hpx col hcol row hrow, if_neg hout]

theorem reportExposures_drawables (majorOpcode : Nat) (req : CopyAreaRequest) (gc : CopyGc) (s : CopyState) :
    (reportExposures majorOpcode req gc s).1.toDrawableStore = s.toDrawableStore := by
  simp only [reportExposures]
  split
  · split <;> rfl
  · rfl

theorem syncShmPixmap_depth (drawable p : XId) (ds : DrawableStore) :
    ((syncShmPixmap drawable ds).pixmaps.lookup p).map (·.depth) = (ds.pixmaps.lookup p).map (·.depth) := by
  simp only [syncShmPixmap]
  split
  · rfl
  · rw [lookup_modify]
    split
    · next hp =>
      rw [hp, map_map]
      rfl
    · rfl

/-- An accepted request between drawables of 24 bits. -/
theorem handleCopyArea_exact_iff (s : CopyState) (hwell : AllWellFormed s.toDrawableStore) (req : CopyAreaRequest)
    (gc : CopyGc) (hcheck : checkCopy 62 req s = .ok gc)
    (hdepth : ∀ pix, s.pixmaps.lookup req.srcDrawable = some pix → pix.depth = 24) :
    CopiesExactly req gc (syncShmPixmap req.srcDrawable s.toDrawableStore)
        (handleCopyArea req s).1.toDrawableStore ↔
      DrawsSpecified req gc (syncShmPixmap req.srcDrawable s.toDrawableStore) := by
  have hhandled : (handleCopyArea req s).1.toDrawableStore =
      copyPixels req gc (syncShmPixmap req.srcDrawable s.toDrawableStore) := by
    rw [handleCopyArea, hcheck]
    dsimp only
    split
    · rfl
    · exact reportExposures_drawables 62 req gc _
  rw [hhandled]
  refine copyPixels_exact_iff (syncShmPixmap_wellFormed hwell _) fun pix hpix => ?_
  have hsync := syncShmPixmap_depth req.srcDrawable req.srcDrawable s.toDrawableStore
  rw [hpix] at hsync
  obtain ⟨pix', hlook, hsame⟩ := map_eq_some_iff.mp hsync.symm
  exact hsame.symm.trans (hdepth pix' hlook)

theorem drawsSpecified_of_unshifted (hx : 0 ≤ req.srcX.toInt)
    (hplain : Plain req gc ds →
      gc.function = GX.copy ∧ gc.planeMask = planeMaskAll ∧ req.dstX.toInt ≠ -2 ^ 15) :
    DrawsSpecified req gc ds := by
  intro fb sfb _ _ col _ row _ _
  rw [pixelTaken, pixelFor, max_eq_left hx, drawnColor]
  by_cases hpath : Plain req gc ds
  · obtain ⟨hfn, hplanes, hmin⟩ := hplain hpath
    rw [if_pos hpath, if_neg hmin, specifiedColor, hfn, hplanes, applyPlanes_copy, colorOf_low]
  · rw [if_neg hpath]

def redDesk (gc : CopyGc) : CopyState where
  windows := ∅
  pixmaps := (∅ : HashMap XId _).insert 1 ⟨3, 1, 24, redCorner.fb, none⟩
  segments := fun _ => none
  gcs := (∅ : HashMap XId _).insert 2 gc
  pendingEvents := []

theorem redDesk_pixmap {gc : CopyGc} {p : XId} {pix : DrawRequests.Pixmap}
    (h : (redDesk gc).pixmaps.lookup p = some pix) : pix = ⟨3, 1, 24, redCorner.fb, none⟩ := by
  rw [redDesk, lookup_insert_eq] at h
  split at h
  · exact (some.inj h).symm
  · exact absurd h (by simp)

theorem redDesk_wellFormed (gc : CopyGc) : AllWellFormed (redDesk gc).toDrawableStore := by
  refine ⟨fun w win hwin => absurd hwin (by simp [redDesk]), fun p pix hpix => ?_⟩
  rw [redDesk_pixmap hpix]
  exact redCorner.wellFormed

/-- A copy by one column on the same pixmap. -/
theorem handleCopyArea_exact_red :
    let gc : CopyGc := ⟨⟨GX.copy, planeMaskAll, 0, 0, []⟩, 0, false⟩
    let req : CopyAreaRequest := ⟨1, 1, 2, 0, 0, 1, 0, 2, 1⟩
    CopiesExactly req gc (syncShmPixmap req.srcDrawable (redDesk gc).toDrawableStore)
      (handleCopyArea req (redDesk gc)).1.toDrawableStore := by
  intro gc req
  exact (handleCopyArea_exact_iff (redDesk gc) (redDesk_wellFormed gc) req gc rfl
    fun pix hpix => by rw [redDesk_pixmap hpix]).mpr
    (drawsSpecified_of_unshifted (by decide) fun _ => ⟨rfl, rfl, by decide⟩)

/-- A copy of a pixel over itself with the function xor leaves it as it is. -/
theorem self_copy_ignores_function :
    ¬ ∀ (s : CopyState), AllWellFormed s.toDrawableStore → ∀ (req : CopyAreaRequest) (gc : CopyGc),
      checkCopy 62 req s = .ok gc → (∀ pix, s.pixmaps.lookup req.srcDrawable = some pix → pix.depth = 24) →
      CopiesExactly req gc (syncShmPixmap req.srcDrawable s.toDrawableStore)
        (handleCopyArea req s).1.toDrawableStore := by
  intro hall
  have hexact := hall (redDesk ⟨⟨6, planeMaskAll, 0, 0, []⟩, 0, false⟩) (redDesk_wellFormed _)
    ⟨1, 1, 2, 0, 0, 0, 0, 1, 1⟩ _ rfl fun pix hpix => by rw [redDesk_pixmap hpix]
  have hcolor := hexact.copied redCorner.fb (redCorner.fb.copyAreaSelf 0 0 0 0 1 1) redCorner.fb rfl rfl rfl
    0 (by decide) 0 (by decide) ⟨by decide, by decide, by decide, by decide⟩
  exact absurd hcolor (by decide +kernel)

end X11Web.CopyArea
