import X11Web.ExtractPixels

namespace X11Web.BlitPixels

open Windows Overwrites Pixels DirtyMirror ImagePixels ExtractPixels List Option

variable (c : UInt32)

theorem low_byte : (c &&& 0xFF).toUInt8 = c.toUInt8 := by
  rw [UInt32.toUInt8_and]
  exact UInt8.and_neg_one

theorem unpackRgb_packRgb (r g b a : UInt8) : unpackRgb (packRgb r g b) a = ⟨r, g, b, a⟩ := by
  rw [unpackRgb, packRgb, Rgba.mk.injEq]
  refine ⟨?_, ?_, ?_, rfl⟩ <;> rw [low_byte] <;> apply UInt8.toBitVec_inj.mp <;> ext i hi <;> simp <;> grind

theorem low_byte_back : c.toUInt8.toUInt32 = c &&& 0xFF := by
  apply UInt32.toNat_inj.mp
  rw [UInt8.toNat_toUInt32, UInt32.toNat_toUInt8, UInt32.toNat_and]
  exact (Nat.and_two_pow_sub_one_eq_mod _ 8).symm

theorem packRgb_unpackRgb (a : UInt8) :
    packRgb (unpackRgb c a).r (unpackRgb c a).g (unpackRgb c a).b = c &&& 0xFFFFFF := by
  have hbyte : ∀ i (hi : i < 32), (0xFF#32)[i] = decide (i < 8) := by decide
  have hmask : ∀ i (hi : i < 32), (0xFFFFFF#32)[i] = decide (i < 24) := by decide
  simp only [unpackRgb, packRgb, low_byte, low_byte_back]
  apply UInt32.toBitVec_inj.mp
  ext i hi
  simp [hmask, hbyte]
  grind

def OnRect (x y : Int16) (width height : UInt16) (col row : Nat) : Prop :=
  (x.toInt ≤ col ∧ (col : Int) < x.toInt + width.toNat) ∧ (y.toInt ≤ row ∧ (row : Int) < y.toInt + height.toNat)

instance (x y : Int16) (width height : UInt16) (col row : Nat) : Decidable (OnRect x y width height col row) :=
  inferInstanceAs (Decidable (_ ∧ _))

def ReadsPixel (pixel : Bytes → Int → Int → Nat → Nat → Option Rgba) : Prop :=
  ∀ data data' dx dy srcOff dstOff, slice data dstOff 4 = slice data' dstOff 4 →
    pixel data dx dy srcOff dstOff = pixel data' dx dy srcOff dstOff

variable {fb : Framebuffer} {x y : Int16} {width height : UInt16} {image data : Bytes} {col row : Nat}
  {pixel : Bytes → Int → Int → Nat → Nat → Option Rgba}

/-- The round of the inner loop for one pixel of an image. -/
def blitCell (fb : Framebuffer) (x : Int) (width : Nat) (pixel : Bytes → Int → Int → Nat → Nat → Option Rgba)
    (dy : Int) (row : Nat) (data : Bytes) (col : Nat) : Bytes :=
  let dx := x + col
  if dx < 0 ∨ (fb.width : Int) ≤ dx then data
  else
    let srcOff := row * (width * 4) + col * 4
    let dstOff := dy.toNat * fb.stride + dx.toNat * 4
    if data.length ≤ dstOff + 3 then data
    else
      match pixel data dx dy srcOff dstOff with
      | none => data
      | some p => overwrite data dstOff p.bytes

def blitRow (fb : Framebuffer) (x y : Int) (width : Nat) (pixel : Bytes → Int → Int → Nat → Nat → Option Rgba)
    (data : Bytes) (row : Nat) : Bytes :=
  let dy := y + row
  if dy < 0 ∨ (fb.height : Int) ≤ dy then data
  else (List.range width).foldl (blitCell fb x width pixel dy row) data

theorem blitPixels_data (fb : Framebuffer) (x y : Int16) (width height : UInt16)
    (pixel : Bytes → Int → Int → Nat → Nat → Option Rgba) :
    (fb.blitPixels x y width height pixel).data =
      (List.range height.toNat).foldl (blitRow fb x.toInt y.toInt width.toNat pixel) fb.data :=
  (markDirty_data _ _ _ _ _).1

section Loops

variable {left top : Int} {w n : Nat}

theorem blitCell_slice (h : WellFormed fb) (hcol : col < fb.width) (hdata : data.length = fb.data.length) {dy : Int}
    (hdy : 0 ≤ dy ∧ dy < fb.height) (r c : Nat) :
    (blitCell fb left w pixel dy r data c).length = fb.data.length ∧
      slice (blitCell fb left w pixel dy r data c) (row * fb.stride + col * 4) 4 =
        if (row : Int) = dy ∧ (col : Int) = left + c then
          (pixel data col row (r * (w * 4) + c * 4) (row * fb.stride + col * 4)).elim
            (slice data (row * fb.stride + col * 4) 4) Rgba.bytes
        else slice data (row * fb.stride + col * 4) 4 := by
  have hstr := h.stride
  simp only [blitCell]
  split
  · rw [if_neg (by omega)]
    exact ⟨hdata, rfl⟩
  · next hdx =>
    obtain ⟨line, rfl⟩ : ∃ line : Nat, dy = line := ⟨dy.toNat, by omega⟩
    obtain ⟨column, hcolumn⟩ : ∃ column : Nat, left + c = column := ⟨(left + c).toNat, by omega⟩
    have hrows := h.row_le (by omega : line < fb.height)
    rw [hcolumn, Int.toNat_natCast, Int.toNat_natCast, if_neg (by omega)]
    by_cases hsame : row = line ∧ col = column
    · obtain ⟨rfl, rfl⟩ := hsame
      rw [if_pos ⟨rfl, rfl⟩]
      cases pixel data col row (r * (w * 4) + c * 4) (row * fb.stride + col * 4) with
      | none => exact ⟨hdata, rfl⟩
      | some p =>
        have hfits : row * fb.stride + col * 4 + p.bytes.length ≤ data.length := by
          simp only [Rgba.bytes, length_cons, length_nil]
          omega
        exact ⟨(length_overwrite hfits).trans hdata, slice_overwrite hfits⟩
    · rw [if_neg (by omega)]
      cases pixel data column line (r * (w * 4) + c * 4) (line * fb.stride + column * 4) with
      | none => exact ⟨hdata, rfl⟩
      | some p =>
        have hlen : p.bytes.length = 4 := rfl
        have hfits : line * fb.stride + column * 4 + p.bytes.length ≤ data.length := by omega
        refine ⟨(length_overwrite hfits).trans hdata, slice_overwrite_disjoint hfits ?_⟩
        have hne : row * fb.width + col ≠ line * fb.width + column := fun he =>
          hsame (pixel_index_inj hcol (by omega) he)
        have hcell : ∀ r c : Nat, r * fb.stride + c * 4 = (r * fb.width + c) * 4 := by
          intro r c
          rw [hstr, Nat.add_mul, Nat.mul_assoc]
        rw [hcell, hcell]
        omega

theorem length_blitRow (fb : Framebuffer) (left top : Int) (w : Nat)
    (pixel : Bytes → Int → Int → Nat → Nat → Option Rgba) (data : Bytes) (r : Nat) :
    (blitRow fb left top w pixel data r).length = data.length := by
  simp only [blitRow]
  split
  · rfl
  · refine (ChangesOnly.foldl (S := Set.univ) _ fun b _ c _ => ⟨?_, fun i hi => absurd (Set.mem_univ i) hi⟩).length
    simp only [blitCell]
    split
    · rfl
    · split
      · rfl
      · split
        · rfl
        · refine length_overwrite ?_
          simp only [Rgba.bytes, length_cons, length_nil]
          omega

theorem blitRow_slice (h : WellFormed fb) (hreads : ReadsPixel pixel) (hcol : col < fb.width)
    (hrow : row < fb.height) (hdata : data.length = fb.data.length) (r : Nat) :
    slice (blitRow fb left top w pixel data r) (row * fb.stride + col * 4) 4 =
      if (row : Int) = top + r ∧ left ≤ col ∧ (col : Int) < left + w then
        (pixel data col row (r * (w * 4) + (col - left).toNat * 4)
          (row * fb.stride + col * 4)).elim (slice data (row * fb.stride + col * 4) 4) Rgba.bytes
      else slice data (row * fb.stride + col * 4) 4 := by
  simp only [blitRow]
  split
  · rw [if_neg (by omega)]
  · next hdy =>
    have hcells := fun (data : Bytes) (hdata : data.length = fb.data.length) (c : Nat) =>
      @blitCell_slice fb data col row pixel left w h hcol hdata (top + r) (by omega) r c
    by_cases hon : (row : Int) = top + r ∧ left ≤ col ∧ (col : Int) < left + w
    · rw [if_pos hon, part_foldl_range (r := (col - left).toNat)
        (fun b => slice b (row * fb.stride + col * 4) 4) (fun b => b.length = fb.data.length) hdata
        (fun b hb c _ => (hcells b hb c).1) (fun b hb c _ hne => ?_) (fun b hb hsame _ => ?_)]
      · exact if_pos (by omega)
      · exact (hcells b hb c).2.trans (if_neg (by omega))
      · refine (hcells b hb _).2.trans ((if_pos (by omega)).trans ?_)
        rw [hreads b data _ _ _ _ hsame]
        exact congrArg (Option.elim _ · _) hsame
    · rw [if_neg hon, part_foldl_range (r := w) (v := [])
        (fun b => slice b (row * fb.stride + col * 4) 4) (fun b => b.length = fb.data.length) hdata
        (fun b hb c _ => (hcells b hb c).1) (fun b hb c hc _ => ?_)
        (fun b hb hsame hlt => absurd hlt (Nat.lt_irrefl _))]
      · exact if_neg (Nat.lt_irrefl _)
      · exact (hcells b hb c).2.trans (if_neg (by omega))

theorem blitRows_slice (h : WellFormed fb) (hreads : ReadsPixel pixel) (hcol : col < fb.width)
    (hrow : row < fb.height) (hdata : data.length = fb.data.length) :
    slice ((List.range n).foldl (blitRow fb left top w pixel) data) (row * fb.stride + col * 4) 4 =
      if (left ≤ col ∧ (col : Int) < left + w) ∧ (top ≤ row ∧ (row : Int) < top + n) then
        (pixel data col row ((row - top).toNat * (w * 4) + (col - left).toNat * 4)
          (row * fb.stride + col * 4)).elim (slice data (row * fb.stride + col * 4) 4) Rgba.bytes
      else slice data (row * fb.stride + col * 4) 4 := by
  have hrows := fun (data : Bytes) (hdata : data.length = fb.data.length) (r : Nat) =>
    @blitRow_slice fb data col row pixel left top w h hreads hcol hrow hdata r
  by_cases hon : (left ≤ col ∧ (col : Int) < left + w) ∧ (top ≤ row ∧ (row : Int) < top + n)
  · obtain ⟨hx, hy⟩ := hon
    rw [if_pos ⟨hx, hy⟩, part_foldl_range (r := (row - top).toNat)
      (fun b => slice b (row * fb.stride + col * 4) 4) (fun b => b.length = fb.data.length) hdata
      (fun b hb r _ => (length_blitRow fb left top w pixel b r).trans hb) (fun b hb r _ hne => ?_)
      (fun b hb hsame _ => ?_)]
    · exact if_pos (by omega)
    · exact (hrows b hb r).trans (if_neg (by omega))
    · refine (hrows b hb _).trans ((if_pos (by omega)).trans ?_)
      rw [hreads b data _ _ _ _ hsame]
      exact congrArg (Option.elim _ · _) hsame
  · rw [if_neg hon, part_foldl_range (r := n) (v := [])
      (fun b => slice b (row * fb.stride + col * 4) 4) (fun b => b.length = fb.data.length) hdata
      (fun b hb r _ => (length_blitRow fb left top w pixel b r).trans hb) (fun b hb r hr _ => ?_)
      (fun b hb hsame hlt => absurd hlt (Nat.lt_irrefl _))]
    · exact if_neg (Nat.lt_irrefl _)
    · exact (hrows b hb r).trans (if_neg fun hin => hon ⟨hin.2, by omega⟩)

end Loops

theorem pixelAt_blitPixels (h : WellFormed fb) (hreads : ReadsPixel pixel) (hcol : col < fb.width)
    (hrow : row < fb.height) :
    pixelAt (fb.blitPixels x y width height pixel) col row =
      if OnRect x y width height col row then
        (pixel fb.data col row ((row - y.toInt).toNat * (width.toNat * 4) + (col - x.toInt).toNat * 4)
          (row * fb.stride + col * 4)).elim (pixelAt fb col row) Rgba.bytes
      else pixelAt fb col row := by
  have hstr : (fb.blitPixels x y width height pixel).stride = fb.stride := (markDirty_data _ _ _ _ _).2
  rw [pixelAt, hstr, blitPixels_data]
  exact blitRows_slice h hreads hcol hrow rfl

def colorOf (p : Bytes) : UInt32 := readPixel p 0

theorem getD_slice {off len i : Nat} (hi : i < len) : (slice data off len).getD i 0 = data.getD (off + i) 0 := by
  rw [getD_eq_getElem?_getD, getD_eq_getElem?_getD, getElem?_slice hi]

theorem readPixel_eq_colorOf (data : Bytes) (off : Nat) : readPixel data off = colorOf (slice data off 4) := by
  simp only [colorOf, readPixel, getD_slice (by decide : 0 < 4), Nat.zero_add, getD_slice (by decide : 1 < 4),
    getD_slice (by decide : 2 < 4), Nat.add_zero]

def combined (function : UInt8) (planeMask src : UInt32) (dst : Bytes) : Bytes :=
  (unpackRgb (applyPlanes function planeMask src (colorOf dst)) 0xFF).bytes

theorem colorOf_low (p : Bytes) : colorOf p &&& 0xFFFFFF = colorOf p := by
  rw [colorOf, readPixel, ← packRgb_unpackRgb _ 0, unpackRgb_packRgb]

theorem colorOf_unpackRgb (a : UInt8) : colorOf (unpackRgb c a).bytes = c &&& 0xFFFFFF :=
  packRgb_unpackRgb c a

section Functions

variable {function : UInt8} {planeMask : UInt32} {clipRects : List ClipRect}

theorem imagePixel_offset (image : Bytes) (w c r : Nat) :
    slice image (r * (w * 4) + c * 4) 4 = imagePixel image w c r := by
  rw [imagePixel, Nat.add_mul, Nat.mul_assoc]

theorem overPixel_eq (image data : Bytes) (srcOff dstOff : Nat) :
    overPixel image data srcOff dstOff = overPixel (slice image srcOff 4) (slice data dstOff 4) 0 0 := by
  simp only [overPixel, getD_slice (by decide : 0 < 4), Nat.zero_add, getD_slice (by decide : 1 < 4),
    getD_slice (by decide : 2 < 4), getD_slice (by decide : 3 < 4), Nat.add_zero]

theorem overPixel_alpha {src dst : Bytes} {p : Rgba} (h : overPixel src dst 0 0 = some p) : p.a = 0xFF := by
  simp only [overPixel] at h
  split at h
  · exact absurd h (by simp)
  · split at h
    · obtain rfl := some.inj h
      assumption
    · obtain rfl := some.inj h
      rfl

/-- The pixel of an image of `put_image_over_gc`, blended first and then combined. -/
def overCombined (function : UInt8) (planeMask : UInt32) (src dst : Bytes) : Bytes :=
  (overPixel src dst 0 0).elim dst fun p => combined function planeMask (packRgb p.r p.g p.b) dst

theorem applyPlanes_copy (src dst : UInt32) : applyPlanes GX.copy planeMaskAll src dst = src := by
  show (src &&& planeMaskAll) ||| (dst &&& ~~~planeMaskAll) = src
  have hmask : planeMaskAll = -1 := rfl
  rw [hmask, UInt32.and_neg_one, UInt32.not_neg_one, UInt32.and_zero, UInt32.or_zero]

theorem combined_copy (src : UInt32) (dst : Bytes) :
    combined GX.copy planeMaskAll src dst = (unpackRgb src 0xFF).bytes := by
  rw [combined, applyPlanes_copy]

theorem overCombined_copy (src dst : Bytes) :
    overCombined GX.copy planeMaskAll src dst = (overPixel src dst 0 0).elim dst Rgba.bytes := by
  rw [overCombined]
  cases hover : overPixel src dst 0 0 with
  | none => rfl
  | some p =>
    rw [elim_some, elim_some, combined_copy, unpackRgb_packRgb, ← overPixel_alpha hover]

theorem not_onRect_of_empty (himg : width.toNat * height.toNat * 4 ≤ image.length)
    (hemp : width.toNat = 0 ∨ height.toNat = 0 ∨ image = []) : ¬ OnRect x y width height col row := by
  rintro ⟨hx, hy⟩
  rcases hemp with h0 | h0 | rfl
  · omega
  · omega
  · have hprod : width.toNat * height.toNat = 0 := by
      rw [length_nil] at himg
      omega
    rcases Nat.mul_eq_zero.mp hprod with h0 | h0 <;> omega

theorem not_short (himg : width.toNat * height.toNat * 4 ≤ image.length) :
    ¬image.length < width.toNat * 4 * height.toNat := by
  rw [Nat.mul_right_comm]
  omega

theorem pixelAt_putImageGc (h : WellFormed fb) (himg : width.toNat * height.toNat * 4 ≤ image.length)
    (hgen : ¬ (function = GX.copy ∧ planeMask = planeMaskAll ∧ clipRects = [])) (hcol : col < fb.width)
    (hrow : row < fb.height) :
    pixelAt (fb.putImageGc x y width height image function planeMask clipRects) col row =
      if OnRect x y width height col row ∧ ¬ clippedAway col row clipRects then
        combined function planeMask (colorOf (imagePixel image width.toNat (col - x.toInt).toNat
          (row - y.toInt).toNat)) (pixelAt fb col row)
      else pixelAt fb col row := by
  rw [Framebuffer.putImageGc]
  by_cases hemp : width.toNat = 0 ∨ height.toNat = 0 ∨ image = []
  · rw [if_pos hemp, if_neg fun hin => not_onRect_of_empty himg hemp hin.1]
  · rw [if_neg hemp, if_neg hgen, if_neg (not_short himg), pixelAt_blitPixels h ?_ hcol hrow]
    · by_cases hon : OnRect x y width height col row
      · rw [if_pos hon]
        by_cases hclip : clippedAway col row clipRects
        · rw [if_pos hclip, if_neg fun hin => hin.2 hclip]
          rfl
        · rw [if_neg hclip, if_pos ⟨hon, hclip⟩, elim_some, readPixel_eq_colorOf, readPixel_eq_colorOf,
            imagePixel_offset]
          rfl
      · rw [if_neg hon, if_neg fun hin => hon hin.1]
    · intro data data' dx dy srcOff dstOff hsame
      simp only [readPixel_eq_colorOf, hsame]

theorem pixelAt_putImageOverGc_general (h : WellFormed fb)
    (himg : width.toNat * height.toNat * 4 ≤ image.length)
    (hgen : ¬ (function = GX.copy ∧ planeMask = planeMaskAll ∧ clipRects = [])) (hcol : col < fb.width)
    (hrow : row < fb.height) :
    pixelAt (fb.putImageOverGc x y width height image function planeMask clipRects) col row =
      if OnRect x y width height col row ∧ ¬ clippedAway col row clipRects then
        overCombined function planeMask (imagePixel image width.toNat (col - x.toInt).toNat
          (row - y.toInt).toNat) (pixelAt fb col row)
      else pixelAt fb col row := by
  rw [Framebuffer.putImageOverGc]
  by_cases hemp : width.toNat = 0 ∨ height.toNat = 0 ∨ image = []
  · rw [if_pos hemp, if_neg fun hin => not_onRect_of_empty himg hemp hin.1]
  · rw [if_neg hemp, if_neg hgen, if_neg (not_short himg), pixelAt_blitPixels h ?_ hcol hrow]
    · by_cases hon : OnRect x y width height col row
      · rw [if_pos hon, overPixel_eq, imagePixel_offset, ← pixelAt, readPixel_eq_colorOf, ← pixelAt, overCombined]
        cases overPixel _ _ 0 0 with
        | none => exact (ite_self _).symm
        | some p =>
          by_cases hclip : clippedAway col row clipRects
          · rw [bind_some, if_pos hclip, if_neg fun hin => hin.2 hclip]
            rfl
          · rw [bind_some, if_neg hclip, if_pos ⟨hon, hclip⟩]
            rfl
      · rw [if_neg hon, if_neg fun hin => hon hin.1]
    · intro data data' dx dy srcOff dstOff hsame
      simp only [readPixel_eq_colorOf, hsame, overPixel_eq image]

/-- Either path of `put_image_over_gc`: the fast one blends alike, and a blended pixel
has a full alpha. -/
theorem pixelAt_putImageOverGc (h : WellFormed fb) (himg : width.toNat * height.toNat * 4 ≤ image.length)
    (hcol : col < fb.width) (hrow : row < fb.height) :
    pixelAt (fb.putImageOverGc x y width height image function planeMask clipRects) col row =
      if OnRect x y width height col row ∧ ¬ clippedAway col row clipRects then
        overCombined function planeMask (imagePixel image width.toNat (col - x.toInt).toNat
          (row - y.toInt).toNat) (pixelAt fb col row)
      else pixelAt fb col row := by
  by_cases hfast : function = GX.copy ∧ planeMask = planeMaskAll ∧ clipRects = []
  · obtain ⟨rfl, rfl, rfl⟩ := hfast
    have hnone : ¬ clippedAway col row [] := by simp [clippedAway]
    rw [Framebuffer.putImageOverGc]
    by_cases hemp : width.toNat = 0 ∨ height.toNat = 0 ∨ image = []
    · rw [if_pos hemp, if_neg fun hin => not_onRect_of_empty himg hemp hin.1]
    · rw [if_neg hemp, if_pos ⟨rfl, rfl, rfl⟩, Framebuffer.putImageOver, if_neg hemp, if_neg (not_short himg),
        pixelAt_blitPixels h ?_ hcol hrow]
      · by_cases hon : OnRect x y width height col row
        · rw [if_pos hon, if_pos ⟨hon, hnone⟩, overPixel_eq, imagePixel_offset, ← pixelAt, overCombined_copy]
        · rw [if_neg hon, if_neg fun hin => hon hin.1]
      · intro data data' dx dy srcOff dstOff hsame
        simp only [hsame, overPixel_eq image]
  · exact pixelAt_putImageOverGc_general h himg hfast hcol hrow

end Functions

end X11Web.BlitPixels
