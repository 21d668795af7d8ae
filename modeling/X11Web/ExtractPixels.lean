import X11Web.ImagePixels

namespace X11Web.ExtractPixels

open Windows Overwrites Pixels DirtyMirror ImagePixels

variable {fb fb' : Framebuffer} {x y : Int16} {width height : UInt16}

def noPixel : Bytes := List.replicate 4 0

theorem data_eq_iff_pixels (h : WellFormed fb) (h' : WellFormed fb') (hwd : fb'.width = fb.width)
    (hht : fb'.height = fb.height) :
    fb'.data = fb.data ↔ ∀ col < fb.width, ∀ row < fb.height, pixelAt fb' col row = pixelAt fb col row := by
  have hstr : fb'.stride = fb.stride := by rw [h'.stride, h.stride, hwd]
  constructor
  · intro hdata col _ row _
    rw [pixelAt, pixelAt, hdata, hstr]
  · intro hpixels
    have hlen : fb'.data.length = fb.data.length := by rw [h'.length, h.length, hht, hstr]
    apply List.ext_getElem?
    intro i
    by_cases hi : i < fb.data.length
    · obtain ⟨hrow, hcol⟩ := h.inside hi
      have hb : i % fb.stride % 4 < 4 := Nat.mod_lt _ (by omega)
      have hidx : i = i / fb.stride * fb.stride + i % fb.stride / 4 * 4 + i % fb.stride % 4 := by
        have hdiv := Nat.div_add_mod i fb.stride
        rw [Nat.mul_comm] at hdiv
        omega
      have hbyte := congrArg (·[i % fb.stride % 4]?) (hpixels _ hcol _ hrow)
      simp only [pixelAt, getElem?_slice hb, hstr] at hbyte
      rw [hidx]
      exact hbyte
    · rw [List.getElem?_eq_none (by omega), List.getElem?_eq_none (by omega)]

/-- Each pixel of the rectangle is the one of the framebuffer on its place, and writing
them back changes nothing. -/
structure ExtractsExactly (fb : Framebuffer) (x y : Int16) (width height : UInt16) : Prop where
  length : (fb.extractPixels x y width height).length = width.toNat * height.toNat * 4
  pixels : ∀ col < width.toNat, ∀ row < height.toNat,
    imagePixel (fb.extractPixels x y width height) width.toNat col row = copiedAt fb (x.toInt + col) (y.toInt + row)
  restores : (fb.putImage x y width height (fb.extractPixels x y width height)).data = fb.data

/-- The first columns of the rows that the rectangle reaches are transparent black. -/
def BlankLeft (fb : Framebuffer) (y : Int16) (width height : UInt16) : Prop :=
  ∀ col < width.toNat, ∀ row < height.toNat, copiedAt fb col (y.toInt + row) = noPixel

theorem blank_of_shift (pixel : Int → Bytes) {k w : Nat} (hk : 0 < k) (hleft : ∀ c < 0, pixel c = noPixel)
    (hshift : ∀ c < w, pixel c = pixel (-k + c)) : ∀ c < w, pixel (c : Nat) = noPixel := by
  intro c
  induction c using Nat.strong_induction_on with
  | _ c ih =>
    intro hc
    rw [hshift c hc]
    by_cases hlt : c < k
    · exact hleft _ (by omega)
    · have hcast : (-k + c : Int) = (c - k : Nat) := by omega
      rw [hcast]
      exact ih (c - k) (by omega) (by omega)

theorem pixelAt_putImage_extractPixels (h : WellFormed fb) {col row : Nat} (hcol : col < fb.width)
    (hrow : row < fb.height)
    (hpixels : ∀ c < width.toNat, ∀ r < height.toNat,
      copiedAt fb (max x.toInt 0 + c) (y.toInt + r) = copiedAt fb (x.toInt + c) (y.toInt + r)) :
    pixelAt (fb.putImage x y width height (fb.extractPixels x y width height)) col row = pixelAt fb col row := by
  rw [pixelAt_putImage h length_extractPixels.ge hcol hrow]
  by_cases hon : OnImage x y width height col row
  · have hx := hon.2.1
    have hy := hon.2.2
    have hc : (col - x.toInt).toNat < width.toNat := by omega
    have hr : (row - y.toInt).toNat < height.toNat := by omega
    rw [if_pos hon, imagePixel_extractPixels_at h hc hr, hpixels _ hc _ hr]
    have hcolumn : x.toInt + (col - x.toInt).toNat = col := by omega
    have hline : y.toInt + (row - y.toInt).toNat = row := by omega
    rw [hcolumn, hline, copiedAt_of_inside hcol hrow]
  · exact if_neg hon

/-- The columns of a row are taken from column 0 on where the rectangle begins left of it. -/
theorem extractsExactly_iff (c : Canvas) (x y : Int16) (width height : UInt16) :
    ExtractsExactly c.fb x y width height ↔ 0 ≤ x.toInt ∨ BlankLeft c.fb y width height := by
  obtain ⟨fb, h⟩ := c
  constructor
  · intro hexact
    by_cases hx : 0 ≤ x.toInt
    · exact .inl hx
    · refine .inr fun col hcol row hrow => ?_
      refine blank_of_shift (fun c => copiedAt fb c (y.toInt + row)) (k := x.toInt.natAbs) (by omega)
        (fun c hc => copiedAt_of_outside (by omega)) (fun c hc => ?_) col hcol
      have hpx := hexact.pixels c hc row hrow
      rw [imagePixel_extractPixels_at h hc hrow] at hpx
      have hzero : max x.toInt 0 = 0 := by omega
      have hneg : -(x.toInt.natAbs : Int) = x.toInt := by omega
      rw [hzero, Int.zero_add] at hpx
      rw [hneg]
      exact hpx
  · intro hwhen
    have hsame : ∀ col < width.toNat, ∀ row < height.toNat,
        copiedAt fb (max x.toInt 0 + col) (y.toInt + row) = copiedAt fb (x.toInt + col) (y.toInt + row) := by
      intro col hcol row hrow
      rcases hwhen with hx | hblank
      · rw [max_eq_left hx]
      · by_cases hx : 0 ≤ x.toInt
        · rw [max_eq_left hx]
        · have hzero : max x.toInt 0 = 0 := by omega
          rw [hzero, Int.zero_add, hblank col hcol row hrow]
          by_cases hleft : x.toInt + col < 0
          · exact (copiedAt_of_outside (by omega)).symm
          · have hcast : x.toInt + col = ((x.toInt + col).toNat : Nat) := by omega
            rw [hcast]
            exact (hblank _ (by omega) row hrow).symm
    refine ⟨length_extractPixels, fun col hcol row hrow => ?_, ?_⟩
    · rw [imagePixel_extractPixels_at h hcol hrow]
      exact hsame col hcol row hrow
    · have hdrw := putImage_draws h x y width height (fb.extractPixels x y width height)
      exact (data_eq_iff_pixels h hdrw.wellFormed hdrw.width hdrw.height).mpr
        fun col hcol row hrow => pixelAt_putImage_extractPixels h hcol hrow hsame

def redCorner : Canvas :=
  ⟨(Framebuffer.new 3 1).fillRect 0 0 1 1 0xFF0000,
    (fillRect_draws (new_wellFormed 3 1) 0 0 1 1 0xFF0000).wellFormed⟩

/-- Of a red pixel in column 0, the rectangle that begins one column further left has the
pixel in its column 0. -/
theorem extract_left_of_edge :
    ¬ ∀ (c : Canvas) (x y : Int16) (width height : UInt16), ExtractsExactly c.fb x y width height := by
  intro hall
  have hpx := (hall redCorner (-1) 0 2 1).pixels 0 (by decide) 0 (by decide)
  exact absurd hpx (by decide +kernel)

end X11Web.ExtractPixels
