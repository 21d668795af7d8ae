import X11Web.DirtyMirror

namespace X11Web.ImagePixels

open Windows Overwrites Pixels DirtyMirror

def pixelAt (fb : Framebuffer) (col row : Nat) : Bytes := slice fb.data (row * fb.stride + col * 4) 4

def imagePixel (image : Bytes) (width col row : Nat) : Bytes := slice image ((row * width + col) * 4) 4

/-- The image, put there, has a pixel on this place. The most negative origin has
no negation, and nothing is drawn. -/
def OnImage (x y : Int16) (width height : UInt16) (col row : Nat) : Prop :=
  x.toInt ≠ -2 ^ 15 ∧ (x.toInt ≤ col ∧ (col : Int) < x.toInt + width.toNat) ∧
    (y.toInt ≤ row ∧ (row : Int) < y.toInt + height.toNat)

instance (x y : Int16) (width height : UInt16) (col row : Nat) : Decidable (OnImage x y width height col row) :=
  inferInstanceAs (Decidable (_ ∧ _))

variable {fb : Framebuffer} {x y : Int16} {width height : UInt16} {image : Bytes} {col row : Nat}

theorem pixel_index_inj {width r c r' c' : Nat} (hc : c < width) (hc' : c' < width)
    (h : r * width + c = r' * width + c') : r = r' ∧ c = c' := by
  have hpos : 0 < width := by omega
  have hdiv := congrArg (· / width) h
  have hmod := congrArg (· % width) h
  simp only [Nat.mul_comm r, Nat.mul_comm r', Nat.mul_add_div hpos, Nat.mul_add_mod, Nat.div_eq_of_lt hc,
    Nat.div_eq_of_lt hc', Nat.mod_eq_of_lt hc, Nat.mod_eq_of_lt hc'] at hdiv hmod
  exact ⟨by omega, hmod⟩

theorem markDirty_data (fb : Framebuffer) (x y : Int) (w h : Nat) :
    (fb.markDirty x y w h).data = fb.data ∧ (fb.markDirty x y w h).stride = fb.stride := by
  simp only [Framebuffer.markDirty]
  split <;> exact ⟨rfl, rfl⟩

theorem colStart_of_ne (h : x.toInt ≠ -2 ^ 15) : (colStart x : Int) = max (-x.toInt) 0 := by
  have hlow := Int16.le_toInt x
  have hhigh := Int16.toInt_lt x
  rw [colStart]
  by_cases hneg : x.toInt < 0
  · rw [if_pos hneg, asUsize, Int16.toInt_neg, Int.bmod_eq_of_le (by omega) (by omega)]
    omega
  · rw [if_neg hneg]
    omega

theorem colStart_min (h : x.toInt = -2 ^ 15) : 2 ^ 16 ≤ colStart x := by
  have hneg : x.toInt < 0 := by omega
  rw [colStart, if_pos hneg, asUsize, Int16.toInt_neg, h]
  decide

theorem segment_iff {stride row row' c n col b : Nat} (hcol : col * 4 < stride) (hfit : stride % 4 = 0)
    (hn : (c + n) * 4 ≤ stride) (hb : b < 4) :
    (row' * stride + c * 4 ≤ row * stride + col * 4 + b ∧
      row * stride + col * 4 + b < row' * stride + c * 4 + n * 4) ↔ row = row' ∧ c ≤ col ∧ col < c + n := by
  constructor
  · intro hi
    obtain ⟨hdiv, hleft, hright⟩ := mem_cells_of_mem_Ico hn hi
    have hrest : col * 4 + b < stride := by omega
    have hpos : 0 < stride := by omega
    rw [Nat.add_assoc, Nat.add_comm, Nat.add_mul_div_right _ _ hpos, Nat.div_eq_of_lt hrest,
      Nat.zero_add] at hdiv
    rw [Nat.add_assoc, Nat.add_comm, Nat.add_mul_mod_self_right, Nat.mod_eq_of_lt hrest] at hleft hright
    exact ⟨hdiv, by omega, by omega⟩
  · rintro ⟨rfl, hleft, hright⟩
    omega

theorem row_fits {w h k : Nat} (hk : k < h) : k * (w * 4) + w * 4 ≤ w * h * 4 := by
  rw [← Nat.succ_mul, Nat.mul_right_comm, Nat.mul_comm]
  exact Nat.mul_le_mul_left _ hk

theorem overwrite_segment (image data : Bytes) (row row' c n src : Nat) {stride col b : Nat} (hcol : col * 4 < stride)
    (hmod : stride % 4 = 0) (hn : (c + n) * 4 ≤ stride) (hb : b < 4)
    (hfit : row' * stride + c * 4 + n * 4 ≤ data.length) (hsrc : src + n * 4 ≤ image.length) :
    (overwrite data (row' * stride + c * 4) (slice image src (n * 4))).length = data.length ∧
      (overwrite data (row' * stride + c * 4) (slice image src (n * 4)))[row * stride + col * 4 + b]? =
        if row = row' ∧ c ≤ col ∧ col < c + n then image[src + (col - c) * 4 + b]?
        else data[row * stride + col * 4 + b]? := by
  have hslice := length_slice hsrc
  have hpart : row' * stride + c * 4 + (slice image src (n * 4)).length ≤ data.length := by
    rw [hslice]
    exact hfit
  refine ⟨length_overwrite hpart, ?_⟩
  rw [getElem?_overwrite hpart, hslice]
  have hiff := @segment_iff stride row row' c n col b hcol hmod hn hb
  by_cases hin : row = row' ∧ c ≤ col ∧ col < c + n
  · rw [if_pos (hiff.mpr hin), if_pos hin]
    obtain ⟨rfl, hleft, hright⟩ := hin
    rw [getElem?_slice (by omega)]
    congr 1
    omega
  · rw [if_neg (fun h => hin (hiff.mp h)), if_neg hin]

def putRow (fb : Framebuffer) (x y : Int16) (width : UInt16) (image data : Bytes) (row : Nat) : Bytes :=
  let dy := y.toInt + row
  if dy < 0 ∨ (fb.height : Int) ≤ dy then data
  else
    let colEnd := min width.toNat ((fb.width - max x.toInt 0).toNat + colStart x)
    if colEnd ≤ colStart x then data
    else
      let dstOff := dy.toNat * fb.stride + (max (x.toInt + colStart x) 0).toNat * 4
      let srcOff := row * (width.toNat * 4) + colStart x * 4
      let copyLen := (colEnd - colStart x) * 4
      if dstOff + copyLen ≤ data.length ∧ srcOff + copyLen ≤ image.length then
        overwrite data dstOff (slice image srcOff copyLen)
      else data

theorem putImage_data (hw : width.toNat ≠ 0) (hh : height.toNat ≠ 0)
    (himage : width.toNat * height.toNat * 4 ≤ image.length) :
    (fb.putImage x y width height image).data =
        (List.range height.toNat).foldl (putRow fb x y width image) fb.data := by
  have hpos : 0 < width.toNat * height.toNat := Nat.mul_pos (by omega) (by omega)
  have hsize : width.toNat * 4 * height.toNat = width.toNat * height.toNat * 4 := Nat.mul_right_comm _ _ _
  have hne : image ≠ [] := by
    rintro rfl
    rw [List.length_nil] at himage
    omega
  rw [Framebuffer.putImage]
  dsimp only
  rw [if_neg (by simp [hw, hh, hne]), if_neg (by omega)]
  exact (markDirty_data _ _ _ _ _).1

theorem columns_fit {x : Int} {start w width dx n : Nat} (hst : (start : Int) = max (-x) 0)
    (hdx : (max (x + start) 0).toNat = dx) (hn : min w ((width - max x 0).toNat + start) - start = n)
    (hpos : start < min w ((width - max x 0).toNat + start)) :
    (dx : Int) = x + start ∧ dx + n ≤ width ∧ start + n ≤ w := by
  by_cases hneg : x < 0
  · rw [max_eq_right hneg.le] at hn hpos
    omega
  · rw [max_eq_left (Int.not_lt.mp hneg)] at hn hpos
    omega

theorem mem_columns_iff {x : Int} {start w width dx n col : Nat} (hst : (start : Int) = max (-x) 0)
    (hdx : (max (x + start) 0).toNat = dx) (hn : min w ((width - max x 0).toNat + start) - start = n)
    (hcol : col < width) : (dx ≤ col ∧ col < dx + n) ↔ (x ≤ col ∧ (col : Int) < x + w) := by
  by_cases hneg : x < 0
  · have hzero : dx = 0 := by omega
    rw [max_eq_right hneg.le] at hn
    omega
  · have hzero : start = 0 := by omega
    rw [max_eq_left (Int.not_lt.mp hneg)] at hn
    omega

theorem putRow_getElem? (h : WellFormed fb) (himage : width.toNat * height.toNat * 4 ≤ image.length)
    (hcol : col < fb.width) (hrow : row < fb.height) {b : Nat} (hb : b < 4) {data : Bytes}
    (hdata : data.length = fb.data.length) {k : Nat} (hk : k < height.toNat) :
    (putRow fb x y width image data k).length = fb.data.length ∧
      (putRow fb x y width image data k)[row * fb.stride + col * 4 + b]? =
        if (row : Int) = y.toInt + k ∧ OnImage x y width height col row then
          image[(k * width.toNat + (col - x.toInt).toNat) * 4 + b]?
        else data[row * fb.stride + col * 4 + b]? := by
  have hstr := h.stride
  have hlow := Int16.le_toInt x
  have hwd := width.toNat_lt
  simp only [putRow]
  split
  · rw [if_neg (by omega)]
    exact ⟨hdata, rfl⟩
  · next hdy =>
    split
    · next hcols =>
      refine ⟨hdata, (if_neg ?_).symm⟩
      rintro ⟨-, hmin, hx, -⟩
      have hst := colStart_of_ne hmin
      omega
    · next hcols =>
      have hmin : x.toInt ≠ -2 ^ 15 := by
        intro hmin
        have := colStart_min hmin
        omega
      have hst := colStart_of_ne hmin
      have hrows := h.row_le (by omega : (y.toInt + k).toNat < fb.height)
      have himg := (row_fits (w := width.toNat) hk).trans himage
      generalize hdx : (max (x.toInt + colStart x) 0).toNat = dx
      generalize hn : min width.toNat ((fb.width - max x.toInt 0).toNat + colStart x) - colStart x = n
      have hcolumns := mem_columns_iff hst hdx hn hcol
      obtain ⟨hleft, hright, himgRight⟩ := columns_fit hst hdx hn (Nat.lt_of_not_le hcols)
      clear hdx hn hcols hst
      have hfits : (y.toInt + k).toNat * fb.stride + dx * 4 + n * 4 ≤ data.length ∧
          k * (width.toNat * 4) + colStart x * 4 + n * 4 ≤ image.length := by omega
      rw [if_pos hfits]
      obtain ⟨hlen, hbyte⟩ := overwrite_segment image data row (y.toInt + k).toNat dx n _
        (by omega : col * 4 < fb.stride) (by omega) (by omega) hb hfits.1 hfits.2
      refine ⟨hlen.trans hdata, hbyte.trans ?_⟩
      have hiff : (row = (y.toInt + k).toNat ∧ dx ≤ col ∧ col < dx + n) ↔
          (row : Int) = y.toInt + k ∧ OnImage x y width height col row := by
        constructor
        · rintro ⟨hrow', hin⟩
          have hy : (row : Int) = y.toInt + k := by omega
          exact ⟨hy, hmin, hcolumns.mp hin, by omega⟩
        · rintro ⟨hy, -, hin, -⟩
          exact ⟨by omega, hcolumns.mpr hin⟩
      by_cases hon : (row : Int) = y.toInt + k ∧ OnImage x y width height col row
      · rw [if_pos (hiff.mpr hon), if_pos hon]
        obtain ⟨-, -, hx, -⟩ := hon
        congr 1
        have hk4 : k * (width.toNat * 4) = k * width.toNat * 4 := (Nat.mul_assoc _ _ _).symm
        omega
      · rw [if_neg (fun h => hon (hiff.mp h)), if_neg hon]

theorem putImage_getElem? (h : WellFormed fb) (himage : width.toNat * height.toNat * 4 ≤ image.length)
    (hcol : col < fb.width) (hrow : row < fb.height) {b : Nat} (hb : b < 4) :
    (fb.putImage x y width height image).data[row * fb.stride + col * 4 + b]? =
      if OnImage x y width height col row then
        image[((row - y.toInt).toNat * width.toNat + (col - x.toInt).toNat) * 4 + b]?
      else fb.data[row * fb.stride + col * 4 + b]? := by
  by_cases hemp : width.toNat = 0 ∨ height.toNat = 0
  · have hoff : ¬ OnImage x y width height col row := by
      rintro ⟨-, hx, hy⟩
      omega
    rw [if_neg hoff, Framebuffer.putImage]
    dsimp only
    rw [if_pos (by tauto)]
  · rw [putImage_data (by omega) (by omega) himage]
    have hround := fun data : Bytes => fun (hdata : data.length = fb.data.length) (k : Nat) =>
      fun hk : k < height.toNat => putRow_getElem? (x := x) (y := y) h himage hcol hrow hb hdata hk
    by_cases hon : OnImage x y width height col row
    · obtain ⟨hmin, hx, hy⟩ := hon
      rw [if_pos ⟨hmin, hx, hy⟩, getElem?_foldl_range (r := (row - y.toInt).toNat)
        (fun data hdata k hk => (hround data hdata k hk).1)
        (fun data hdata k hk hne => ?_) (fun data hdata hk => ?_)]
      · rw [if_pos (by omega)]
      · rw [(hround data hdata k hk).2, if_neg (by omega)]
      · rw [(hround data hdata _ hk).2, if_pos ⟨by omega, hmin, hx, hy⟩]
    · rw [if_neg hon, getElem?_foldl_range (r := height.toNat) (v := none)
        (fun data hdata k hk => (hround data hdata k hk).1)
        (fun data hdata k hk _ => ?_) (fun data hdata hk => absurd hk (Nat.lt_irrefl _)),
        if_neg (Nat.lt_irrefl _)]
      rw [(hround data hdata k hk).2, if_neg (fun h => hon h.2)]

theorem pixelAt_putImage (h : WellFormed fb) (himage : width.toNat * height.toNat * 4 ≤ image.length)
    (hcol : col < fb.width) (hrow : row < fb.height) :
    pixelAt (fb.putImage x y width height image) col row =
      if OnImage x y width height col row then
        imagePixel image width.toNat (col - x.toInt).toNat (row - y.toInt).toNat
      else pixelAt fb col row := by
  have hdrw := putImage_draws h x y width height image
  have hstr : (fb.putImage x y width height image).stride = fb.stride := by
    rw [hdrw.wellFormed.stride, hdrw.width, h.stride]
  rw [pixelAt, hstr]
  by_cases hon : OnImage x y width height col row
  · rw [if_pos hon]
    exact slice_congr fun b hb => (putImage_getElem? h himage hcol hrow hb).trans (if_pos hon)
  · rw [if_neg hon]
    exact slice_congr fun b hb => (putImage_getElem? h himage hcol hrow hb).trans (if_neg hon)

/-- A pixel as it is copied out of a framebuffer: transparent black where there is
none. -/
def copiedPixel (fb : Framebuffer) (col row : Nat) : Bytes :=
  if col < fb.width ∧ row < fb.height then pixelAt fb col row else List.replicate 4 0

/-- The pixel on a place of the plane, transparent black off the framebuffer. -/
def copiedAt (fb : Framebuffer) (col row : Int) : Bytes :=
  if 0 ≤ col ∧ 0 ≤ row then copiedPixel fb col.toNat row.toNat else List.replicate 4 0

theorem copiedAt_natCast (fb : Framebuffer) (col row : Nat) : copiedAt fb col row = copiedPixel fb col row :=
  if_pos ⟨by omega, by omega⟩

theorem copiedAt_of_inside (hcol : col < fb.width) (hrow : row < fb.height) :
    copiedAt fb col row = pixelAt fb col row :=
  (copiedAt_natCast fb col row).trans (if_pos ⟨hcol, hrow⟩)

theorem copiedAt_of_outside {col row : Int} (h : ¬ ((0 ≤ col ∧ col < fb.width) ∧ 0 ≤ row ∧ row < fb.height)) :
    copiedAt fb col row = List.replicate 4 0 := by
  rw [copiedAt]
  by_cases hpos : 0 ≤ col ∧ 0 ≤ row
  · rw [if_pos hpos, copiedPixel, if_neg (by omega)]
  · rw [if_neg hpos]

def takeRow (fb : Framebuffer) (x y : Int16) (width : UInt16) (pixels : Bytes) (row : Nat) : Bytes :=
  let sy := y.toInt + row
  if sy < 0 ∨ (fb.height : Int) ≤ sy then pixels
  else
    let sx := max x.toInt 0
    let copyW := min width.toNat (fb.width - sx).toNat * 4
    let srcOff := sy.toNat * fb.stride + sx.toNat * 4
    if copyW = 0 ∨ fb.data.length < srcOff + copyW then pixels
    else overwrite pixels (row * width.toNat * 4) (slice fb.data srcOff copyW)

theorem extractPixels_rows (hw : width.toNat ≠ 0) (hh : height.toNat ≠ 0) :
    fb.extractPixels x y width height = (List.range height.toNat).foldl (takeRow fb x y width)
      (List.replicate (width.toNat * height.toNat * 4) 0) := by
  rw [Framebuffer.extractPixels, if_neg (by tauto)]
  rfl

theorem takeRow_getElem? (h : WellFormed fb) (row : Nat) (hcol : col < width.toNat) {b : Nat} (hb : b < 4)
    {pixels : Bytes} (hpx : pixels.length = width.toNat * height.toNat * 4) {k : Nat}
    (hk : k < height.toNat) :
    (takeRow fb x y width pixels k).length = width.toNat * height.toNat * 4 ∧
      (takeRow fb x y width pixels k)[row * (width.toNat * 4) + col * 4 + b]? =
        if row = k ∧ max x.toInt 0 + col < fb.width ∧ 0 ≤ y.toInt + row ∧ y.toInt + row < fb.height then
          fb.data[(y.toInt + row).toNat * fb.stride + (max x.toInt 0 + col).toNat * 4 + b]?
        else pixels[row * (width.toNat * 4) + col * 4 + b]? := by
  have hstr := h.stride
  simp only [takeRow]
  generalize hsx : max x.toInt 0 = sx
  split
  · rw [if_neg (by omega)]
    exact ⟨hpx, rfl⟩
  · next hrow =>
    have hrows := h.row_le (by omega : (y.toInt + k).toNat < fb.height)
    split
    · rw [if_neg (by omega)]
      exact ⟨hpx, rfl⟩
    · next hcopy =>
      have hsize : k * (width.toNat * 4) + width.toNat * 4 ≤ pixels.length := hpx ▸ row_fits hk
      generalize hn : min width.toNat (fb.width - sx).toNat = n at hcopy ⊢
      have hoff : k * width.toNat * 4 = k * (width.toNat * 4) + 0 * 4 := by
        rw [Nat.mul_assoc, Nat.zero_mul, Nat.add_zero]
      rw [hoff]
      obtain ⟨hlen, hbyte⟩ := overwrite_segment fb.data pixels row k 0 n
        ((y.toInt + k).toNat * fb.stride + sx.toNat * 4) (by omega : col * 4 < width.toNat * 4) (by omega)
        (by omega) hb (by omega) (by omega)
      refine ⟨hlen.trans hpx, hbyte.trans ?_⟩
      by_cases hin : row = k ∧ sx + col < fb.width ∧ 0 ≤ y.toInt + row ∧ y.toInt + row < fb.height
      · rw [if_pos hin, if_pos (by omega)]
        obtain ⟨rfl, -⟩ := hin
        congr 1
        omega
      · rw [if_neg (by omega), if_neg hin]

theorem length_takeRow {pixels : Bytes} (hpx : pixels.length = width.toNat * height.toNat * 4) {k : Nat}
    (hk : k < height.toNat) : (takeRow fb x y width pixels k).length = width.toNat * height.toNat * 4 := by
  simp only [takeRow]
  split
  · exact hpx
  · split
    · exact hpx
    · have hrow := row_fits (w := width.toNat) hk
      refine (length_overwrite ?_).trans hpx
      rw [slice, List.length_take, hpx, Nat.mul_assoc k]
      omega

theorem length_extractPixels : (fb.extractPixels x y width height).length = width.toNat * height.toNat * 4 := by
  by_cases hemp : width.toNat = 0 ∨ height.toNat = 0
  · rw [Framebuffer.extractPixels, if_pos hemp]
    rcases hemp with h0 | h0 <;> simp [h0]
  · rw [extractPixels_rows (by omega) (by omega)]
    have hrows : ∀ n ≤ height.toNat, ((List.range n).foldl (takeRow fb x y width)
        (List.replicate (width.toNat * height.toNat * 4) 0)).length = width.toNat * height.toNat * 4 := by
      intro n hn
      induction n with
      | zero => simp
      | succ n ih =>
        rw [List.range_succ, List.foldl_concat]
        exact length_takeRow (ih (by omega)) hn
    exact hrows _ (Nat.le_refl _)

theorem extractPixels_getElem? (h : WellFormed fb) (hcol : col < width.toNat) (hrow : row < height.toNat)
    {b : Nat} (hb : b < 4) :
    (fb.extractPixels x y width height)[row * (width.toNat * 4) + col * 4 + b]? =
      if max x.toInt 0 + col < fb.width ∧ 0 ≤ y.toInt + row ∧ y.toInt + row < fb.height then
        fb.data[(y.toInt + row).toNat * fb.stride + (max x.toInt 0 + col).toNat * 4 + b]?
      else some 0 := by
  have hsize := row_fits (w := width.toNat) hrow
  rw [extractPixels_rows (by omega) (by omega)]
  generalize hblack : List.replicate (width.toNat * height.toNat * 4) (0 : UInt8) = black
  have hlen : black.length = width.toNat * height.toNat * 4 := by
    rw [← hblack, List.length_replicate]
  have hround := fun pixels : Bytes => fun (hpx : pixels.length = black.length) (k : Nat) =>
    fun hk : k < height.toNat => takeRow_getElem? (x := x) (y := y) h row hcol hb (hpx.trans hlen) hk
  by_cases hin : max x.toInt 0 + col < fb.width ∧ 0 ≤ y.toInt + row ∧ y.toInt + row < fb.height
  · rw [if_pos hin, getElem?_foldl_range (r := row) (fun pixels hp k hk => ?_) (fun pixels hp k hk hne => ?_)
      (fun pixels hp hk => ?_)]
    · rw [if_pos hrow]
    · rw [(hround pixels hp k hk).1, hlen]
    · rw [(hround pixels hp k hk).2, if_neg (by omega)]
    · rw [(hround pixels hp row hk).2, if_pos ⟨rfl, hin⟩]
  · rw [if_neg hin, getElem?_foldl_range (r := height.toNat) (v := none) (fun pixels hp k hk => ?_)
      (fun pixels hp k hk hne => ?_) (fun pixels hp hk => absurd hk (Nat.lt_irrefl _)),
      if_neg (Nat.lt_irrefl _)]
    · rw [← hblack, List.getElem?_replicate, if_pos (by omega)]
    · rw [(hround pixels hp k hk).1, hlen]
    · rw [(hround pixels hp k hk).2, if_neg (fun hk => hin hk.2)]

theorem imagePixel_extractPixels_at (h : WellFormed fb) (hcol : col < width.toNat) (hrow : row < height.toNat) :
    imagePixel (fb.extractPixels x y width height) width.toNat col row =
      copiedAt fb (max x.toInt 0 + col) (y.toInt + row) := by
  have hbyte : ∀ b, (row * width.toNat + col) * 4 + b = row * (width.toNat * 4) + col * 4 + b := by
    intro b
    rw [Nat.add_mul, Nat.mul_assoc]
  by_cases hin : max x.toInt 0 + col < fb.width ∧ 0 ≤ y.toInt + row ∧ y.toInt + row < fb.height
  · rw [copiedAt, if_pos ⟨by omega, hin.2.1⟩, copiedPixel, if_pos (by omega)]
    refine slice_congr fun b hb => ?_
    rw [hbyte, extractPixels_getElem? h hcol hrow hb, if_pos hin]
  · rw [copiedAt_of_outside (by omega)]
    have hblack : List.replicate 4 (0 : UInt8) = slice (List.replicate 4 0) 0 4 := rfl
    rw [hblack]
    refine slice_congr fun b hb => ?_
    rw [hbyte, extractPixels_getElem? h hcol hrow hb, if_neg hin, List.getElem?_replicate,
      if_pos (by omega)]

theorem imagePixel_extractPixels (h : WellFormed fb) (hcol : col < width.toNat) (hrow : row < height.toNat) :
    imagePixel (fb.extractPixels 0 0 width height) width.toNat col row = copiedPixel fb col row := by
  have hpixel := imagePixel_extractPixels_at (x := 0) (y := 0) h hcol hrow
  simp only [Int16.toInt_zero, max_self, Int.zero_add] at hpixel
  exact hpixel.trans (copiedAt_natCast fb col row)

end X11Web.ImagePixels
