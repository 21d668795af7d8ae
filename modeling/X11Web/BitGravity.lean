import X11Web.ExtractPixels

namespace X11Web.BitGravity

open Windows Overwrites Pixels DirtyMirror ImagePixels ExtractPixels

variable {fb : Framebuffer} {gravity : UInt8} {newWidth newHeight col row : Nat}

def displacement (fb : Framebuffer) (newWidth newHeight : Nat) (gravity : UInt8) : Int × Int :=
  Gravity.shift gravity.toNat (newWidth - fb.width) (newHeight - fb.height)

theorem shift_between (gravity : Nat) (dw dh : Int) :
    (min dw 0 ≤ (Gravity.shift gravity dw dh).1 ∧ (Gravity.shift gravity dw dh).1 ≤ max dw 0) ∧
      min dh 0 ≤ (Gravity.shift gravity dw dh).2 ∧ (Gravity.shift gravity dw dh).2 ≤ max dh 0 := by
  have hhalf : ∀ d : Int, min d 0 ≤ d.tdiv 2 ∧ d.tdiv 2 ≤ max d 0 := by
    intro d
    by_cases hd : 0 ≤ d
    · rw [Int.tdiv_eq_ediv_of_nonneg hd]
      omega
    · obtain ⟨e, rfl⟩ : ∃ e, d = -e := ⟨-d, by omega⟩
      rw [Int.neg_tdiv, Int.tdiv_eq_ediv_of_nonneg (by omega)]
      omega
  have hzero : ∀ d : Int, min d 0 ≤ 0 ∧ 0 ≤ max d 0 := by omega
  have hself : ∀ d : Int, min d 0 ≤ d ∧ d ≤ max d 0 := by omega
  have hw := hhalf dw
  have hh := hhalf dh
  unfold Gravity.shift
  split <;> exact ⟨by first | exact hzero _ | exact hhalf _ | exact hself _,
    by first | exact hzero _ | exact hhalf _ | exact hself _⟩

theorem shift_neg (gravity : Nat) (dw dh : Int) :
    Gravity.shift gravity (-dw) (-dh) = -Gravity.shift gravity dw dh := by
  unfold Gravity.shift
  split <;> simp [Int.neg_tdiv]

/-- The round of the loop for one row of the old content. -/
def moveRow (fb : Framebuffer) (newWidth newHeight : Nat) (shift : Int × Int) (data : Bytes) (srcY : Nat) : Bytes :=
  let srcXStart := (-shift.1).toNat
  let dstXStart := shift.1.toNat
  let copyW := min fb.width (newWidth - dstXStart) - srcXStart
  let dstY := srcY + shift.2
  if dstY < 0 ∨ (newHeight : Int) ≤ dstY ∨ copyW = 0 then data
  else
    let srcOff := srcY * fb.stride + srcXStart * 4
    let dstOff := dstY.toNat * (newWidth * 4) + dstXStart * 4
    if srcOff + copyW * 4 ≤ fb.data.length ∧ dstOff + copyW * 4 ≤ data.length then
      overwrite data dstOff (slice fb.data srcOff (copyW * 4))
    else data

/-- The old pixel that is copied to a place. Its column is below the new width. -/
def MovedTo (fb : Framebuffer) (newWidth : Nat) (shift : Int × Int) (col row : Nat) : Prop :=
  col - shift.1 < newWidth ∧ (0 ≤ col - shift.1 ∧ col - shift.1 < fb.width) ∧
    0 ≤ row - shift.2 ∧ row - shift.2 < fb.height

instance (fb : Framebuffer) (newWidth : Nat) (shift : Int × Int) (col row : Nat) :
    Decidable (MovedTo fb newWidth shift col row) :=
  inferInstanceAs (Decidable (_ ∧ _))

theorem moveRow_getElem? (h : WellFormed fb) (shift : Int × Int)
    (hcol : col < newWidth) (hrow : row < newHeight) {b : Nat} (hb : b < 4) {data : Bytes}
    (hdata : data.length = newHeight * (newWidth * 4)) {k : Nat} (hk : k < fb.height) :
    (moveRow fb newWidth newHeight shift data k).length = newHeight * (newWidth * 4) ∧
      (moveRow fb newWidth newHeight shift data k)[row * (newWidth * 4) + col * 4 + b]? =
        if (k : Int) = row - shift.2 ∧ MovedTo fb newWidth shift col row then
          fb.data[k * fb.stride + (col - shift.1).toNat * 4 + b]?
        else data[row * (newWidth * 4) + col * 4 + b]? := by
  have hstr := h.stride
  have hrows := h.row_le hk
  have hmvd : MovedTo fb newWidth shift col row ↔ col - shift.1 < newWidth ∧
      (0 ≤ col - shift.1 ∧ col - shift.1 < fb.width) ∧ 0 ≤ row - shift.2 ∧ row - shift.2 < fb.height := Iff.rfl
  simp only [moveRow]
  generalize hsrc : (-shift.1).toNat = src
  generalize hdst : shift.1.toNat = dst
  generalize hn : min fb.width (newWidth - dst) - src = n
  split
  · rw [if_neg (by rw [hmvd]; omega)]
    exact ⟨hdata, rfl⟩
  · next hskip =>
    have hfits : (k + shift.2).toNat * (newWidth * 4) + newWidth * 4 ≤ data.length := by
      rw [hdata, ← Nat.succ_mul]
      exact Nat.mul_le_mul_right _ (by omega)
    rw [if_pos (by omega)]
    obtain ⟨hlen, hbyte⟩ := overwrite_segment fb.data data row (k + shift.2).toNat dst n
      (k * fb.stride + src * 4) (by omega : col * 4 < newWidth * 4) (by omega) (by omega) hb (by omega) (by omega)
    refine ⟨hlen.trans hdata, hbyte.trans ?_⟩
    by_cases hin : (k : Int) = row - shift.2 ∧ MovedTo fb newWidth shift col row
    · rw [if_pos hin]
      rw [hmvd] at hin
      rw [if_pos (by omega)]
      congr 1
      omega
    · rw [if_neg hin]
      rw [hmvd] at hin
      rw [if_neg (by omega)]

theorem resizeWithGravity_rows (hw : newWidth ≠ 0) (hh : newHeight ≠ 0)
    (hne : ¬ (newWidth = fb.width ∧ newHeight = fb.height)) (hforget : gravity.toNat ≠ Gravity.bitForget) :
    fb.resizeWithGravity newWidth newHeight gravity =
      { fb.blank newWidth newHeight with
        data := (List.range fb.height).foldl
          (moveRow fb newWidth newHeight (displacement fb newWidth newHeight gravity))
          (List.replicate (newWidth * 4 * newHeight) 0) }.markDirty 0 0 newWidth newHeight := by
  rw [Framebuffer.resizeWithGravity, if_neg (by tauto), if_neg hne]
  dsimp only
  rw [if_neg hforget]
  rfl

theorem movedRows_getElem? (h : WellFormed fb) (shift : Int × Int) (hcol : col < newWidth) (hrow : row < newHeight)
    {b : Nat} (hb : b < 4) :
    ((List.range fb.height).foldl (moveRow fb newWidth newHeight shift)
        (List.replicate (newWidth * 4 * newHeight) 0))[row * (newWidth * 4) + col * 4 + b]? =
      if MovedTo fb newWidth shift col row then
        fb.data[(row - shift.2).toNat * fb.stride + (col - shift.1).toNat * 4 + b]?
      else some 0 := by
  have hsize := row_fits (w := newWidth) hrow
  generalize hblack : List.replicate (newWidth * 4 * newHeight) (0 : UInt8) = black
  have hlen : black.length = newHeight * (newWidth * 4) := by
    rw [← hblack, List.length_replicate, Nat.mul_comm]
  have hround := fun data : Bytes => fun (hdata : data.length = black.length) (k : Nat) =>
    fun hk : k < fb.height => moveRow_getElem? h shift hcol hrow hb (hdata.trans hlen) hk
  by_cases hin : MovedTo fb newWidth shift col row
  · have hrows := hin.2.2
    rw [if_pos hin, getElem?_foldl_range (r := (row - shift.2).toNat) (fun data hd k hk => ?_)
      (fun data hd k hk hne => ?_) (fun data hd hk => ?_)]
    · exact if_pos (by omega)
    · exact (hround data hd k hk).1.trans hlen.symm
    · rw [(hround data hd k hk).2, if_neg (by omega)]
    · rw [(hround data hd _ hk).2, if_pos ⟨by omega, hin⟩]
  · rw [if_neg hin, getElem?_foldl_range (r := fb.height) (v := none) (fun data hd k hk => ?_)
      (fun data hd k hk hne => ?_) (fun data hd hk => absurd hk (Nat.lt_irrefl _)), if_neg (Nat.lt_irrefl _)]
    · rw [← hblack, List.getElem?_replicate, if_pos]
      rw [Nat.mul_right_comm]
      omega
    · exact (hround data hd k hk).1.trans hlen.symm
    · rw [(hround data hd k hk).2, if_neg (fun hk => hin hk.2)]

/-- What can be resized: a new size, and a gravity that keeps the content. -/
structure Resizes (fb : Framebuffer) (newWidth newHeight : Nat) (gravity : UInt8) : Prop where
  width : newWidth ≠ 0
  height : newHeight ≠ 0
  changed : ¬ (newWidth = fb.width ∧ newHeight = fb.height)
  keeps : gravity.toNat ≠ Gravity.bitForget

theorem resizeWithGravity_size (hr : Resizes fb newWidth newHeight gravity) :
    (fb.resizeWithGravity newWidth newHeight gravity).width = newWidth ∧
      (fb.resizeWithGravity newWidth newHeight gravity).height = newHeight := by
  rw [resizeWithGravity_rows hr.width hr.height hr.changed hr.keeps, Framebuffer.markDirty]
  dsimp only
  split <;> exact ⟨rfl, rfl⟩

/-- An old pixel is moved where its column is below the new width, otherwise its place
stays transparent black. -/
theorem pixelAt_resizeWithGravity (h : WellFormed fb) (hr : Resizes fb newWidth newHeight gravity)
    (hcol : col < newWidth) (hrow : row < newHeight) :
    pixelAt (fb.resizeWithGravity newWidth newHeight gravity) col row =
      if col - (displacement fb newWidth newHeight gravity).1 < newWidth then
        copiedAt fb (col - (displacement fb newWidth newHeight gravity).1)
          (row - (displacement fb newWidth newHeight gravity).2)
      else noPixel := by
  rw [resizeWithGravity_rows hr.width hr.height hr.changed hr.keeps, pixelAt, (markDirty_data _ _ _ _ _).1,
    (markDirty_data _ _ _ _ _).2]
  generalize displacement fb newWidth newHeight gravity = shift
  have hbytes := fun b (hb : b < 4) => movedRows_getElem? h shift hcol hrow hb
  by_cases hin : MovedTo fb newWidth shift col row
  · obtain ⟨hlow, hx, hy⟩ := hin
    rw [if_pos hlow, copiedAt, if_pos ⟨hx.1, hy.1⟩, copiedPixel, if_pos (by omega)]
    exact slice_congr fun b hb => (hbytes b hb).trans (if_pos ⟨hlow, hx, hy⟩)
  · have hblank : slice (List.replicate 4 (0 : UInt8)) 0 4 = if col - shift.1 < newWidth then
        copiedAt fb (col - shift.1) (row - shift.2) else noPixel := by
      by_cases hlow : col - shift.1 < newWidth
      · rw [if_pos hlow, copiedAt_of_outside fun hfb => hin ⟨hlow, hfb.1, hfb.2⟩]
        rfl
      · rw [if_neg hlow]
        rfl
    rw [← hblank]
    refine slice_congr fun b hb => (hbytes b hb).trans ?_
    rw [if_neg hin, List.getElem?_replicate, if_pos (by omega)]

theorem displacement_back (hr : Resizes fb newWidth newHeight gravity) :
    displacement (fb.resizeWithGravity newWidth newHeight gravity) fb.width fb.height gravity =
      -displacement fb newWidth newHeight gravity := by
  rw [displacement, displacement, (resizeWithGravity_size hr).1, (resizeWithGravity_size hr).2, ← shift_neg,
    Int.neg_sub, Int.neg_sub]

theorem resizes_back (hr : Resizes fb newWidth newHeight gravity) (hw : fb.width ≠ 0) (hh : fb.height ≠ 0) :
    Resizes (fb.resizeWithGravity newWidth newHeight gravity) fb.width fb.height gravity := by
  refine ⟨hw, hh, fun hsame => hr.changed ?_, hr.keeps⟩
  rw [(resizeWithGravity_size hr).1, (resizeWithGravity_size hr).2] at hsame
  exact ⟨hsame.1.symm, hsame.2.symm⟩

/-- After growing and shrinking back, the pixels are there that the first resize did not
move past the old width. -/
theorem pixelAt_resize_back (h : WellFormed fb) (hr : Resizes fb newWidth newHeight gravity)
    (hwd : fb.width ≤ newWidth) (hht : fb.height ≤ newHeight) (hcol : col < fb.width)
    (hrow : row < fb.height) :
    pixelAt ((fb.resizeWithGravity newWidth newHeight gravity).resizeWithGravity fb.width fb.height gravity)
        col row =
      if col + (displacement fb newWidth newHeight gravity).1 < fb.width then pixelAt fb col row else noPixel := by
  have hback := resizes_back hr (by omega) (by omega)
  have hbetween := shift_between gravity.toNat (newWidth - fb.width) (newHeight - fb.height)
  rw [pixelAt_resizeWithGravity (resizeWithGravity_wellFormed h _ _ _) hback hcol hrow, displacement_back hr]
  rw [← displacement] at hbetween
  have hpx := fun {col row : Nat} => @pixelAt_resizeWithGravity fb gravity newWidth newHeight col row h hr
  generalize displacement fb newWidth newHeight gravity = shift at hbetween hpx ⊢
  obtain ⟨dx, dy⟩ := shift
  simp only [Prod.fst_neg, Prod.snd_neg, Int.sub_neg] at hbetween hpx ⊢
  by_cases hlow : col + dx < fb.width
  · have hx : col + dx = ((col + dx).toNat : Nat) := by omega
    have hy : row + dy = ((row + dy).toNat : Nat) := by omega
    have hx' : ((col + dx).toNat : Int) - dx = col := by omega
    have hy' : ((row + dy).toNat : Int) - dy = row := by omega
    rw [if_pos hlow, if_pos hlow, hx, hy, copiedAt_of_inside (by rw [(resizeWithGravity_size hr).1]; omega)
      (by rw [(resizeWithGravity_size hr).2]; omega), hpx (by omega) (by omega), hx', hy',
      if_pos (by omega), copiedAt_of_inside hcol hrow]
  · rw [if_neg hlow, if_neg hlow]

def fits32 (n : Int) : Prop := -2 ^ 31 ≤ n ∧ n < 2 ^ 31

structure NoOverflow (fb : Framebuffer) (newWidth newHeight : Nat) (gravity : UInt8) : Prop where
  sizes : fits32 (newWidth - fb.width) ∧ fits32 (newHeight - fb.height)
  source : fits32 (-(displacement fb newWidth newHeight gravity).1)
  columns : (displacement fb newWidth newHeight gravity).1.toNat ≤ newWidth
  rows : ∀ srcY < fb.height, fits32 (srcY + (displacement fb newWidth newHeight gravity).2)

theorem noOverflow_of_sizes (gravity : UInt8) (hw : fb.width < 2 ^ 31) (hh : fb.height < 2 ^ 31)
    (hnewWd : newWidth < 2 ^ 31) (hnewHt : newHeight < 2 ^ 31) :
    NoOverflow fb newWidth newHeight gravity := by
  have hbetween := shift_between gravity.toNat (newWidth - fb.width) (newHeight - fb.height)
  rw [← displacement] at hbetween
  refine ⟨⟨⟨?_, ?_⟩, ?_, ?_⟩, ⟨?_, ?_⟩, ?_, fun srcY hsrcY => ⟨?_, ?_⟩⟩ <;> omega

/-- The new framebuffer has the old pixels moved by the displacement and is transparent
black elsewhere, and a growth is undone by shrinking back. -/
structure MovesExactly (fb : Framebuffer) (newWidth newHeight : Nat) (gravity : UInt8) : Prop where
  noOverflow : NoOverflow fb newWidth newHeight gravity
  size : (fb.resizeWithGravity newWidth newHeight gravity).width = newWidth ∧
    (fb.resizeWithGravity newWidth newHeight gravity).height = newHeight
  pixels : ∀ col < newWidth, ∀ row < newHeight,
    pixelAt (fb.resizeWithGravity newWidth newHeight gravity) col row =
      copiedAt fb (col - (displacement fb newWidth newHeight gravity).1)
        (row - (displacement fb newWidth newHeight gravity).2)
  restores : fb.width ≠ 0 → fb.height ≠ 0 → fb.width ≤ newWidth → fb.height ≤ newHeight →
    ((fb.resizeWithGravity newWidth newHeight gravity).resizeWithGravity fb.width fb.height gravity).data = fb.data

/-- The pixels that the width at the wrong end cuts off are transparent black: those moved
left from beyond the new width, and after a growth those moved right past the old one. -/
structure BlankWhereLost (fb : Framebuffer) (newWidth newHeight : Nat) (gravity : UInt8) : Prop where
  left : ∀ col < newWidth, ∀ row < newHeight, newWidth ≤ col - (displacement fb newWidth newHeight gravity).1 →
    copiedAt fb (col - (displacement fb newWidth newHeight gravity).1)
      (row - (displacement fb newWidth newHeight gravity).2) = noPixel
  right : fb.width ≤ newWidth → fb.height ≤ newHeight → ∀ col < fb.width, ∀ row < fb.height,
    fb.width ≤ col + (displacement fb newWidth newHeight gravity).1 → pixelAt fb col row = noPixel

theorem movesExactly_iff (c : Canvas) (newWidth newHeight : Nat) (gravity : UInt8)
    (hr : Resizes c.fb newWidth newHeight gravity) (hw : c.fb.width < 2 ^ 31) (hh : c.fb.height < 2 ^ 31)
    (hnewWd : newWidth < 2 ^ 31) (hnewHt : newHeight < 2 ^ 31) :
    MovesExactly c.fb newWidth newHeight gravity ↔ BlankWhereLost c.fb newWidth newHeight gravity := by
  have h := c.wellFormed
  have hshrunk := resizeWithGravity_wellFormed (resizeWithGravity_wellFormed h newWidth newHeight gravity)
    c.fb.width c.fb.height gravity
  constructor
  · intro hexact
    refine ⟨fun col hcol row hrow hlost => ?_, fun hwd hht col hcol row hrow hlost => ?_⟩
    · rw [← hexact.pixels col hcol row hrow, pixelAt_resizeWithGravity h hr hcol hrow, if_neg (by omega)]
    · have hsize := resizeWithGravity_size (resizes_back hr (by omega) (by omega))
      have hdata := hexact.restores (by omega) (by omega) hwd hht
      rw [data_eq_iff_pixels h hshrunk hsize.1 hsize.2] at hdata
      rw [← hdata col hcol row hrow, pixelAt_resize_back h hr hwd hht hcol hrow, if_neg (by omega)]
  · intro hblank
    refine ⟨noOverflow_of_sizes gravity hw hh hnewWd hnewHt, resizeWithGravity_size hr,
      fun col hcol row hrow => ?_, fun hw0 hh0 hwd hht => ?_⟩
    · rw [pixelAt_resizeWithGravity h hr hcol hrow]
      by_cases hlow : col - (displacement c.fb newWidth newHeight gravity).1 < newWidth
      · exact if_pos hlow
      · rw [if_neg hlow, hblank.left col hcol row hrow (by omega)]
    · have hsize := resizeWithGravity_size (resizes_back hr hw0 hh0)
      rw [data_eq_iff_pixels h hshrunk hsize.1 hsize.2]
      intro col hcol row hrow
      rw [pixelAt_resize_back h hr hwd hht hcol hrow]
      by_cases hlow : col + (displacement c.fb newWidth newHeight gravity).1 < c.fb.width
      · exact if_pos hlow
      · rw [if_neg hlow, hblank.right hwd hht col hcol row hrow (by omega)]

/-- A column is added on either side, and the red corner moves with its row. -/
theorem movesExactly_wider : MovesExactly redCorner.fb 5 2 2 :=
  (movesExactly_iff redCorner 5 2 2 ⟨by decide, by decide, by decide, by decide⟩ (by decide) (by decide)
    (by decide) (by decide)).mpr ⟨by decide +kernel, fun _ _ => by decide +kernel⟩

def redEdge : Canvas :=
  ⟨(Framebuffer.new 3 1).fillRect 2 0 1 1 0xFF0000,
    (fillRect_draws (new_wellFormed 3 1) 2 0 1 1 0xFF0000).wellFormed⟩

/-- Of three columns the last one is to be kept, and it is cut off. -/
theorem resize_drops_edge :
    ¬ ∀ (c : Canvas) (newWidth newHeight : Nat) (gravity : UInt8), Resizes c.fb newWidth newHeight gravity →
      MovesExactly c.fb newWidth newHeight gravity := by
  intro hall
  have hpx := (hall redEdge 1 1 3 ⟨by decide, by decide, by decide, by decide⟩).pixels 0 (by decide) 0 (by decide)
  exact absurd hpx (by decide +kernel)

end X11Web.BitGravity
