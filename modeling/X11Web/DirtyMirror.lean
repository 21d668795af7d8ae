import X11Web.Pixels

namespace X11Web.DirtyMirror

open Windows Overwrites Pixels List

inductive Drawing
  | fillRect (x y : Int16) (width height : UInt16) (color : UInt32)
  | fillRectRop (x y : Int16) (width height : UInt16) (color : UInt32) (function : UInt8)
      (planeMask : UInt32)
  | putImage (x y : Int16) (width height : UInt16) (image : Bytes)
  | putImageOver (x y : Int16) (width height : UInt16) (image : Bytes)
  | putImageOverGc (x y : Int16) (width height : UInt16) (image : Bytes) (function : UInt8)
      (planeMask : UInt32) (clipRects : List ClipRect)
  | putImageGc (x y : Int16) (width height : UInt16) (image : Bytes) (function : UInt8)
      (planeMask : UInt32) (clipRects : List ClipRect)
  | copyAreaSelf (srcX srcY dstX dstY : Int16) (width height : UInt16)
  | drawPointWithFunc (x y : Int32) (color : UInt32) (gcFunc : UInt8)
  | drawPointGc (x y : Int32) (color : UInt32) (gcFunc : UInt8) (planeMask : UInt32)
      (clipRects : List ClipRect)

def Drawing.apply (fb : Framebuffer) : Drawing → Framebuffer
  | .fillRect x y width height color => fb.fillRect x y width height color
  | .fillRectRop x y width height color function planeMask =>
    fb.fillRectRop x y width height color function planeMask
  | .putImage x y width height image => fb.putImage x y width height image
  | .putImageOver x y width height image => fb.putImageOver x y width height image
  | .putImageOverGc x y width height image function planeMask clipRects =>
    fb.putImageOverGc x y width height image function planeMask clipRects
  | .putImageGc x y width height image function planeMask clipRects =>
    fb.putImageGc x y width height image function planeMask clipRects
  | .copyAreaSelf srcX srcY dstX dstY width height =>
    fb.copyAreaSelf srcX srcY dstX dstY width height
  | .drawPointWithFunc x y color gcFunc => fb.drawPointWithFunc x y color gcFunc
  | .drawPointGc x y color gcFunc planeMask clipRects =>
    fb.drawPointGc x y color gcFunc planeMask clipRects

structure Screen where
  fb : Framebuffer
  mirror : Bytes

/-- The frontend puts the pixels into its image of the given width, row by row. -/
def putPixels (width : Nat) (mirror : Bytes) (p : DirtyPixels) : Bytes :=
  (List.range p.height.toNat).foldl (fun mirror row =>
    overwrite mirror ((p.y.toInt.toNat + row) * (width * 4) + p.x.toInt.toNat * 4)
      (slice p.pixels (row * (p.width.toNat * 4)) (p.width.toNat * 4))) mirror

def Screen.take (s : Screen) : Screen :=
  let taken := s.fb.takeDirtyPixels
  ⟨taken.2, taken.1.elim s.mirror (putPixels s.fb.width s.mirror)⟩

inductive ScreenAction
  | draw (d : Drawing)
  | take

def Screen.apply (s : Screen) : ScreenAction → Screen
  | .draw d => ⟨d.apply s.fb, s.mirror⟩
  | .take => s.take

/-- The data fills the rows, and the dirty box begins inside. After a resize it may
end outside. -/
structure WellFormed (fb : Framebuffer) : Prop where
  stride : fb.stride = fb.width * 4
  length : fb.data.length = fb.height * fb.stride
  dirty : ∀ d ∈ fb.dirty, 0 ≤ d.x ∧ 0 ≤ d.y ∧ 0 < d.width ∧ 0 < d.height ∧
    d.x < fb.width ∧ d.y < fb.height

def Contains (r : Rect) (col row : Nat) : Prop :=
  r.x ≤ col ∧ col < r.x + r.width ∧ r.y ≤ row ∧ row < r.y + r.height

def cells (stride : Nat) (r : Rect) : Set Nat := {i | Contains r (i % stride / 4) (i / stride)}

def dirtyCells (fb : Framebuffer) : Set Nat := {i | ∃ d ∈ fb.dirty, i ∈ cells fb.stride d}

/-- What a drawing may do: it keeps the size, and changes no byte outside the box
that it leaves dirty. -/
structure Draws (fb fb' : Framebuffer) : Prop where
  width : fb'.width = fb.width
  height : fb'.height = fb.height
  wellFormed : WellFormed fb'
  grows : dirtyCells fb ⊆ dirtyCells fb'
  changes : ChangesOnly (dirtyCells fb') fb.data fb'.data

structure Mirrors (s : Screen) : Prop where
  wellFormed : WellFormed s.fb
  changes : ChangesOnly (dirtyCells s.fb) s.mirror s.fb.data

variable {fb fb' : Framebuffer} {s : Screen} {i : Nat} {x y : Int} {w h n : Nat} {data : Bytes}

theorem Draws.refl (h : WellFormed fb) : Draws fb fb :=
  ⟨rfl, rfl, h, subset_rfl, .refl _ _⟩

theorem Draws.trans {fb'' : Framebuffer} (h : Draws fb fb') (h' : Draws fb' fb'') : Draws fb fb'' :=
  ⟨h'.width.trans h.width, h'.height.trans h.height, h'.wellFormed, h.grows.trans h'.grows,
    (h.changes.mono h'.grows).trans h'.changes⟩

theorem mem_cells_of_mem_Ico {stride row col : Nat} (hfit : (col + n) * 4 ≤ stride)
    (hi : i ∈ Set.Ico (row * stride + col * 4) (row * stride + col * 4 + n * 4)) :
    i / stride = row ∧ col ≤ i % stride / 4 ∧ i % stride / 4 < col + n := by
  obtain ⟨hlow, hhigh⟩ := hi
  obtain ⟨k, rfl⟩ : ∃ k, i = k + row * stride := ⟨i - row * stride, by omega⟩
  have hpos : 0 < stride := by omega
  have hk : k < stride := by omega
  rw [Nat.add_mul_div_right _ _ hpos, Nat.add_mul_mod_self_right, Nat.mod_eq_of_lt hk,
    Nat.div_eq_of_lt hk]
  omega

theorem WellFormed.inside (h : WellFormed fb) (hi : i < fb.data.length) :
    i / fb.stride < fb.height ∧ i % fb.stride / 4 < fb.width := by
  rw [h.length] at hi
  have hpos : 0 < fb.stride := Nat.pos_of_mul_pos_left (Nat.zero_lt_of_lt hi)
  have hmod := Nat.mod_lt i hpos
  have hstr := h.stride
  exact ⟨Nat.div_lt_of_lt_mul (by rwa [Nat.mul_comm]), by omega⟩

theorem WellFormed.row_le (h : WellFormed fb) {row : Nat} (hrow : row < fb.height) :
    row * fb.stride + fb.stride ≤ fb.data.length := by
  rw [h.length, ← Nat.succ_mul]
  exact Nat.mul_le_mul_right fb.stride hrow

/-- The box after `markDirty` begins inside the framebuffer and contains the one before
and the rectangle, as far as this is inside. -/
theorem markDirty_dirty (h : WellFormed fb) (x y : Int) (w n : Nat) :
    (∀ d ∈ (fb.markDirty x y w n).dirty, 0 ≤ d.x ∧ 0 ≤ d.y ∧ 0 < d.width ∧ 0 < d.height ∧
      d.x < fb.width ∧ d.y < fb.height) ∧
    ∀ col row : Nat, (∃ d ∈ fb.dirty, Contains d col row) ∨
        (col < fb.width ∧ row < fb.height ∧ Contains ⟨x, y, w, n⟩ col row) →
      ∃ d ∈ (fb.markDirty x y w n).dirty, Contains d col row := by
  rw [Framebuffer.markDirty]
  split
  · next hemp =>
    refine ⟨h.dirty, fun col row hor => ?_⟩
    rcases hor with hold | ⟨hcol, hrow, hxl, hxr, hyl, hyr⟩
    · exact hold
    · dsimp only at hxl hxr hyl hyr hemp
      omega
  · next hsome =>
    dsimp only at hsome ⊢
    cases hd : fb.dirty with
    | none =>
      refine ⟨?_, fun col row hor => ⟨_, rfl, ?_⟩⟩
      · intro d hmem
        obtain rfl := Option.some.inj hmem
        dsimp only
        omega
      · rcases hor with ⟨d, hmem, -⟩ | ⟨hcol, hrow, hxl, hxr, hyl, hyr⟩
        · simp at hmem
        · simp only [Contains] at hxl hxr hyl hyr ⊢
          omega
    | some d =>
      have hbox := h.dirty d hd
      refine ⟨?_, fun col row hor => ⟨_, rfl, ?_⟩⟩
      · intro d' hmem
        obtain rfl := Option.some.inj hmem
        dsimp only
        omega
      · rcases hor with ⟨d', hmem, hxl, hxr, hyl, hyr⟩ | ⟨hcol, hrow, hxl, hxr, hyl, hyr⟩
        · obtain rfl := Option.some.inj hmem
          simp only [Contains]
          omega
        · simp only [Contains] at hxl hxr hyl hyr ⊢
          omega

theorem markDirty_draws (h : WellFormed fb)
    (hchgs : ChangesOnly (cells fb.stride ⟨x, y, w, n⟩) fb.data data) :
    Draws fb ({ fb with data := data }.markDirty x y w n) := by
  have hdata : WellFormed { fb with data := data } :=
    ⟨h.stride, hchgs.length.trans h.length, h.dirty⟩
  -- only the dirty box is touched
  have hfields : ({ fb with data := data }.markDirty x y w n).width = fb.width ∧
      ({ fb with data := data }.markDirty x y w n).height = fb.height ∧
      ({ fb with data := data }.markDirty x y w n).stride = fb.stride ∧
      ({ fb with data := data }.markDirty x y w n).data = data := by
    rw [Framebuffer.markDirty]
    split
    · exact ⟨rfl, rfl, rfl, rfl⟩
    · exact ⟨rfl, rfl, rfl, rfl⟩
  obtain ⟨hwd, hht, hstr, hsame⟩ := hfields
  obtain ⟨hbox, hcvs⟩ := markDirty_dirty hdata x y w n
  refine ⟨hwd, hht, ⟨?_, ?_, ?_⟩, fun i hi => ?_, ?_, fun i hi => ?_⟩
  · rw [hstr, hwd]
    exact h.stride
  · rw [hsame, hht, hstr]
    exact hdata.length
  · rw [hwd, hht]
    exact hbox
  · rw [dirtyCells, hstr]
    exact hcvs _ _ (.inl hi)
  · rw [hsame]
    exact hchgs.length
  · rw [hsame]
    rw [dirtyCells, hstr] at hi
    refine hchgs.getElem?_eq (fun hlt hcell => hi (hcvs _ _ (.inr ?_)))
    obtain ⟨hrow, hcol⟩ := hdata.inside hlt
    exact ⟨hcol, hrow, hcell⟩

theorem overwrite_cells (h : WellFormed fb) (hlen : data.length = fb.data.length)
    {row col : Nat} (hrow : row < fb.height) (hcol : col + n ≤ fb.width) {part : Bytes}
    (hpart : part.length = n * 4) {r : Rect}
    (hr : ∀ c, col ≤ c → c < col + n → Contains r c row) :
    ChangesOnly (cells fb.stride r) data (overwrite data (row * fb.stride + col * 4) part) := by
  have hstr := h.stride
  have hrows := h.row_le hrow
  refine (overwrite_changesOnly (by omega)).mono fun i hi => ?_
  rw [hpart] at hi
  obtain ⟨hdiv, hleft, hright⟩ := mem_cells_of_mem_Ico (by omega) hi
  show Contains r (i % fb.stride / 4) (i / fb.stride)
  rw [hdiv]
  exact hr _ hleft hright

theorem length_rowBuf (color : UInt32) (k : Nat) :
    ((List.range k).flatMap (fun _ => (unpackRgb color 0xFF).bytes)).length = k * 4 :=
  length_flatMap_range fun _ _ => rfl

theorem fillRect_draws (h : WellFormed fb) (x y : Int16) (width height : UInt16) (color : UInt32) :
    Draws fb (fb.fillRect x y width height color) := by
  simp only [Framebuffer.fillRect]
  split
  · exact .refl h
  · next hcols =>
    refine markDirty_draws h (.foldl _ fun data hlen row hmem => ?_)
    have hht := mem_range.mp hmem
    split
    · exact .refl _ _
    · split
      · refine overwrite_cells h hlen (by omega) (by omega) (length_rowBuf _ _) ?_
        intro c hleft hright
        simp only [Contains]
        omega
      · exact .refl _ _

theorem fillRectRop_draws (h : WellFormed fb) (x y : Int16) (width height : UInt16)
    (color : UInt32) (function : UInt8) (planeMask : UInt32) :
    Draws fb (fb.fillRectRop x y width height color function planeMask) := by
  rw [Framebuffer.fillRectRop]
  split
  · exact fillRect_draws h x y width height color
  · split
    · exact .refl h
    · dsimp only
      split
      · exact .refl h
      · refine markDirty_draws h (.foldl _ fun data hlen row hmem => ?_)
        have hht := mem_range.mp hmem
        split
        · exact .refl _ _
        · split
          · exact .refl _ _
          · refine .foldl _ fun data' hlen' k hk => ?_
            have hcol := mem_range.mp hk
            rw [writePixel, Nat.add_assoc, ← Nat.add_mul]
            refine overwrite_cells (n := 1) h (hlen'.trans hlen) (by omega) (by omega) rfl ?_
            intro c hleft hright
            simp only [Contains]
            omega

theorem colStart_eq {x : Int16} (hlt : colStart x < 2 ^ 16) :
    (colStart x : Int) = max (-x.toInt) 0 := by
  have hlow := Int16.le_toInt x
  rw [colStart] at hlt ⊢
  by_cases hneg : x.toInt < 0
  · rw [if_pos hneg, asUsize, Int16.toInt_neg] at hlt ⊢
    by_cases hmin : x.toInt = -2 ^ 15
    · rw [hmin] at hlt
      simp [Int.bmod] at hlt
    · rw [Int.bmod_eq_of_le (by omega) (by omega)]
      omega
  · rw [if_neg hneg]
    omega

theorem putImage_draws (h : WellFormed fb) (x y : Int16) (width height : UInt16) (image : Bytes) :
    Draws fb (fb.putImage x y width height image) := by
  simp only [Framebuffer.putImage]
  split
  · exact .refl h
  · split
    · exact .refl h
    · refine markDirty_draws h (.foldl _ fun data hlen row hmem => ?_)
      have hht := mem_range.mp hmem
      have hwd := width.toNat_lt
      split
      · exact .refl _ _
      · split
        · exact .refl _ _
        · next hcols =>
          have hst := colStart_eq (x := x) (by omega)
          split
          · next hfits =>
            refine overwrite_cells h hlen (by omega) (by omega) (length_slice hfits.2) ?_
            intro c hleft hright
            simp only [Contains]
            omega
          · exact .refl _ _

theorem blitPixels_draws (h : WellFormed fb) (x y : Int16) (width height : UInt16)
    (pixel : Bytes → Int → Int → Nat → Nat → Option Rgba) :
    Draws fb (fb.blitPixels x y width height pixel) := by
  simp only [Framebuffer.blitPixels]
  refine markDirty_draws h (.foldl _ fun data hlen row hmem => ?_)
  have hht := mem_range.mp hmem
  split
  · exact .refl _ _
  · refine .foldl _ fun data' hlen' col hcol => ?_
    have hwd := mem_range.mp hcol
    split
    · exact .refl _ _
    · split
      · exact .refl _ _
      · split
        · exact .refl _ _
        · refine overwrite_cells (n := 1) h (hlen'.trans hlen) (by omega) (by omega) rfl ?_
          intro c hleft hright
          simp only [Contains]
          omega

theorem putImageOver_draws (h : WellFormed fb) (x y : Int16) (width height : UInt16)
    (image : Bytes) : Draws fb (fb.putImageOver x y width height image) := by
  rw [Framebuffer.putImageOver]
  split
  · exact .refl h
  · split
    · exact .refl h
    · exact blitPixels_draws h x y width height _

theorem drawPoint_draws (h : WellFormed fb) {x y : Int}
    (hins : ¬ (x < 0 ∨ y < 0 ∨ (fb.width : Int) ≤ x ∨ (fb.height : Int) ≤ y)) (p : Rgba) :
    Draws fb ({ fb with
      data := overwrite fb.data (y.toNat * fb.stride + x.toNat * 4) p.bytes }.markDirty x y 1 1) := by
  refine markDirty_draws h (overwrite_cells (n := 1) h rfl (by omega) (by omega) rfl ?_)
  intro c hleft hright
  simp only [Contains]
  omega

theorem drawPointWithFunc_draws (h : WellFormed fb) (x y : Int32) (color : UInt32)
    (gcFunc : UInt8) : Draws fb (fb.drawPointWithFunc x y color gcFunc) := by
  simp only [Framebuffer.drawPointWithFunc]
  split
  · exact .refl h
  · next hins =>
    split
    · exact .refl h
    · exact drawPoint_draws h hins _

theorem Drawing.apply_draws (h : WellFormed fb) (d : Drawing) : Draws fb (d.apply fb) := by
  cases d with
  | fillRect x y width height color => exact fillRect_draws h x y width height color
  | fillRectRop x y width height color function planeMask =>
    exact fillRectRop_draws h x y width height color function planeMask
  | putImage x y width height image => exact putImage_draws h x y width height image
  | putImageOver x y width height image => exact putImageOver_draws h x y width height image
  | putImageOverGc x y width height image function planeMask clipRects =>
    rw [Drawing.apply, Framebuffer.putImageOverGc]
    split
    · exact .refl h
    · split
      · exact putImageOver_draws h x y width height image
      · split
        · exact .refl h
        · exact blitPixels_draws h x y width height _
  | putImageGc x y width height image function planeMask clipRects =>
    rw [Drawing.apply, Framebuffer.putImageGc]
    split
    · exact .refl h
    · split
      · exact putImage_draws h x y width height image
      · split
        · exact .refl h
        · exact blitPixels_draws h x y width height _
  | copyAreaSelf srcX srcY dstX dstY width height =>
    rw [Drawing.apply, Framebuffer.copyAreaSelf]
    split
    · exact .refl h
    · exact putImage_draws h dstX dstY width height _
  | drawPointWithFunc x y color gcFunc => exact drawPointWithFunc_draws h x y color gcFunc
  | drawPointGc x y color gcFunc planeMask clipRects =>
    simp only [Drawing.apply, Framebuffer.drawPointGc]
    split
    · exact .refl h
    · next hins =>
      split
      · exact .refl h
      · split
        · exact drawPointWithFunc_draws h x y color 3
        · split
          · exact .refl h
          · exact drawPoint_draws h hins _

theorem new_wellFormed (width height : Nat) : WellFormed (Framebuffer.new width height) :=
  ⟨rfl, by simp [Framebuffer.new, Nat.mul_comm], fun d hd => by simp [Framebuffer.new] at hd⟩

theorem blank_markDirty_wellFormed (h : WellFormed fb) {width height : Nat} (hw : 0 < width)
    (hh : 0 < height) (hlen : data.length = (fb.blank width height).data.length) :
    WellFormed ({ fb.blank width height with data := data }.markDirty 0 0 width height) := by
  have hnew := new_wellFormed width height
  rw [Framebuffer.markDirty, if_neg (by
    simp only [Framebuffer.blank, Framebuffer.new]
    omega)]
  refine ⟨rfl, hlen.trans hnew.length, ?_⟩
  intro d hmem
  obtain rfl := Option.some.inj hmem
  simp only [Framebuffer.blank, Framebuffer.new]
  cases hd : fb.dirty with
  | none => simp only; omega
  | some d =>
    have hbox := h.dirty d hd
    simp only
    omega

theorem resizeWithGravity_wellFormed (h : WellFormed fb) (width height : Nat) (gravity : UInt8) :
    WellFormed (fb.resizeWithGravity width height gravity) := by
  simp only [Framebuffer.resizeWithGravity]
  split
  · exact h
  · next hpos =>
    split
    · exact h
    · split
      · exact blank_markDirty_wellFormed h (by omega) (by omega) rfl
      · refine blank_markDirty_wellFormed h (by omega) (by omega)
          (ChangesOnly.foldl (S := Set.univ) _ ?_).length
        intro data hlen y hy
        split
        · exact .refl _ _
        · split
          · next hfits =>
            refine (overwrite_changesOnly ?_).mono (Set.subset_univ _)
            rw [length_slice hfits.1]
            exact hfits.2
          · exact .refl _ _

structure Canvas where
  fb : Framebuffer
  wellFormed : WellFormed fb

/-- The part of the dirty box inside the framebuffer, and its rows, are taken; they fit the
types of the result. -/
theorem takeDirtyPixels_some (h : WellFormed fb) (hw : fb.width ≤ 32767) (hh : fb.height ≤ 32767)
    {d : Rect} (hd : fb.dirty = some d) :
    ∃ p, fb.takeDirtyPixels = (some p, { fb with dirty := none }) ∧
      p.x.toInt = d.x ∧ p.y.toInt = d.y ∧
      p.width.toNat = min d.width (fb.width - d.x).toNat ∧
      p.height.toNat = min d.height (fb.height - d.y).toNat ∧
      p.pixels = (List.range p.height.toNat).flatMap (fun row => slice fb.data
        ((d.y.toNat + row) * fb.stride + d.x.toNat * 4) (p.width.toNat * 4)) := by
  have hbox := h.dirty d hd
  have hstr := h.stride
  have hx : min (max d.x 0) ((fb.width : Int) - 1) = d.x := by omega
  have hy : min (max d.y 0) ((fb.height : Int) - 1) = d.y := by omega
  rw [Framebuffer.takeDirtyPixels, hd]
  dsimp only
  rw [if_neg (by omega), hx, hy]
  have hwd : (UInt16.ofNat (min d.width (fb.width - d.x).toNat)).toNat =
      min d.width (fb.width - d.x).toNat := by
    rw [UInt16.toNat_ofNat', Nat.mod_eq_of_lt (by omega)]
  have hht : (UInt16.ofNat (min d.height (fb.height - d.y).toNat)).toNat =
      min d.height (fb.height - d.y).toNat := by
    rw [UInt16.toNat_ofNat', Nat.mod_eq_of_lt (by omega)]
  refine ⟨_, rfl, ?_, ?_, hwd, hht, ?_⟩
  · exact Int16.toInt_ofInt_of_le (by omega) (by omega)
  · exact Int16.toInt_ofInt_of_le (by omega) (by omega)
  · dsimp only
    rw [hwd, hht]
    refine flatMap_congr fun row hrow => if_pos ?_
    have hin := mem_range.mp hrow
    have hfits := h.row_le (show d.y.toNat + row < fb.height by omega)
    omega

theorem mem_row_of_mem_cells (h : WellFormed fb) {d : Rect} (hd : fb.dirty = some d)
    (hi : i < fb.data.length) (hcell : i ∈ cells fb.stride d) :
    ∃ row ∈ List.range (min d.height (fb.height - d.y).toNat),
      i ∈ Set.Ico ((d.y.toNat + row) * fb.stride + d.x.toNat * 4)
        ((d.y.toNat + row) * fb.stride + d.x.toNat * 4 +
          min d.width (fb.width - d.x).toNat * 4) := by
  obtain ⟨hrow, hcol⟩ := h.inside hi
  have hbox := h.dirty d hd
  obtain ⟨hxl, hxr, hyl, hyr⟩ := hcell
  have hspl := Nat.div_add_mod' i fb.stride
  generalize i / fb.stride = row at hrow hyl hyr hspl
  refine ⟨row - d.y.toNat, mem_range.mpr (by omega), ?_⟩
  have hsum : d.y.toNat + (row - d.y.toNat) = row := by omega
  rw [hsum]
  constructor
  · omega
  · omega

theorem putPixels_eq (h : WellFormed fb) (hw : fb.width ≤ 32767) (hh : fb.height ≤ 32767)
    {mirror : Bytes} (hmir : ChangesOnly (dirtyCells fb) mirror fb.data) {d : Rect}
    (hd : fb.dirty = some d) {p : DirtyPixels}
    (hp : fb.takeDirtyPixels = (some p, { fb with dirty := none })) :
    putPixels fb.width mirror p = fb.data ∧
      p.pixels.length = 4 * p.width.toNat * p.height.toNat := by
  obtain ⟨p', hp', hx, hy, hwd, hht, hpx⟩ := takeDirtyPixels_some h hw hh hd
  obtain rfl := Option.some.inj (Prod.mk.inj (hp'.symm.trans hp)).1
  have hbox := h.dirty d hd
  have hstr := h.stride
  -- each row that is taken is a slice of the data
  have hrows : ∀ row < p'.height.toNat,
      (d.y.toNat + row) * fb.stride + d.x.toNat * 4 + p'.width.toNat * 4 ≤ fb.data.length := by
    intro row hrow
    have hfits := h.row_le (show d.y.toNat + row < fb.height by omega)
    omega
  have hslices : ∀ row < p'.height.toNat, (slice fb.data
      ((d.y.toNat + row) * fb.stride + d.x.toNat * 4) (p'.width.toNat * 4)).length =
        p'.width.toNat * 4 := fun row hrow => length_slice (hrows row hrow)
  have hput : putPixels fb.width mirror p' = (List.range p'.height.toNat).foldl (fun mirror row =>
      overwrite mirror ((d.y.toNat + row) * fb.stride + d.x.toNat * 4)
        (slice fb.data ((d.y.toNat + row) * fb.stride + d.x.toNat * 4) (p'.width.toNat * 4)))
      mirror := by
    rw [putPixels, hx, hy, ← hstr, hpx]
    refine foldl_ext _ _ _ fun mirror row hrow => ?_
    rw [slice_flatMap_range hslices (mem_range.mp hrow)]
  refine ⟨?_, ?_⟩
  · rw [hput]
    apply ext_getElem?
    intro i
    obtain ⟨hins, hout⟩ := getElem?_foldl_overwrite_slice (List.range p'.height.toNat)
      (fun row hrow => hrows row (mem_range.mp hrow)) hmir.length.symm i
    by_cases hi : i < fb.data.length ∧ i ∈ cells fb.stride d
    · apply hins
      rw [hwd, hht]
      exact mem_row_of_mem_cells h hd hi.1 hi.2
    · apply hout
      refine (hmir.getElem?_eq fun hlt hdirty => ?_).symm
      obtain ⟨d', hd', hcell⟩ := hdirty
      obtain rfl := Option.some.inj (hd.symm.trans hd')
      exact hi ⟨hlt, hcell⟩
  · rw [hpx, length_flatMap_range hslices, Nat.mul_comm, Nat.mul_comm _ 4]

theorem Mirrors.draw (h : Mirrors s) (d : Drawing) : Mirrors (s.apply (.draw d)) := by
  have hdrw := d.apply_draws h.wellFormed
  exact ⟨hdrw.wellFormed, (h.changes.mono hdrw.grows).trans hdrw.changes⟩

theorem Mirrors.take (h : Mirrors s) (hw : s.fb.width ≤ 32767) (hh : s.fb.height ≤ 32767) :
    s.take.mirror = s.take.fb.data ∧ s.take.fb = { s.fb with dirty := none } ∧
      ∀ p ∈ s.fb.takeDirtyPixels.1, p.pixels.length = 4 * p.width.toNat * p.height.toNat := by
  cases hd : s.fb.dirty with
  | none =>
    have hnone : s.fb.takeDirtyPixels = (none, s.fb) := by
      rw [Framebuffer.takeDirtyPixels, hd]
    rw [Screen.take, hnone]
    refine ⟨?_, ?_, fun p hp => by simp at hp⟩
    · apply ext_getElem?
      intro i
      refine (h.changes.outside i ?_).symm
      rintro ⟨d, hmem, -⟩
      rw [hd] at hmem
      simp at hmem
    · rw [← hd]
  | some d =>
    obtain ⟨p, hp, -⟩ := takeDirtyPixels_some h.wellFormed hw hh hd
    obtain ⟨hput, hlength⟩ := putPixels_eq h.wellFormed hw hh h.changes hd hp
    rw [Screen.take, hp]
    refine ⟨hput, rfl, fun p' hp' => ?_⟩
    obtain rfl := Option.some.inj hp'
    exact hlength

theorem Mirrors.apply (h : Mirrors s) (hw : s.fb.width ≤ 32767) (hh : s.fb.height ≤ 32767)
    (action : ScreenAction) :
    Mirrors (s.apply action) ∧ (s.apply action).fb.width = s.fb.width ∧
      (s.apply action).fb.height = s.fb.height := by
  cases action with
  | draw d =>
    have hdrw := d.apply_draws h.wellFormed
    exact ⟨h.draw d, hdrw.width, hdrw.height⟩
  | take =>
    obtain ⟨hmir, hfb, -⟩ := h.take hw hh
    refine ⟨⟨?_, ?_⟩, ?_, ?_⟩
    · rw [Screen.apply, hfb]
      exact ⟨h.wellFormed.stride, h.wellFormed.length, fun d hd => by simp at hd⟩
    · rw [Screen.apply, hmir]
      exact .refl _ _
    · rw [Screen.apply, hfb]
    · rw [Screen.apply, hfb]

def Screen.run (s : Screen) (actions : List ScreenAction) : Screen := actions.foldl Screen.apply s

theorem Mirrors.run (h : Mirrors s) (hw : s.fb.width ≤ 32767) (hh : s.fb.height ≤ 32767)
    (actions : List ScreenAction) :
    Mirrors (s.run actions) ∧ (s.run actions).fb.width ≤ 32767 ∧
      (s.run actions).fb.height ≤ 32767 := by
  induction actions generalizing s with
  | nil => exact ⟨h, hw, hh⟩
  | cons action actions ih =>
    obtain ⟨hstep, hwd, hht⟩ := h.apply hw hh action
    exact ih hstep (hwd.trans_le hw) (hht.trans_le hh)

/-- However the drawings and takes are mixed, a take brings the mirror up to date,
with as many bytes as its rectangle has. -/
theorem run_take_mirror (c : Canvas) (hw : c.fb.width ≤ 32767) (hh : c.fb.height ≤ 32767)
    (actions : List ScreenAction) :
    ((Screen.mk c.fb c.fb.data).run (actions ++ [.take])).mirror =
        ((Screen.mk c.fb c.fb.data).run (actions ++ [.take])).fb.data ∧
      ∀ p ∈ ((Screen.mk c.fb c.fb.data).run actions).fb.takeDirtyPixels.1,
        p.pixels.length = 4 * p.width.toNat * p.height.toNat := by
  have hst : Mirrors ⟨c.fb, c.fb.data⟩ := ⟨c.wellFormed, .refl _ _⟩
  obtain ⟨hrun, hwd, hht⟩ := hst.run hw hh actions
  obtain ⟨hmir, -, hpx⟩ := hrun.take hwd hht
  rw [Screen.run, foldl_append]
  exact ⟨hmir, hpx⟩

/-- A red rectangle that begins left of the framebuffer reaches the mirror. -/
theorem run_take_mirror_fill :
    let s := (Screen.mk (Framebuffer.new 3 2) (Framebuffer.new 3 2).data).run
      ([.draw (.fillRect (-1) 0 3 1 0xFF0000)] ++ [.take])
    s.mirror = s.fb.data ∧ slice s.mirror 0 12 = [255, 0, 0, 255, 255, 0, 0, 255, 0, 0, 0, 0] := by
  refine ⟨(run_take_mirror ⟨Framebuffer.new 3 2, new_wellFormed 3 2⟩ (by decide) (by decide)
    [.draw (.fillRect (-1) 0 3 1 0xFF0000)]).1, ?_⟩
  decide +kernel

end X11Web.DirtyMirror
