import X11Web.BitmapFonts
import X11Web.CheckedRuns
import X11Web.ImagePixels
import Mathlib

namespace X11Web.TextRendering

open Windows Overwrites Pixels ImagePixels BitmapFonts CheckedRuns List

def FitsI32 (n : Int) : Prop := -2 ^ 31 ≤ n ∧ n < 2 ^ 31

instance (n : Int) : Decidable (FitsI32 n) := inferInstanceAs (Decidable (_ ∧ _))

/-- A number of an `i32`. -/
def i32 (n : Int) : Checked Int := checked n (FitsI32 n) .overflow

def storePixel (pixels : Bytes) (idx : Nat) (color : Rgba) : Checked Bytes :=
  checked (overwrite pixels idx color.bytes) (idx + 4 ≤ pixels.length) .outOfBounds

def advance (f : BitmapFont) (ch : UInt8) : Int := (f.charInfo ch.toUInt16).characterWidth.toInt

def totalWidth (f : BitmapFont) (text : Bytes) : Checked Int := text.foldlM (fun w ch => i32 (w + advance f ch)) 0

/-- One set bit of a glyph at the origin (gx, gy), which may be negative. -/
def plotBit (w h : Nat) (fg : Rgba) (gx gy : Int) (row col : Nat) (pixels : Bytes) : Checked Bytes := do
  let px ← usize (asUsize gx + col)
  let py ← usize (asUsize gy + row)
  if px < w ∧ py < h then do
    let idx ← usize ((py * w + px) * 4)
    storePixel pixels idx fg
  else pure pixels

def plotRow (w h : Nat) (fg : Rgba) (gx gy : Int) (glyph : GlyphBitmap) (row : Nat) (pixels : Bytes) : Checked Bytes :=
  (List.range glyph.width.toNat).foldlM (fun pixels col =>
    if GlyphBits.get glyph.bitmap row col (GlyphBits.rowBytes glyph.width.toNat) then
      plotBit w h fg gx gy row col pixels
    else pure pixels) pixels

def plotGlyph (w h : Nat) (fg : Rgba) (gx gy : Int) (glyph : GlyphBitmap) (pixels : Bytes) : Checked Bytes :=
  (List.range glyph.height.toNat).foldlM (fun pixels row => plotRow w h fg gx gy glyph row pixels) pixels

def plotCharGlyph (f : BitmapFont) (w h : Nat) (fg : Rgba) (cursorX : Int) (ch : UInt8) (pixels : Bytes) :
    Checked Bytes :=
  match f.glyph ch.toUInt16 with
  | some glyph => do
    let gx ← i32 (cursorX + (f.charInfo ch.toUInt16).leftSideBearing.toInt)
    let gy ← i32 (f.fontAscent.toInt - (f.charInfo ch.toUInt16).ascent.toInt)
    plotGlyph w h fg gx gy glyph pixels
  | none => pure pixels

/-- A round of the loop over the text: the cursor and the pixels. -/
def plotChar (f : BitmapFont) (w h : Nat) (fg : Rgba) (s : Int × Bytes) (ch : UInt8) : Checked (Int × Bytes) := do
  let pixels ← plotCharGlyph f w h fg s.1 ch s.2
  let cursorX ← i32 (s.1 + advance f ch)
  pure (cursorX, pixels)

def plotText (f : BitmapFont) (w h : Nat) (fg : Rgba) (text : Bytes) (pixels : Bytes) : Checked Bytes := do
  let s ← text.foldlM (plotChar f w h fg) (0, pixels)
  pure s.2

def extent (f : BitmapFont) (text : Bytes) : Checked (UInt16 × UInt16) := do
  let totalWidth ← totalWidth f text
  let totalHeight ← addI16 f.fontAscent f.fontDescent
  pure (UInt16.ofNat (asU16 (max totalWidth 1)), totalHeight.toUInt16)

/-- Every pixel in the background, which ImageText fills its box with. -/
def fill (n : Nat) (bg : Rgba) (pixels : Bytes) : Checked Bytes :=
  (List.range n).foldlM (fun pixels i => storePixel pixels (i * 4) bg) pixels

/-- The text in its box, on what the background makes of so many pixels. -/
def renderOnto (f : BitmapFont) (text : Bytes) (fg : Rgba) (background : Nat → Bytes → Checked Bytes) :
    Checked (UInt16 × UInt16 × Bytes) := do
  let size ← extent f text
  let n ← usize (size.1.toNat * size.2.toNat * 4)
  alloc n
  let pixels ← background (size.1.toNat * size.2.toNat) (List.replicate n 0)
  let pixels ← plotText f size.1.toNat size.2.toNat fg text pixels
  pure (size.1, size.2, pixels)

def renderText (f : BitmapFont) (text : Bytes) (fg bg : UInt32) : Checked (UInt16 × UInt16 × Bytes) :=
  renderOnto f text (unpackRgb fg 0xFF) (fun n pixels => fill n (unpackRgb bg 0xFF) pixels)

def renderTextTransparent (f : BitmapFont) (text : Bytes) (fg : UInt32) : Checked (UInt16 × UInt16 × Bytes) :=
  renderOnto f text (unpackRgb fg 0xFF) (fun _ pixels => pure pixels)

def pen (f : BitmapFont) (text : Bytes) (i : Nat) : Int := ((text.take i).map (advance f)).sum

def inked (glyph : GlyphBitmap) (col row : Int) : Prop :=
  (0 ≤ col ∧ col < glyph.width.toNat ∧ 0 ≤ row ∧ row < glyph.height.toNat) ∧
    GlyphBits.get glyph.bitmap row.toNat col.toNat (GlyphBits.rowBytes glyph.width.toNat) = true

instance (glyph : GlyphBitmap) (col row : Int) : Decidable (inked glyph col row) := inferInstanceAs (Decidable (_ ∧ _))

def CharInks (f : BitmapFont) (p : Int) (ch : UInt8) (x y : Nat) : Prop :=
  ∃ glyph ∈ f.glyph ch.toUInt16, inked glyph (x - (p + (f.charInfo ch.toUInt16).leftSideBearing.toInt))
    (y - (f.fontAscent.toInt - (f.charInfo ch.toUInt16).ascent.toInt))

instance (f : BitmapFont) (p : Int) (ch : UInt8) (x y : Nat) : Decidable (CharInks f p ch x y) :=
  inferInstanceAs (Decidable (∃ glyph ∈ f.glyph ch.toUInt16, _))

def Foreground (f : BitmapFont) (text : Bytes) (x y : Nat) : Prop :=
  ∃ i < text.length, CharInks f (pen f text i) (text.getD i 0) x y

/-- The whole image of a text, without an overflow or a bad index on the way. -/
structure Rendered (f : BitmapFont) (text : Bytes) (fg bg : Rgba) (r : Checked (UInt16 × UInt16 × Bytes)) : Prop where
  within : Within (fun _ => True) r
  width : (r.value.1.toNat : Int) = pen f text text.length
  height : (r.value.2.1.toNat : Int) = f.fontAscent.toInt + f.fontDescent.toInt
  length : r.value.2.2.length = r.value.1.toNat * r.value.2.1.toNat * 4
  foreground : ∀ x < r.value.1.toNat, ∀ y < r.value.2.1.toNat, Foreground f text x y →
    imagePixel r.value.2.2 r.value.1.toNat x y = fg.bytes
  background : ∀ x < r.value.1.toNat, ∀ y < r.value.2.1.toNat, ¬Foreground f text x y →
    imagePixel r.value.2.2 r.value.1.toNat x y = bg.bytes

/-- From a negative origin a bit does not come to a place that is not negative. -/
def Apart (origin : Int) (k : Nat) : Prop := ¬(origin < 0 ∧ 0 ≤ origin + k)

instance (origin : Int) (k : Nat) : Decidable (Apart origin k) := inferInstanceAs (Decidable (¬_))

/-- The set bits of a glyph whose origin is negative all stay negative. -/
def GlyphFits (gx gy : Int) (glyph : GlyphBitmap) : Prop :=
  ∀ row < glyph.height.toNat, ∀ col < glyph.width.toNat,
    GlyphBits.get glyph.bitmap row col (GlyphBits.rowBytes glyph.width.toNat) = true → Apart gx col ∧ Apart gy row

instance (gx gy : Int) (glyph : GlyphBitmap) : Decidable (GlyphFits gx gy glyph) :=
  inferInstanceAs (Decidable (∀ row < _, ∀ col < _, _ → _))

/-- A character with the pen at `p` is drawn and moves the pen on. -/
structure CharFits (f : BitmapFont) (p : Int) (ch : UInt8) : Prop where
  glyph : ∀ glyph ∈ f.glyph ch.toUInt16,
    FitsI32 (p + (f.charInfo ch.toUInt16).leftSideBearing.toInt) ∧
      GlyphFits (p + (f.charInfo ch.toUInt16).leftSideBearing.toInt)
        (f.fontAscent.toInt - (f.charInfo ch.toUInt16).ascent.toInt) glyph
  next : FitsI32 (p + advance f ch)

structure TextFits (f : BitmapFont) (text : Bytes) : Prop where
  height : f.fontAscent.toInt + f.fontDescent.toInt < 2 ^ 15
  chars : ∀ i < text.length, CharFits f (pen f text i) (text.getD i 0)

variable {f : BitmapFont} {w h row col x y : Nat} {gx gy : Int} {fg : Rgba} {pixels : Bytes} {ok : Nat → Prop}

@[simp] theorem value_i32 (n : Int) : (i32 n).value = n := rfl

@[simp] theorem within_i32 {n : Int} : Within ok (i32 n) ↔ FitsI32 n := within_checked nofun

@[simp] theorem value_storePixel (idx : Nat) (color : Rgba) :
    (storePixel pixels idx color).value = overwrite pixels idx color.bytes := rfl

@[simp] theorem within_storePixel {idx : Nat} {color : Rgba} :
    Within ok (storePixel pixels idx color) ↔ idx + 4 ≤ pixels.length := within_checked nofun

theorem asUsize_of_fits {n : Int} (hn : FitsI32 n) : (asUsize n : Int) = if n < 0 then n + 2 ^ 64 else n := by
  obtain ⟨hlow, hhigh⟩ := hn
  rw [asUsize]
  split <;> omega

theorem pixel_fits (hx : x < w) (hy : y < h) : (y * w + x) * 4 + 4 ≤ w * h * 4 := by
  have hrow : y * w + w ≤ h * w := by
    rw [← Nat.succ_mul]
    exact Nat.mul_le_mul_right w hy
  rw [Nat.mul_comm h] at hrow
  omega

theorem index_lt (hx : x < w) (hy : y < h) : y * w + x < w * h := by
  have hfits := pixel_fits hx hy
  omega

theorem within_plotBit (hlen : pixels.length = w * h * 4) (hw : w < 2 ^ 16) (hh : h < 2 ^ 16) (hx : FitsI32 gx)
    (hy : FitsI32 gy) (hrow : row < 2 ^ 16) (hcol : col < 2 ^ 16) :
    Within ok (plotBit w h fg gx gy row col pixels) ↔ Apart gx col ∧ Apart gy row := by
  have hrch : ∀ {n : Int} {k : Nat}, FitsI32 n → k < 2 ^ 16 → (asUsize n + k < 2 ^ 64 ↔ Apart n k) := by
    intro n k hn hk
    have hcast := asUsize_of_fits hn
    obtain ⟨hlow, hhigh⟩ := hn
    rw [Apart]
    split at hcast <;> omega
  rw [plotBit, within_bind, within_usize, value_usize, within_bind, within_usize, value_usize, hrch hx hcol,
    hrch hy hrow, within_ite]
  refine and_congr_right fun _ => and_iff_left ?_
  split
  · next hin =>
    have hfit := pixel_fits hin.1 hin.2
    have hsize : w * h ≤ 2 ^ 16 * 2 ^ 16 := Nat.mul_le_mul (by omega) (by omega)
    rw [within_bind, within_usize, value_usize, within_storePixel, hlen]
    exact ⟨by omega, hfit⟩
  · exact within_pure _

theorem value_plotBit (w h : Nat) (fg : Rgba) (gx gy : Int) (row col : Nat) (pixels : Bytes) :
    (plotBit w h fg gx gy row col pixels).value =
      if asUsize gx + col < w ∧ asUsize gy + row < h then
        overwrite pixels (((asUsize gy + row) * w + (asUsize gx + col)) * 4) fg.bytes
      else pixels := by
  rw [plotBit, value_bind, value_usize, value_bind, value_usize, value_ite]
  rfl

theorem length_plotBit (hlen : pixels.length = w * h * 4) :
    (plotBit w h fg gx gy row col pixels).value.length = w * h * 4 := by
  rw [value_plotBit]
  split
  · next hin =>
    rw [length_overwrite (hlen ▸ pixel_fits hin.1 hin.2), hlen]
  · exact hlen

theorem pixel_store {idx : Nat} {color : Rgba} (hidx : idx * 4 + 4 ≤ pixels.length) :
    imagePixel (overwrite pixels (idx * 4) color.bytes) w x y =
      if y * w + x = idx then color.bytes else imagePixel pixels w x y := by
  by_cases hsame : y * w + x = idx
  · rw [if_pos hsame, imagePixel, hsame]
    exact slice_overwrite hidx
  · rw [if_neg hsame]
    refine slice_overwrite_disjoint hidx ?_
    change _ ∨ idx * 4 + 4 ≤ _
    omega

theorem pixel_overwrite {px py : Nat} (hlen : pixels.length = w * h * 4) (hpx : px < w) (hpy : py < h) (hx : x < w) :
    imagePixel (overwrite pixels ((py * w + px) * 4) fg.bytes) w x y =
      if x = px ∧ y = py then fg.bytes else imagePixel pixels w x y := by
  rw [pixel_store (hlen ▸ pixel_fits hpx hpy)]
  refine if_congr ⟨fun heq => (pixel_index_inj hx hpx heq).symm, ?_⟩ rfl rfl
  rintro ⟨rfl, rfl⟩
  rfl

theorem pixel_plotBit (hlen : pixels.length = w * h * 4) (hw : w < 2 ^ 16) (hh : h < 2 ^ 16) (hx : FitsI32 gx)
    (hy : FitsI32 gy) (hxw : x < w) (hyh : y < h) :
    imagePixel (plotBit w h fg gx gy row col pixels).value w x y =
      if 0 ≤ gx ∧ 0 ≤ gy ∧ x = gx + col ∧ y = gy + row then fg.bytes else imagePixel pixels w x y := by
  have hcastx := asUsize_of_fits hx
  have hcasty := asUsize_of_fits hy
  obtain ⟨hlowx, hhighx⟩ := hx
  obtain ⟨hlowy, hhighy⟩ := hy
  rw [value_plotBit]
  split
  · next hin =>
    rw [pixel_overwrite hlen hin.1 hin.2 hxw]
    refine if_congr ?_ rfl rfl
    split at hcastx <;> split at hcasty <;> omega
  · next hout =>
    rw [if_neg]
    rintro ⟨hgx, hgy, hxe, hye⟩
    rw [if_neg (by omega)] at hcastx hcasty
    exact hout ⟨by omega, by omega⟩

theorem part_foldl {β : Type} {n : Nat} {step : Bytes → β → Bytes} {C : β → Prop} [DecidablePred C]
    {F : Bytes → Bytes} {v : Bytes} {as : List β}
    (hlen : ∀ p, ∀ b ∈ as, p.length = n → (step p b).length = n)
    (hpart : ∀ p, ∀ b ∈ as, p.length = n → F (step p b) = if C b then v else F p)
    (hpixels : pixels.length = n) :
    (as.foldl step pixels).length = n ∧
      F (as.foldl step pixels) = if ∃ b ∈ as, C b then v else F pixels := by
  induction as generalizing pixels with
  | nil => simp [hpixels]
  | cons a as ih =>
    have hrest := ih (fun p b hb => hlen p b (mem_cons_of_mem a hb))
      (fun p b hb => hpart p b (mem_cons_of_mem a hb)) (hlen pixels a mem_cons_self hpixels)
    refine ⟨hrest.1, ?_⟩
    rw [foldl_cons, hrest.2, hpart pixels a mem_cons_self hpixels]
    by_cases ha : C a
    · rw [if_pos ha, ite_self, if_pos ⟨a, mem_cons_self, ha⟩]
    · rw [if_neg ha]
      refine if_congr ?_ rfl rfl
      rw [exists_mem_cons_iff, or_iff_right ha]

variable {glyph : GlyphBitmap}

theorem length_plotRow (hlen : pixels.length = w * h * 4) :
    (plotRow w h fg gx gy glyph row pixels).value.length = w * h * 4 := by
  rw [plotRow, value_foldlM]
  refine (part_foldl (C := fun _ => True) (F := fun _ => []) (v := []) ?_ ?_ hlen).1
  · intro p col _ hp
    rw [value_ite]
    split
    · exact length_plotBit hp
    · exact hp
  · intro p col _ _
    rfl

theorem within_plotRow (hlen : pixels.length = w * h * 4) (hw : w < 2 ^ 16) (hh : h < 2 ^ 16) (hx : FitsI32 gx)
    (hy : FitsI32 gy) (hrow : row < 2 ^ 16) :
    Within ok (plotRow w h fg gx gy glyph row pixels) ↔
      ∀ col ∈ List.range glyph.width.toNat,
        GlyphBits.get glyph.bitmap row col (GlyphBits.rowBytes glyph.width.toNat) = true →
          Apart gx col ∧ Apart gy row := by
  have hwd := glyph.width.toNat_lt
  refine within_foldlM (I := fun p : Bytes => p.length = w * h * 4) ?_ ?_ hlen
  · intro p col _ hp
    rw [value_ite]
    split
    · exact length_plotBit hp
    · exact hp
  · intro p col hcol hp
    have hcol := mem_range.mp hcol
    rw [within_ite]
    split
    · next hget => rw [within_plotBit hp hw hh hx hy hrow (by omega), forall_prop_of_true hget]
    · next hget => exact iff_of_true (within_pure _) fun h => absurd h hget

theorem pixel_plotRow (hlen : pixels.length = w * h * 4) (hw : w < 2 ^ 16) (hh : h < 2 ^ 16) (hx : FitsI32 gx)
    (hy : FitsI32 gy) (hxw : x < w) (hyh : y < h) :
    imagePixel (plotRow w h fg gx gy glyph row pixels).value w x y =
      if ∃ col ∈ List.range glyph.width.toNat,
          GlyphBits.get glyph.bitmap row col (GlyphBits.rowBytes glyph.width.toNat) = true ∧
            0 ≤ gx ∧ 0 ≤ gy ∧ x = gx + col ∧ y = gy + row then fg.bytes
      else imagePixel pixels w x y := by
  rw [plotRow, value_foldlM]
  refine (part_foldl (F := fun p => imagePixel p w x y) ?_ ?_ hlen).2
  · intro p col _ hp
    rw [value_ite]
    split
    · exact length_plotBit hp
    · exact hp
  · intro p col _ hp
    rw [value_ite]
    split
    · next hget => rw [pixel_plotBit hp hw hh hx hy hxw hyh, if_congr (and_iff_right hget) rfl rfl]
    · next hget => rw [value_pure, if_neg fun h => hget h.1]

theorem length_plotGlyph (hlen : pixels.length = w * h * 4) :
    (plotGlyph w h fg gx gy glyph pixels).value.length = w * h * 4 := by
  rw [plotGlyph, value_foldlM]
  exact (part_foldl (C := fun _ => True) (F := fun _ => []) (v := []) (fun _ _ _ hp => length_plotRow hp)
    (fun _ _ _ _ => rfl) hlen).1

theorem within_plotGlyph (hlen : pixels.length = w * h * 4) (hw : w < 2 ^ 16) (hh : h < 2 ^ 16) (hx : FitsI32 gx)
    (hy : FitsI32 gy) : Within ok (plotGlyph w h fg gx gy glyph pixels) ↔ GlyphFits gx gy glyph := by
  have hht := glyph.height.toNat_lt
  have hloop : Within ok (plotGlyph w h fg gx gy glyph pixels) ↔ ∀ row ∈ List.range glyph.height.toNat,
      ∀ col ∈ List.range glyph.width.toNat,
        GlyphBits.get glyph.bitmap row col (GlyphBits.rowBytes glyph.width.toNat) = true →
          Apart gx col ∧ Apart gy row :=
    within_foldlM (I := fun p : Bytes => p.length = w * h * 4) (fun _ _ _ hp => length_plotRow hp)
      (fun _ row hrow hp => within_plotRow hp hw hh hx hy (by have := mem_range.mp hrow; omega)) hlen
  rw [GlyphFits]
  simpa only [mem_range] using hloop

theorem pixel_plotGlyph (hlen : pixels.length = w * h * 4) (hw : w < 2 ^ 16) (hh : h < 2 ^ 16) (hx : FitsI32 gx)
    (hy : FitsI32 gy) (hfits : GlyphFits gx gy glyph) (hxw : x < w) (hyh : y < h) :
    imagePixel (plotGlyph w h fg gx gy glyph pixels).value w x y =
      if inked glyph (x - gx) (y - gy) then fg.bytes else imagePixel pixels w x y := by
  rw [plotGlyph, value_foldlM]
  refine ((part_foldl (C := fun row : Nat => ∃ col ∈ List.range glyph.width.toNat,
      GlyphBits.get glyph.bitmap row col (GlyphBits.rowBytes glyph.width.toNat) = true ∧
        0 ≤ gx ∧ 0 ≤ gy ∧ x = gx + col ∧ y = gy + row) (F := fun p => imagePixel p w x y)
    (fun _ _ _ hp => length_plotRow hp) (fun _ _ _ hp => pixel_plotRow hp hw hh hx hy hxw hyh) hlen).2).trans
    (if_congr ?_ rfl rfl)
  constructor
  · rintro ⟨row, hrow, col, hcol, hget, hgx, hgy, hxe, hye⟩
    have hrow := mem_range.mp hrow
    have hcol := mem_range.mp hcol
    have hxsub : (x : Int) - gx = col := by omega
    have hysub : (y : Int) - gy = row := by omega
    rw [hxsub, hysub]
    exact ⟨by omega, hget⟩
  · rintro ⟨hin, hget⟩
    obtain ⟨hapartx, haparty⟩ := hfits (y - gy).toNat (by omega) (x - gx).toNat (by omega) hget
    rw [Apart] at hapartx haparty
    exact ⟨_, mem_range.mpr (by omega), _, mem_range.mpr (by omega), hget, by omega, by omega, by omega,
      by omega⟩

variable {s : Int × Bytes} {ch : UInt8} {text : Bytes}

theorem fits_originY (f : BitmapFont) (ci : CharInfo) : FitsI32 (f.fontAscent.toInt - ci.ascent.toInt) := by
  have hlow := f.fontAscent.le_toInt
  have hhigh := f.fontAscent.toInt_lt
  have hlow' := ci.ascent.le_toInt
  have hhigh' := ci.ascent.toInt_lt
  constructor <;> omega

theorem charFits_iff {p : Int} : CharFits f p ch ↔ (∀ glyph ∈ f.glyph ch.toUInt16,
    FitsI32 (p + (f.charInfo ch.toUInt16).leftSideBearing.toInt) ∧
      GlyphFits (p + (f.charInfo ch.toUInt16).leftSideBearing.toInt)
        (f.fontAscent.toInt - (f.charInfo ch.toUInt16).ascent.toInt) glyph) ∧ FitsI32 (p + advance f ch) :=
  ⟨fun h => ⟨h.glyph, h.next⟩, fun h => ⟨h.1, h.2⟩⟩

theorem within_plotChar (hlen : s.2.length = w * h * 4) (hw : w < 2 ^ 16) (hh : h < 2 ^ 16) :
    Within ok (plotChar f w h fg s ch) ↔ CharFits f s.1 ch := by
  rw [charFits_iff, plotChar, within_bind, within_bind, within_i32, and_iff_left (within_pure _), plotCharGlyph]
  refine and_congr ?_ Iff.rfl
  cases f.glyph ch.toUInt16 with
  | none => simp
  | some glyph =>
    simp only [within_bind, within_i32, value_i32, Option.mem_def, Option.some.injEq, forall_eq']
    refine and_congr_right fun hx => ?_
    rw [and_iff_right (fits_originY f _), within_plotGlyph hlen hw hh hx (fits_originY f _)]

theorem value_plotChar (f : BitmapFont) (w h : Nat) (fg : Rgba) (s : Int × Bytes) (ch : UInt8) :
    (plotChar f w h fg s ch).value = (s.1 + advance f ch, (plotCharGlyph f w h fg s.1 ch s.2).value) := rfl

theorem length_plotChar (f : BitmapFont) (fg : Rgba) (ch : UInt8) (hlen : s.2.length = w * h * 4) :
    (plotChar f w h fg s ch).value.2.length = w * h * 4 := by
  rw [value_plotChar, plotCharGlyph]
  cases f.glyph ch.toUInt16 with
  | none => exact hlen
  | some glyph => exact length_plotGlyph hlen

theorem pixel_plotChar (hlen : s.2.length = w * h * 4) (hw : w < 2 ^ 16) (hh : h < 2 ^ 16) (hfits : CharFits f s.1 ch)
    (hxw : x < w) (hyh : y < h) :
    imagePixel (plotChar f w h fg s ch).value.2 w x y =
      if CharInks f s.1 ch x y then fg.bytes else imagePixel s.2 w x y := by
  rw [value_plotChar, plotCharGlyph]
  have hgl := hfits.glyph
  cases hg : f.glyph ch.toUInt16 with
  | none =>
    have hnone : ¬CharInks f s.1 ch x y := by
      rintro ⟨glyph, hmem, -⟩
      rw [hg] at hmem
      cases hmem
    exact (if_neg hnone).symm
  | some glyph =>
    obtain ⟨hx, hbits⟩ := hgl glyph hg
    refine (pixel_plotGlyph hlen hw hh hx (fits_originY f _) hbits hxw hyh).trans (if_congr ?_ rfl rfl)
    simp [CharInks, hg]

theorem pen_cons (f : BitmapFont) (ch : UInt8) (text : Bytes) (i : Nat) :
    pen f (ch :: text) (i + 1) = advance f ch + pen f text i := by
  rw [pen, take_succ_cons, map_cons, sum_cons]
  rfl

theorem within_foldlM_plotChar (c : Int) (hlen : pixels.length = w * h * 4) (hw : w < 2 ^ 16) (hh : h < 2 ^ 16) :
    Within ok (text.foldlM (plotChar f w h fg) (c, pixels)) ↔
      ∀ i < text.length, CharFits f (c + pen f text i) (text.getD i 0) := by
  induction text generalizing c pixels with
  | nil => simp
  | cons ch text ih =>
    have hrest := ih (c + advance f ch) (length_plotChar f fg ch (s := (c, pixels)) hlen)
    rw [foldlM_cons, within_bind, within_plotChar hlen hw hh, value_plotChar, length_cons,
      Nat.forall_lt_succ_left]
    rw [value_plotChar] at hrest
    refine and_congr ?_ (hrest.trans ?_)
    · simp [pen]
    · simp only [pen_cons, getD_cons_succ, Int.add_assoc]

theorem pixel_foldlM_plotChar (f : BitmapFont) (fg : Rgba) (text : Bytes) (x y : Nat) (c : Int)
    (hlen : pixels.length = w * h * 4) (hw : w < 2 ^ 16) (hh : h < 2 ^ 16)
    (hfits : ∀ i < text.length, CharFits f (c + pen f text i) (text.getD i 0)) (hxw : x < w) (hyh : y < h) :
    imagePixel (text.foldlM (plotChar f w h fg) (c, pixels)).value.2 w x y =
      if ∃ i < text.length, CharInks f (c + pen f text i) (text.getD i 0) x y then fg.bytes
      else imagePixel pixels w x y := by
  induction text generalizing c pixels with
  | nil => simp
  | cons ch text ih =>
    rw [length_cons, Nat.forall_lt_succ_left] at hfits
    obtain ⟨hfst, hrest⟩ := hfits
    have hfst : CharFits f c ch := by simpa [pen] using hfst
    have hrest : ∀ i < text.length, CharFits f (c + advance f ch + pen f text i) (text.getD i 0) := by
      simpa only [pen_cons, getD_cons_succ, Int.add_assoc] using hrest
    have hlen' : (plotCharGlyph f w h fg c ch pixels).value.length = w * h * 4 :=
      length_plotChar f fg ch (s := (c, pixels)) hlen
    have hpixel : imagePixel (plotCharGlyph f w h fg c ch pixels).value w x y =
        if CharInks f c ch x y then fg.bytes else imagePixel pixels w x y :=
      pixel_plotChar (s := (c, pixels)) hlen hw hh hfst hxw hyh
    have hinks : (∃ i < (ch :: text).length, CharInks f (c + pen f (ch :: text) i) ((ch :: text).getD i 0) x y) ↔
        CharInks f c ch x y ∨
          ∃ i < text.length, CharInks f (c + advance f ch + pen f text i) (text.getD i 0) x y := by
      rw [length_cons, Nat.exists_lt_succ_left]
      simp only [pen_cons, getD_cons_succ, getD_cons_zero, Int.add_assoc]
      have hzero : c + pen f (ch :: text) 0 = c := Int.add_zero c
      rw [hzero]
    rw [foldlM_cons, value_bind, value_plotChar, ih _ hlen' hrest, hpixel]
    refine Eq.trans ?_ (if_congr hinks.symm rfl rfl)
    by_cases hink : CharInks f c ch x y
    · rw [if_pos hink, ite_self, if_pos (.inl hink)]
    · rw [if_neg hink]
      exact if_congr (or_iff_right hink).symm rfl rfl

theorem length_foldlM_plotChar (c : Int) (hlen : pixels.length = w * h * 4) :
    (text.foldlM (plotChar f w h fg) (c, pixels)).value.2.length = w * h * 4 := by
  induction text generalizing c pixels with
  | nil => exact hlen
  | cons ch text ih =>
    rw [foldlM_cons, value_bind, value_plotChar]
    exact ih _ (length_plotChar f fg ch (s := (c, pixels)) hlen)

theorem value_totalWidth (f : BitmapFont) (text : Bytes) : (totalWidth f text).value = pen f text text.length := by
  have hsum : ∀ c : Int,
      (text.foldl (fun w ch => (i32 (w + advance f ch)).value) c) = c + (text.map (advance f)).sum := by
    intro c
    induction text generalizing c with
    | nil => simp
    | cons ch text ih => rw [foldl_cons, ih, value_i32, map_cons, sum_cons, Int.add_assoc]
  rw [totalWidth, value_foldlM, hsum, pen, take_length, Int.zero_add]

theorem within_totalWidth : Within ok (totalWidth f text) ↔ ∀ i < text.length, FitsI32 (pen f text (i + 1)) := by
  have hloop : ∀ c : Int, Within ok (text.foldlM (fun w ch => i32 (w + advance f ch)) c) ↔
      ∀ i < text.length, FitsI32 (c + pen f text (i + 1)) := by
    intro c
    induction text generalizing c with
    | nil => simp
    | cons ch text ih =>
      rw [foldlM_cons, within_bind, within_i32, value_i32, ih, length_cons, Nat.forall_lt_succ_left]
      simp only [pen_cons, Int.add_assoc]
      simp [pen]
  simpa only [totalWidth, Int.zero_add] using hloop 0

theorem pen_succ {i : Nat} (hi : i < text.length) : pen f text (i + 1) = pen f text i + advance f (text.getD i 0) := by
  rw [pen, pen, take_add_one, List.getElem?_eq_getElem hi, Option.toList_some, map_append, sum_append,
    getD_eq_getElem?_getD, List.getElem?_eq_getElem hi]
  simp

theorem fill_spec {n : Nat} {bg : Rgba} (ok : Nat → Prop) (w x y : Nat) (hlen : pixels.length = n * 4) :
    Within ok (fill n bg pixels) ∧ (fill n bg pixels).value.length = n * 4 ∧
      (y * w + x < n → imagePixel (fill n bg pixels).value w x y = bg.bytes) := by
  have hsto : ∀ p : Bytes, ∀ i ∈ List.range n, p.length = n * 4 → i * 4 + 4 ≤ p.length := by
    intro p i hi hp
    have hi := mem_range.mp hi
    omega
  have hkeep : ∀ p : Bytes, ∀ i ∈ List.range n, p.length = n * 4 → (storePixel p (i * 4) bg).value.length = n * 4 := by
    intro p i hi hp
    rw [value_storePixel, length_overwrite (hsto p i hi hp), hp]
  have hloop := part_foldl (C := fun i => y * w + x = i) (F := fun p => imagePixel p w x y) (v := bg.bytes) hkeep
    (fun p i hi hp => pixel_store (hsto p i hi hp)) hlen
  rw [fill, value_foldlM]
  refine ⟨?_, hloop.1, fun hin => ?_⟩
  · exact (within_foldlM (C := fun _ => True) hkeep
      (fun p i hi hp => iff_of_true (within_storePixel.mpr (hsto p i hi hp)) trivial) hlen).mpr fun _ _ => trivial
  · exact hloop.2.trans (if_pos ⟨_, mem_range.mpr hin, rfl⟩)

/-- What a background has to make of a box of zeros: its colour everywhere. -/
structure Paints (background : Nat → Bytes → Checked Bytes) (bg : Rgba) : Prop where
  within : ∀ n, Within (fun _ => True) (background n (List.replicate (n * 4) 0))
  length : ∀ n, (background n (List.replicate (n * 4) 0)).value.length = n * 4
  pixel : ∀ n w x y, y * w + x < n → imagePixel (background n (List.replicate (n * 4) 0)).value w x y = bg.bytes

theorem paints_fill (bg : Rgba) : Paints (fun n pixels => fill n bg pixels) bg := by
  have hlen : ∀ n, (List.replicate (n * 4) (0 : UInt8)).length = n * 4 := fun n => length_replicate
  exact ⟨fun n => (fill_spec (fun _ => True) 0 0 0 (hlen n)).1,
    fun n => (fill_spec (fun _ => True) 0 0 0 (hlen n)).2.1,
    fun n w x y => (fill_spec (fun _ => True) w x y (hlen n)).2.2⟩

theorem paints_pure : Paints (fun _ pixels => pure pixels) ⟨0, 0, 0, 0⟩ := by
  refine ⟨fun n => within_pure _, fun n => length_replicate, fun n w x y hin => ?_⟩
  rw [value_pure, imagePixel, slice, drop_replicate, take_replicate, Nat.min_eq_left (by omega)]
  rfl

theorem within_extent : Within ok (extent f text) ↔
    (∀ i < text.length, FitsI32 (pen f text (i + 1))) ∧ FitsI16 (f.fontAscent.toInt + f.fontDescent.toInt) := by
  rw [extent, within_bind, within_totalWidth, within_bind, within_addI16, and_iff_left (within_pure _)]

theorem value_extent (hwide : 1 ≤ pen f text text.length) (hnarrow : pen f text text.length ≤ 65535) :
    ((extent f text).value.1.toNat : Int) = pen f text text.length ∧
      (extent f text).value.2 = (f.fontAscent + f.fontDescent).toUInt16 := by
  refine ⟨?_, rfl⟩
  have hval : (extent f text).value.1 = UInt16.ofNat (asU16 (max (totalWidth f text).value 1)) := rfl
  rw [hval, value_totalWidth, UInt16.toNat_ofNat', asU16]
  omega

theorem height_extent (hsum : 0 ≤ f.fontAscent.toInt + f.fontDescent.toInt)
    (hfits : FitsI16 (f.fontAscent.toInt + f.fontDescent.toInt)) :
    ((f.fontAscent + f.fontDescent).toUInt16.toNat : Int) = f.fontAscent.toInt + f.fontDescent.toInt := by
  have htoInt : (f.fontAscent + f.fontDescent).toInt = f.fontAscent.toInt + f.fontDescent.toInt := by
    rw [Int16.toInt_add, Int.bmod_eq_of_le (by have := hfits.1; omega) (by have := hfits.2; omega)]
  have hcond : (f.fontAscent + f.fontDescent).toInt =
      if 2 * (f.fontAscent + f.fontDescent).toUInt16.toNat < 2 ^ 16
      then ((f.fontAscent + f.fontDescent).toUInt16.toNat : Int)
      else ((f.fontAscent + f.fontDescent).toUInt16.toNat : Int) - (2 ^ 16 : Nat) :=
    BitVec.toInt_eq_toNat_cond _
  have hlt := (f.fontAscent + f.fontDescent).toUInt16.toNat_lt
  split at hcond <;> omega

theorem rendered_onto_iff (fg : Rgba) {background : Nat → Bytes → Checked Bytes} {bg : Rgba}
    (hpnts : Paints background bg)
    (hsum : 0 ≤ f.fontAscent.toInt + f.fontDescent.toInt) (hwide : 1 ≤ pen f text text.length)
    (hnarrow : pen f text text.length ≤ 65535) :
    Rendered f text fg bg (renderOnto f text fg background) ↔ TextFits f text := by
  have hw := (extent f text).value.1.toNat_lt
  have hh := (extent f text).value.2.toNat_lt
  have hlen := hpnts.length ((extent f text).value.1.toNat * (extent f text).value.2.toNat)
  have hwithin : Within (fun _ => True) (renderOnto f text fg background) ↔
      Within (fun _ => True) (extent f text) ∧ ∀ i < text.length, CharFits f (pen f text i) (text.getD i 0) := by
    have hchars : Within (fun _ => True) (text.foldlM (plotChar f _ _ fg) (0, _)) ↔ _ :=
      within_foldlM_plotChar 0 hlen hw hh
    simp only [Int.zero_add] at hchars
    rw [renderOnto, within_bind, within_bind, within_usize, value_usize, within_bind, within_alloc, within_bind,
      and_iff_right (hpnts.within _), within_bind, plotText, within_bind, and_iff_left (within_pure _),
      and_iff_left (within_pure _), hchars]
    refine and_congr_right fun _ => ?_
    have hsize : (extent f text).value.1.toNat * (extent f text).value.2.toNat ≤ 2 ^ 16 * 2 ^ 16 :=
      Nat.mul_le_mul (Nat.le_of_lt hw) (Nat.le_of_lt hh)
    rw [and_iff_right (by omega), and_iff_right trivial]
  have hval : (renderOnto f text fg background).value = ((extent f text).value.1, (extent f text).value.2,
      (text.foldlM (plotChar f (extent f text).value.1.toNat (extent f text).value.2.toNat fg) (0,
        (background ((extent f text).value.1.toNat * (extent f text).value.2.toNat) (List.replicate
          ((extent f text).value.1.toNat * (extent f text).value.2.toNat * 4) 0)).value)).value.2) := rfl
  obtain ⟨hwd, hht⟩ := value_extent hwide hnarrow
  constructor
  · intro h
    obtain ⟨hextent, hchars⟩ := hwithin.mp h.within
    exact ⟨(within_extent.mp hextent).2.2, hchars⟩
  · intro h
    have hfits : FitsI16 (f.fontAscent.toInt + f.fontDescent.toInt) := ⟨by omega, h.height⟩
    have hpens : ∀ i < text.length, FitsI32 (pen f text (i + 1)) := by
      intro i hi
      rw [pen_succ hi]
      exact (h.chars i hi).next
    have hpixel := fun x y => pixel_foldlM_plotChar f fg text x y 0 hlen hw hh
    simp only [Int.zero_add] at hpixel
    refine ⟨hwithin.mpr ⟨within_extent.mpr ⟨hpens, hfits⟩, h.chars⟩, ?_, ?_, ?_, ?_, ?_⟩
    · rw [hval]
      exact hwd
    · rw [hval, hht]
      exact height_extent hsum hfits
    · rw [hval]
      exact length_foldlM_plotChar 0 hlen
    · rw [hval]
      intro x hx y hy hink
      exact (hpixel x y h.chars hx hy).trans (if_pos hink)
    · rw [hval]
      intro x hx y hy hink
      refine ((hpixel x y h.chars hx hy).trans (if_neg hink)).trans ?_
      exact hpnts.pixel _ _ _ _ (index_lt hx hy)

instance (f : BitmapFont) (p : Int) (ch : UInt8) : Decidable (CharFits f p ch) := decidable_of_iff _ charFits_iff.symm

theorem textFits_iff : TextFits f text ↔ f.fontAscent.toInt + f.fontDescent.toInt < 2 ^ 15 ∧
    ∀ i < text.length, CharFits f (pen f text i) (text.getD i 0) :=
  ⟨fun h => ⟨h.height, h.chars⟩, fun h => ⟨h.1, h.2⟩⟩

instance (f : BitmapFont) (text : Bytes) : Decidable (TextFits f text) := decidable_of_iff _ textFits_iff.symm

/-- A text is rendered whole by both functions exactly if its height fits, its pen
stays in range, and no set bit comes from a negative origin into the image. -/
theorem rendered_iff_textFits (f : BitmapFont) (text : Bytes) (fg bg : UInt32)
    (hsum : 0 ≤ f.fontAscent.toInt + f.fontDescent.toInt) (hwide : 1 ≤ pen f text text.length)
    (hnarrow : pen f text text.length ≤ 65535) :
    (Rendered f text (unpackRgb fg 0xFF) (unpackRgb bg 0xFF) (renderText f text fg bg) ∧
        Rendered f text (unpackRgb fg 0xFF) ⟨0, 0, 0, 0⟩ (renderTextTransparent f text fg)) ↔
      TextFits f text := by
  have hopaque := rendered_onto_iff (unpackRgb fg 0xFF) (paints_fill (unpackRgb bg 0xFF)) hsum hwide hnarrow
  have htransparent := rendered_onto_iff (unpackRgb fg 0xFF) paints_pure hsum hwide hnarrow
  exact (and_congr hopaque htransparent).trans and_self_iff

/-- A font of one character, two columns wide, with its second column set. -/
def narrow (bearing : Int16) : BitmapFont where
  name := "narrow"
  minBounds := ⟨0, 0, 0, 0, 0, 0⟩
  maxBounds := ⟨bearing, 2, 2, 1, 0, 0⟩
  minChar := 97
  maxChar := 97
  defaultChar := 97
  fontAscent := 1
  fontDescent := 0
  charInfos := [⟨bearing, 2, 2, 1, 0, 0⟩]
  glyphs := [⟨2, 1, [64]⟩]
  scalablePath := none
  scalablePixelSize := 0

theorem rendered_narrow :
    Rendered (narrow 0) [97] (unpackRgb 0 0xFF) (unpackRgb 0xFFFFFF 0xFF) (renderText (narrow 0) [97] 0 0xFFFFFF) ∧
      Rendered (narrow 0) [97] (unpackRgb 0 0xFF) ⟨0, 0, 0, 0⟩ (renderTextTransparent (narrow 0) [97] 0) :=
  (rendered_iff_textFits (narrow 0) [97] 0 0xFFFFFF (by decide) (by decide) (by decide)).mpr
    (by decide)

/-- With a bearing of -1 the second column of the glyph is the first of the image,
and adding it to the origin taken for a `usize` overflows. -/
theorem narrow_overflows :
    ¬ ∀ (f : BitmapFont) (text : Bytes) (fg bg : UInt32), 0 ≤ f.fontAscent.toInt + f.fontDescent.toInt →
      1 ≤ pen f text text.length → pen f text text.length ≤ 65535 →
      Rendered f text (unpackRgb fg 0xFF) (unpackRgb bg 0xFF) (renderText f text fg bg) ∧
        Rendered f text (unpackRgb fg 0xFF) ⟨0, 0, 0, 0⟩ (renderTextTransparent f text fg) := by
  intro h
  have hrendered := (h (narrow (-1)) [97] 0 0xFFFFFF (by decide) (by decide) (by decide)).1
  have hfits := (rendered_onto_iff _ (paints_fill _) (by decide) (by decide) (by decide)).mp hrendered
  revert hfits
  decide

end X11Web.TextRendering
