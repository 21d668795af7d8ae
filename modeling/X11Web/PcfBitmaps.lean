import X11Web.PcfTables

namespace X11Web.PcfParsing

open BitmapFonts CheckedRuns Windows List Option

variable {ok : Nat → Prop} {data : Bytes} {off n : Nat} {msb : Bool} {r : PcfReader}

section Filling

variable {f : Nat → UInt8} {size k : Nat}

def filled (f : Nat → UInt8) (size k : Nat) : Bytes := (List.range size).map fun j => if j < k then f j else 0

theorem filled_zero : filled f size 0 = List.replicate size 0 := by
  rw [filled]
  simp [map_const']

theorem filled_all : filled f size size = (List.range size).map f :=
  map_congr_left fun _ hj => if_pos (mem_range.mp hj)

theorem set_filled : (filled f size k).set k (f k) = filled f size (k + 1) := by
  apply ext_getElem?
  intro j
  simp only [filled, List.getElem?_set, List.getElem?_map, length_map, length_range]
  by_cases hj : j < size
  · rw [List.getElem?_range hj, map_some, map_some]
    by_cases hjk : k = j
    · subst hjk
      rw [if_pos rfl, if_pos hj, if_pos (Nat.lt_succ_self k)]
    · rw [if_neg hjk]
      congr 1
      exact if_congr (by omega) rfl rfl
  · rw [List.getElem?_eq_none (by rw [length_range]; omega), map_none, map_none]
    split
    · exact if_neg (by omega)
    · rfl

theorem filled_succ (h : f k = 0) : filled f size (k + 1) = filled f size k := by
  refine map_congr_left fun j _ => ?_
  by_cases hj : j = k
  · rw [hj, h, ite_self, ite_self]
  · exact if_congr (by omega) rfl rfl

theorem foldl_filled {step : Bytes → Nat → Bytes} (n : Nat)
    (hstep : ∀ b, b < n → step (filled f size (k + b)) b = (filled f size (k + b)).set (k + b) (f (k + b)) ∨
      (step (filled f size (k + b)) b = filled f size (k + b) ∧ f (k + b) = 0)) :
    (List.range n).foldl step (filled f size k) = filled f size (k + n) := by
  induction n with
  | zero => rfl
  | succ n ih =>
    rw [range_succ, foldl_append, ih fun b hb => hstep b (by omega), foldl_cons, foldl_nil]
    obtain hset | ⟨hsame, hzero⟩ := hstep n (Nat.lt_succ_self n)
    · rw [hset, set_filled, Nat.add_assoc]
    · rw [hsame, ← filled_succ hzero, Nat.add_assoc]

theorem foldl_filled_rows {step : Bytes → Nat → Bytes} (width h : Nat)
    (hstep : ∀ row, row < h → step (filled f size (row * width)) row = filled f size (row * width + width)) :
    (List.range h).foldl step (filled f size 0) = filled f size (h * width) := by
  induction h with
  | zero => rw [Nat.zero_mul]; rfl
  | succ h ih =>
    rw [range_succ, foldl_append, ih fun row hrow => hstep row (by omega), foldl_cons, foldl_nil,
      hstep h (Nat.lt_succ_self h), Nat.add_mul, Nat.one_mul]

end Filling

section Bitmaps

variable {m : PcfMetric} {msbBits : Bool} {glyphPad bmOff : Nat}

def glyphWidth (m : PcfMetric) : Nat := atLeastZero (m.rightSideBearing - m.leftSideBearing)

def glyphHeight (m : PcfMetric) : Nat := atLeastZero (m.ascent + m.descent)

def rowBytes (m : PcfMetric) : Nat := divCeil (glyphWidth m) 8

def rowStride (glyphPad : Nat) (m : PcfMetric) : Nat := divCeil (rowBytes m) glyphPad * glyphPad

/-- A byte of the file with the leftmost pixel first, and zero after its end. -/
def sourceByte (data : Bytes) (msbBits : Bool) (idx : Nat) : UInt8 :=
  if idx < data.length then if msbBits then data.getD idx 0 else reverseBits (data.getD idx 0) else 0

def repacked (data : Bytes) (msbBits : Bool) (glyphPad bmOff : Nat) (m : PcfMetric) : Bytes :=
  if glyphWidth m = 0 ∨ glyphHeight m = 0 then []
  else (List.range (rowBytes m * glyphHeight m)).map fun j =>
    sourceByte data msbBits (bmOff + j / rowBytes m * rowStride glyphPad m + j % rowBytes m)

theorem rowBytes_pos (h : glyphWidth m ≠ 0) : 0 < rowBytes m := by
  rw [rowBytes, divCeil]
  omega

variable {bitmap : Bytes} {srcStart dstStart b : Nat}

theorem value_copyByte : (copyByte data msbBits srcStart dstStart bitmap b).value =
      if srcStart + b < data.length then bitmap.set (dstStart + b) (sourceByte data msbBits (srcStart + b))
      else bitmap := by
  rw [copyByte, value_bind, value_usize, value_ite]
  by_cases hthere : srcStart + b < data.length
  · rw [if_pos hthere, if_pos hthere, sourceByte, if_pos hthere]
    rfl
  · rw [if_neg hthere, if_neg hthere, value_pure]

theorem value_copyRow {f : Nat → UInt8} {size pcfRowBytes dstRowBytes row : Nat}
    (hf : ∀ b, b < dstRowBytes → f (row * dstRowBytes + b) = sourceByte data msbBits (bmOff + row * pcfRowBytes + b)) :
    (copyRow data msbBits bmOff pcfRowBytes dstRowBytes (filled f size (row * dstRowBytes)) row).value =
      filled f size (row * dstRowBytes + dstRowBytes) := by
  rw [copyRow]
  simp only [value_bind, value_usize, value_foldlM, value_copyByte]
  refine foldl_filled dstRowBytes fun b hb => ?_
  rw [hf b hb]
  by_cases hthere : bmOff + row * pcfRowBytes + b < data.length
  · exact .inl (if_pos hthere)
  · exact .inr ⟨if_neg hthere, if_neg hthere⟩

theorem value_repack : (repack data msbBits glyphPad bmOff m).value = repacked data msbBits glyphPad bmOff m := by
  let f (j : Nat) : UInt8 := sourceByte data msbBits (bmOff + j / rowBytes m * rowStride glyphPad m + j % rowBytes m)
  rw [repack, repacked, value_bind]
  dsimp only
  rw [value_bind, value_ite]
  by_cases hemp : glyphWidth m = 0 ∨ glyphHeight m = 0
  · rw [if_pos hemp]
    exact if_pos hemp
  rw [if_neg hemp]
  refine (if_neg hemp).trans ?_
  have hpos : 0 < rowBytes m := rowBytes_pos fun h => hemp (.inl h)
  simp only [value_bind, value_usize, value_foldlM]
  change (List.range (glyphHeight m)).foldl _ (List.replicate (rowBytes m * glyphHeight m) 0) = _
  rw [← filled_zero (f := f), foldl_filled_rows (rowBytes m) (glyphHeight m), Nat.mul_comm, filled_all]
  intro row _
  refine value_copyRow fun b hb => ?_
  have hb' : b < rowBytes m := hb
  change sourceByte data msbBits (bmOff + (row * rowBytes m + b) / rowBytes m * rowStride glyphPad m +
    (row * rowBytes m + b) % rowBytes m) = _
  rw [Nat.mul_comm row, Nat.mul_add_div hpos, Nat.div_eq_of_lt hb', Nat.add_zero, Nat.mul_add_mod,
    Nat.mod_eq_of_lt hb']
  rfl

theorem glyphWidth_lt (m : PcfMetric) : glyphWidth m < 2 ^ 15 := by
  have hlt := (m.rightSideBearing - m.leftSideBearing).toInt_lt
  rw [glyphWidth, atLeastZero]
  omega

theorem glyphHeight_lt (m : PcfMetric) : glyphHeight m < 2 ^ 15 := by
  have hlt := (m.ascent + m.descent).toInt_lt
  rw [glyphHeight, atLeastZero]
  omega

theorem rowBytes_le (m : PcfMetric) : rowBytes m ≤ 2 ^ 12 := by
  have hlt := glyphWidth_lt m
  rw [rowBytes, divCeil]
  omega

theorem rowStride_le (hpad : glyphPad ≤ 8) (m : PcfMetric) : rowStride glyphPad m ≤ 2 ^ 13 := by
  have hle := rowBytes_le m
  have hmul := Nat.div_mul_le_self (rowBytes m + glyphPad - 1) glyphPad
  rw [rowStride, divCeil]
  omega

theorem length_copyByte :
    (copyByte data msbBits srcStart dstStart bitmap b).value.length = bitmap.length := by
  rw [value_copyByte]
  split
  · exact length_set
  · rfl

theorem within_copyByte (hsrc : srcStart + b < 2 ^ 64)
    (hdst : dstStart + b < bitmap.length) (hlen : bitmap.length < 2 ^ 64) :
    Within ok (copyByte data msbBits srcStart dstStart bitmap b) := by
  rw [copyByte, within_bind, within_usize, value_usize, within_ite]
  refine ⟨hsrc, ?_⟩
  split
  · next hthere =>
    rw [within_bind, within_index, within_bind, within_usize, within_store, value_usize]
    exact ⟨hthere, by omega, hdst⟩
  · exact within_pure _

theorem length_copyRow {pcfRowBytes dstRowBytes row : Nat} :
    (copyRow data msbBits bmOff pcfRowBytes dstRowBytes bitmap row).value.length = bitmap.length := by
  rw [copyRow]
  simp only [value_bind, value_usize, value_foldlM]
  exact List.foldlRecOn (motive := fun bitmap' : Bytes => bitmap'.length = bitmap.length) _ _ rfl
    fun _ h _ _ => length_copyByte.trans h

theorem within_copyRow {pcfRowBytes dstRowBytes row : Nat}
    (hsrc : bmOff + row * pcfRowBytes + dstRowBytes < 2 ^ 64)
    (hdst : row * dstRowBytes + dstRowBytes ≤ bitmap.length) (hlen : bitmap.length < 2 ^ 64) :
    Within ok (copyRow data msbBits bmOff pcfRowBytes dstRowBytes bitmap row) := by
  rw [copyRow]
  simp only [within_bind, within_usize, value_usize]
  refine ⟨by omega, by omega, by omega, ?_⟩
  refine (within_foldlM (I := fun bitmap' : Bytes => bitmap'.length = bitmap.length) (C := fun _ => True)
    (fun _ _ _ h => length_copyByte.trans h) (fun bitmap' b hb h => iff_of_true ?_ trivial) rfl).mpr fun _ _ => trivial
  have hb := mem_range.mp hb
  exact within_copyByte (by omega) (by omega) (by omega)

/-- The numbers that a glyph is computed with fit, and so does its bitmap. -/
structure GlyphFits (ok : Nat → Prop) (m : PcfMetric) : Prop where
  width : FitsI16 (m.rightSideBearing.toInt - m.leftSideBearing.toInt)
  height : FitsI16 (m.ascent.toInt + m.descent.toInt)
  room : glyphWidth m ≠ 0 → glyphHeight m ≠ 0 → ok (rowBytes m * glyphHeight m)

theorem within_repack (hpad : glyphPad ≤ 8) (hoff : bmOff < 2 ^ 40) :
    Within ok (repack data msbBits glyphPad bmOff m) ↔ GlyphFits ok m := by
  have hspl : GlyphFits ok m ↔ FitsI16 (m.rightSideBearing.toInt - m.leftSideBearing.toInt) ∧
      FitsI16 (m.ascent.toInt + m.descent.toInt) ∧
        (glyphWidth m ≠ 0 → glyphHeight m ≠ 0 → ok (rowBytes m * glyphHeight m)) :=
    ⟨fun h => ⟨h.width, h.height, h.room⟩, fun h => ⟨h.1, h.2.1, h.2.2⟩⟩
  rw [repack, within_bind, within_subI16, hspl]
  refine and_congr_right fun _ => ?_
  dsimp only
  rw [within_bind, within_addI16]
  refine and_congr_right fun _ => ?_
  rw [within_ite]
  by_cases hemp : glyphWidth m = 0 ∨ glyphHeight m = 0
  · refine (if_pos hemp).to_iff.trans (iff_of_true (within_pure _) fun hw hh => ?_)
    exact absurd hemp (not_or.mpr ⟨hw, hh⟩)
  refine (if_neg hemp).to_iff.trans ?_
  obtain ⟨hw, hh⟩ := not_or.mp hemp
  have hrow := rowBytes_le m
  have hstr := rowStride_le hpad m
  have hht := glyphHeight_lt m
  have hsize : rowBytes m * glyphHeight m ≤ 2 ^ 12 * 2 ^ 15 := Nat.mul_le_mul hrow hht.le
  simp only [within_bind, within_usize, value_usize, within_alloc]
  change rowStride glyphPad m < 2 ^ 64 ∧ rowBytes m * glyphHeight m < 2 ^ 64 ∧ ok (rowBytes m * glyphHeight m) ∧
    Within ok ((List.range (glyphHeight m)).foldlM (copyRow data msbBits bmOff (rowStride glyphPad m) (rowBytes m))
      (List.replicate (rowBytes m * glyphHeight m) 0)) ↔ _
  have hrows : Within ok ((List.range (glyphHeight m)).foldlM
      (copyRow data msbBits bmOff (rowStride glyphPad m) (rowBytes m))
      (List.replicate (rowBytes m * glyphHeight m) 0)) := by
    refine (within_foldlM (I := fun bitmap : Bytes => bitmap.length = rowBytes m * glyphHeight m) (C := fun _ => True)
      (fun _ _ _ h => length_copyRow.trans h) (fun bitmap row hrow' h => iff_of_true ?_ trivial)
      length_replicate).mpr fun _ _ => trivial
    have hrow' := mem_range.mp hrow'
    have hsrc : row * rowStride glyphPad m ≤ 2 ^ 15 * 2 ^ 13 := Nat.mul_le_mul (by omega) hstr
    have hdst : (row + 1) * rowBytes m ≤ glyphHeight m * rowBytes m := Nat.mul_le_mul_right _ hrow'
    rw [Nat.add_mul, Nat.one_mul, Nat.mul_comm (glyphHeight m)] at hdst
    exact within_copyRow (by omega) (by omega) (by omega)
  exact ⟨fun h _ _ => h.2.2.1, fun hok => ⟨by omega, by omega, hok hw hh, hrows⟩⟩

def msbBitsAt (data : Bytes) (off : Nat) : Bool := decide (word32 data off false &&& pcfBitMask ≠ 0)

def glyphPadAt (data : Bytes) (off : Nat) : Nat := 2 ^ (word32 data off false &&& pcfGlyphPadMask).toNat

def bitmapCount (data : Bytes) (off : Nat) : Nat := (word32 data (off + 4) (msbAt data off)).toNat

def bitmapStart (data : Bytes) (off i : Nat) : Nat :=
  off + 8 + bitmapCount data off * 4 + 16 + (word32 data (off + 8 + i * 4) (msbAt data off)).toNat

def bitmapOf (data : Bytes) (off : Nat) (metrics : List PcfMetric) (i : Nat) : Bytes :=
  if metrics.length ≤ i then []
  else repacked data (msbBitsAt data off) (glyphPadAt data off) (bitmapStart data off i) (metrics.getD i default)

def bitmapsOf (data : Bytes) (off : Nat) (metrics : List PcfMetric) : List Bytes :=
  (List.range (bitmapCount data off)).map (bitmapOf data off metrics)

theorem glyphPadAt_le (data : Bytes) (off : Nat) : glyphPadAt data off ≤ 8 := by
  have hle : (word32 data off false &&& pcfGlyphPadMask).toNat ≤ 3 := by
    rw [UInt32.toNat_and]
    exact Nat.and_le_right
  exact Nat.pow_le_pow_right (by decide) hle

variable {table : PcfTable} {metrics : List PcfMetric}

theorem value_index_map {α : Type} [Inhabited α] {n i : Nat} (f : Nat → α) (hi : i < n) :
    (index ((List.range n).map f) i).value = f i := by
  change ((List.range n).map f).getD i default = f i
  rw [getD_eq_getElem?_getD, List.getElem?_map, List.getElem?_range hi, map_some, getD_some]

theorem within_index_map {α : Type} [Inhabited α] {n i : Nat} (f : Nat → α) (hi : i < n) :
    Within ok (index ((List.range n).map f) i) := by
  rw [within_index, length_map, length_range]
  exact hi

theorem value_extractBitmap {start n i : Nat} (offset : Nat → UInt32) (hi : i < n) :
    (extractBitmap data msbBits glyphPad start ((List.range n).map offset) metrics i).value =
      if metrics.length ≤ i then [] else
        repacked data msbBits glyphPad (start + (offset i).toNat) (metrics.getD i default) := by
  rw [extractBitmap, value_bind, value_index_map _ hi, value_bind, value_usize, value_ite]
  refine if_congr Iff.rfl rfl ?_
  rw [value_bind, value_repack]
  rfl

theorem within_extractBitmap {start n i : Nat} {offset : Nat → UInt32} (hi : i < n) (hpad : glyphPad ≤ 8)
    (hst : start < 2 ^ 36) :
    Within ok (extractBitmap data msbBits glyphPad start ((List.range n).map offset) metrics i) ↔
      ∀ h : i < metrics.length, GlyphFits ok metrics[i] := by
  have hoffset := (offset i).toNat_lt
  rw [extractBitmap, within_bind, value_index_map _ hi, within_bind, within_usize, value_usize,
    and_iff_right (within_index_map _ hi), and_iff_right (by omega), within_ite]
  by_cases hsh : metrics.length ≤ i
  · rw [if_pos hsh]
    exact iff_of_true (within_pure _) fun h => absurd hsh (by omega)
  · have hi := Nat.lt_of_not_le hsh
    have hget : (index metrics i).value = metrics[i] := by
      change metrics.getD i default = metrics[i]
      rw [getD_eq_getElem?_getD, List.getElem?_eq_getElem hi, getD_some]
    rw [if_neg hsh, within_bind, within_index, and_iff_right hi, hget, within_repack hpad (by omega)]
    exact ⟨fun h _ => h, fun h => h hi⟩

theorem value_readPcfBitmaps {r : PcfReader} :
    (readPcfBitmaps msbBits glyphPad metrics r).value =
      (List.range (word32 r.data r.pos r.msb).toNat).map fun i =>
        if metrics.length ≤ i then [] else
          repacked r.data msbBits glyphPad
            (r.pos + 4 + (word32 r.data r.pos r.msb).toNat * 4 + 16 + (word32 r.data (r.pos + 4 + i * 4) r.msb).toNat)
            (metrics.getD i default) := by
  rw [readPcfBitmaps]
  simp only [value_bind, value_mapM, reads_readU32.value, (reads_readU32.readMany _).value]
  refine map_congr_left fun i hi => ?_
  rw [value_extractBitmap _ (mem_range.mp hi)]
  rfl

theorem within_readPcfBitmaps {r : PcfReader} (hpad : glyphPad ≤ 8) (hpos : r.pos < 2 ^ 34) :
    Within ok (readPcfBitmaps msbBits glyphPad metrics r) ↔
      ok (word32 r.data r.pos r.msb).toNat ∧
        ∀ i < (word32 r.data r.pos r.msb).toNat, ∀ h : i < metrics.length, GlyphFits ok metrics[i] := by
  have hcnt := (word32 r.data r.pos r.msb).toNat_lt
  have hoffsets : Within ok (readMany PcfReader.readU32 (word32 r.data r.pos r.msb).toNat (r.advance 4)) :=
    (reads_readU32.readMany _).within _ ok (by rw [advance_pos]; omega)
  have hsizes : Within ok (readMany PcfReader.readU32 4
      ((r.advance 4).advance ((word32 r.data r.pos r.msb).toNat * 4))) :=
    (reads_readU32.readMany _).within _ ok (by rw [advance_pos, advance_pos]; omega)
  rw [readPcfBitmaps, within_bind, reads_readU32.value, and_iff_right (reads_readU32.within r ok (by omega))]
  dsimp only
  rw [within_bind, within_alloc]
  refine and_congr_right fun hok => ?_
  rw [within_bind, and_iff_right hoffsets, (reads_readU32.readMany _).value]
  dsimp only
  rw [within_bind, and_iff_right hsizes, (reads_readU32.readMany _).value, within_bind, within_alloc,
    and_iff_right hok, within_mapM]
  refine forall_congr' fun i => ?_
  rw [mem_range]
  refine imp_congr_right fun hi => within_extractBitmap hi hpad ?_
  simp only [advance_pos]
  omega

theorem value_parsePcfBitmaps :
    (parsePcfBitmaps data table metrics).value =
      if data.length < table.offset.toNat + 4 then none else some (bitmapsOf data table.offset.toNat metrics) := by
  rw [parsePcfBitmaps]
  dsimp only
  rw [value_bind, value_ite]
  refine if_congr Iff.rfl rfl ?_
  simp only [value_bind, value_pure, value_readPcfBitmaps]
  rfl

theorem within_parsePcfBitmaps :
    Within ok (parsePcfBitmaps data table metrics) ↔
      (table.offset.toNat + 4 ≤ data.length → ok (bitmapCount data table.offset.toNat) ∧
        ∀ i < bitmapCount data table.offset.toNat, ∀ h : i < metrics.length, GlyphFits ok metrics[i]) := by
  have hoff := table.offset.toNat_lt
  rw [parsePcfBitmaps]
  dsimp only
  rw [within_bind, within_usize, and_iff_right (by omega), value_usize, within_ite]
  by_cases hsh : data.length < table.offset.toNat + 4
  · rw [if_pos hsh]
    exact iff_of_true (within_pure _) fun h => absurd hsh (by omega)
  have hfits : Within ok (readPcfBitmaps (msbBitsAt data table.offset.toNat) (glyphPadAt data table.offset.toNat)
      metrics ⟨data, table.offset.toNat + 4, msbAt data table.offset.toNat⟩) ↔ _ :=
    within_readPcfBitmaps (glyphPadAt_le data table.offset.toNat) (by dsimp only; omega)
  rw [if_neg hsh, within_bind, within_pcfReadU32, and_iff_right (by omega), within_bind, within_usize,
    and_iff_right (by omega), within_bind, and_iff_left (within_pure _)]
  exact hfits.trans ⟨fun h _ => h, fun h => h (by omega)⟩

end Bitmaps

end X11Web.PcfParsing
