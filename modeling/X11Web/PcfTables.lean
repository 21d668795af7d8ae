import X11Web.PcfParsing

namespace X11Web.PcfParsing

open BitmapFonts CheckedRuns HashMaps Windows List

variable {α : Type} {ok : Nat → Prop} {data : Bytes} {off n : Nat} {msb : Bool} {r : PcfReader}

section Reading

def word32 (data : Bytes) (off : Nat) (msb : Bool) : UInt32 :=
  if off + 4 ≤ data.length then UInt32.ofNat (readU32 msb data off) else 0

def word16 (data : Bytes) (off : Nat) (msb : Bool) : UInt16 :=
  if off + 2 ≤ data.length then UInt16.ofNat (readU16 msb data off) else 0

@[simp] theorem value_pcfReadU32 : (pcfReadU32 data off msb).value = word32 data off msb := rfl

@[simp] theorem within_pcfReadU32 : Within ok (pcfReadU32 data off msb) ↔ off + 4 < 2 ^ 64 := by
  rw [pcfReadU32, within_bind, within_usize]
  exact and_iff_left (within_pure _)

@[simp] theorem value_pcfReadU16 : (pcfReadU16 data off msb).value = word16 data off msb := rfl

@[simp] theorem within_pcfReadU16 : Within ok (pcfReadU16 data off msb) ↔ off + 2 < 2 ^ 64 := by
  rw [pcfReadU16, within_bind, within_usize]
  exact and_iff_left (within_pure _)

def PcfReader.advance (r : PcfReader) (n : Nat) : PcfReader := { r with pos := r.pos + n }

@[simp] theorem advance_pos : (r.advance n).pos = r.pos + n := rfl

@[simp] theorem advance_data : (r.advance n).data = r.data := rfl

@[simp] theorem advance_msb : (r.advance n).msb = r.msb := rfl

@[simp] theorem advance_advance (m : Nat) : (r.advance m).advance n = r.advance (m + n) := by
  rw [PcfReader.advance, PcfReader.advance, PcfReader.advance, Nat.add_assoc]

structure Reads (size : Nat) (f : PcfReader → α) (read : PcfReader → Checked (α × PcfReader)) : Prop where
  value : ∀ r, (read r).value = (f r, r.advance size)
  within : ∀ r (ok : Nat → Prop), r.pos + size < 2 ^ 64 → Within ok (read r)

variable {read : PcfReader → Checked (α × PcfReader)} {f : PcfReader → α}

theorem Reads.bind {β : Type} {size size' : Nat} {g : α → PcfReader → β}
    {read' : α → PcfReader → Checked (β × PcfReader)}
    (h : Reads size f read) (h' : ∀ a, Reads size' (g a) (read' a)) :
    Reads (size + size') (fun r => g (f r) (r.advance size)) (fun r => read r >>= fun ar => read' ar.1 ar.2) where
  value := fun r => by
    rw [value_bind, h.value, (h' _).value, advance_advance]
  within := fun r ok hpos => by
    rw [within_bind, h.value]
    refine ⟨h.within r ok (by omega), (h' _).within _ ok ?_⟩
    rw [advance_pos]
    omega

theorem Reads.pure (a : α) : Reads 0 (fun _ => a) (fun r => Pure.pure (a, r)) where
  value := fun _ => rfl
  within := fun _ _ _ => within_pure _

theorem reads_readU32 : Reads 4 (fun r => word32 r.data r.pos r.msb) PcfReader.readU32 where
  value := fun _ => rfl
  within := fun r ok hpos => by
    rw [PcfReader.readU32, within_bind, within_pcfReadU32, within_bind, within_usize]
    exact ⟨hpos, hpos, within_pure _⟩

theorem reads_readU16 : Reads 2 (fun r => word16 r.data r.pos r.msb) PcfReader.readU16 where
  value := fun _ => rfl
  within := fun r ok hpos => by
    rw [PcfReader.readU16, within_bind, within_pcfReadU16, within_bind, within_usize]
    exact ⟨hpos, hpos, within_pure _⟩

theorem reads_readI16 : Reads 2 (fun r => (word16 r.data r.pos r.msb).toInt16) PcfReader.readI16 :=
  reads_readU16.bind fun v => .pure v.toInt16

theorem toInt_compressed (b : UInt8) : (b.toUInt16.toInt16).toInt = b.toNat := by
  have hlt := b.toNat_lt
  rw [Int16.toInt, UInt16.toBitVec_toInt16, BitVec.toInt_eq_toNat_of_lt]
  · simp
  · simp
    omega

theorem reads_readCompressedMetric :
    Reads 1 (fun r => (r.data.getD r.pos 0).toUInt16.toInt16 - 0x80) PcfReader.readCompressedMetric where
  value := fun _ => rfl
  within := fun r ok hpos => by
    rw [PcfReader.readCompressedMetric, within_bind, PcfReader.readU8, within_bind, within_usize]
    refine ⟨⟨hpos, within_pure _⟩, ?_⟩
    dsimp only [value_bind, value_usize, value_pure]
    rw [within_bind, within_subI16]
    refine ⟨?_, within_pure _⟩
    have hlt := (r.data.getD r.pos 0).toNat_lt
    rw [toInt_compressed, FitsI16, show (0x80 : Int16).toInt = 128 from rfl]
    omega

/-- The table of contents has an entry of sixteen bytes for each table. -/
def tableAt (data : Bytes) (pos : Nat) (msb : Bool) : PcfTable := ⟨word32 data pos msb, word32 data (pos + 12) msb⟩

theorem reads_readTable : Reads 16 (fun r => tableAt r.data r.pos r.msb) readTable :=
  reads_readU32.bind fun tableType => reads_readU32.bind fun _ => reads_readU32.bind fun _ =>
    reads_readU32.bind fun offset => .pure (PcfTable.mk tableType offset)

def metricAt (data : Bytes) (pos : Nat) (msb : Bool) : PcfMetric where
  leftSideBearing := (word16 data pos msb).toInt16
  rightSideBearing := (word16 data (pos + 2) msb).toInt16
  characterWidth := (word16 data (pos + 4) msb).toInt16
  ascent := (word16 data (pos + 6) msb).toInt16
  descent := (word16 data (pos + 8) msb).toInt16
  attributes := word16 data (pos + 10) msb

theorem reads_readPcfMetric : Reads 12 (fun r => metricAt r.data r.pos r.msb) readPcfMetric :=
  reads_readI16.bind fun l => reads_readI16.bind fun rsb => reads_readI16.bind fun w => reads_readI16.bind fun a =>
    reads_readI16.bind fun d => reads_readU16.bind fun attributes => .pure (CharInfo.mk l rsb w a d attributes)

def compressedMetricAt (data : Bytes) (pos : Nat) : PcfMetric where
  leftSideBearing := (data.getD pos 0).toUInt16.toInt16 - 0x80
  rightSideBearing := (data.getD (pos + 1) 0).toUInt16.toInt16 - 0x80
  characterWidth := (data.getD (pos + 2) 0).toUInt16.toInt16 - 0x80
  ascent := (data.getD (pos + 3) 0).toUInt16.toInt16 - 0x80
  descent := (data.getD (pos + 4) 0).toUInt16.toInt16 - 0x80
  attributes := 0

theorem reads_readCompressedPcfMetric :
    Reads 5 (fun r => compressedMetricAt r.data r.pos) readCompressedPcfMetric :=
  reads_readCompressedMetric.bind fun l => reads_readCompressedMetric.bind fun rsb =>
    reads_readCompressedMetric.bind fun w => reads_readCompressedMetric.bind fun a =>
      reads_readCompressedMetric.bind fun d => .pure (CharInfo.mk l rsb w a d 0)

theorem advance_succ (i size : Nat) : (r.advance size).advance (i * size) = r.advance ((i + 1) * size) := by
  rw [advance_advance, Nat.add_mul, Nat.one_mul, Nat.add_comm]

theorem advance_zero_mul (r : PcfReader) (size : Nat) : r.advance (0 * size) = r := by
  rw [Nat.zero_mul]
  rfl

theorem Reads.readMany {size : Nat} (h : Reads size f read) (n : Nat) :
    Reads (n * size) (fun r => (List.range n).map fun i => f (r.advance (i * size))) (readMany read n) where
  value := fun r => by
    induction n generalizing r with
    | zero => rw [advance_zero_mul]; rfl
    | succ n ih =>
      rw [PcfParsing.readMany, value_bind, h.value]
      dsimp only
      rw [value_bind, ih, range_succ_eq_map, map_cons, map_map, advance_zero_mul, advance_succ]
      simp only [Function.comp_def, advance_succ]
      rfl
  within := fun r ok hpos => by
    induction n generalizing r with
    | zero => exact within_pure _
    | succ n ih =>
      rw [Nat.add_mul, Nat.one_mul] at hpos
      rw [PcfParsing.readMany, within_bind, h.value]
      dsimp only
      rw [within_bind]
      refine ⟨h.within r ok (by omega), ih _ ?_, within_pure _⟩
      rw [advance_pos]
      omega

theorem value_readAvailable {size : Nat} (hsize : 0 < size)
    (h : Reads size f read) (n : Nat) (r : PcfReader) :
    (readAvailable size read n r).value =
      (List.range (min n (r.remaining / size))).map fun i => f (r.advance (i * size)) := by
  induction n generalizing r with
  | zero => rw [Nat.zero_min]; rfl
  | succ n ih =>
    rw [readAvailable]
    by_cases hless : r.remaining < size
    · rw [if_pos hless, Nat.div_eq_of_lt hless, Nat.min_zero]
      rfl
    · have hnext : (r.advance size).remaining = r.remaining - size := by
        rw [PcfReader.remaining, PcfReader.remaining, advance_data, advance_pos, Nat.sub_add_eq]
      have hcnt : min (n + 1) (r.remaining / size) = min n ((r.remaining - size) / size) + 1 := by
        rw [Nat.div_eq_sub_div hsize (Nat.le_of_not_lt hless), Nat.add_min_add_right]
      rw [if_neg hless, value_bind, h.value]
      dsimp only
      rw [value_bind, ih, hnext, hcnt, range_succ_eq_map, map_cons, map_map, advance_zero_mul]
      simp only [Function.comp_def, advance_succ]
      rfl

theorem within_readAvailable {size : Nat} (h : Reads size f read) (n : Nat) (r : PcfReader)
    (hpos : r.pos + n * size < 2 ^ 64) : Within ok (readAvailable size read n r) := by
  induction n generalizing r with
  | zero => exact within_pure _
  | succ n ih =>
    rw [Nat.add_mul, Nat.one_mul] at hpos
    rw [readAvailable, within_ite]
    split
    · exact within_pure _
    · rw [within_bind, h.value]
      dsimp only
      rw [within_bind]
      refine ⟨h.within r ok (by omega), ih _ ?_, within_pure _⟩
      rw [advance_pos]
      omega

end Reading

section Metrics

def msbAt (data : Bytes) (off : Nat) : Bool := decide (word32 data off false &&& pcfByteMask ≠ 0)

/-- The metrics of a table after its format, as many as it declares or as there are. -/
def metricsFrom (data : Bytes) (pos : Nat) (compressed msb : Bool) : List PcfMetric :=
  if compressed then
    (List.range (min (word16 data pos msb).toNat ((data.length - (pos + 2)) / 5))).map fun i =>
      compressedMetricAt data (pos + 2 + i * 5)
  else
    (List.range (min (word32 data pos msb).toNat ((data.length - (pos + 4)) / 12))).map fun i =>
      metricAt data (pos + 4 + i * 12) msb

def metricsOf (data : Bytes) (off : Nat) : List PcfMetric :=
  metricsFrom data (off + 4) (word32 data off false &&& pcfCompressedMetrics ≠ 0) (msbAt data off)

theorem length_metricsFrom (data : Bytes) (pos : Nat) (compressed msb : Bool) :
    (metricsFrom data pos compressed msb).length ≤ data.length := by
  rw [metricsFrom]
  split
  · rw [length_map, length_range]
    omega
  · rw [length_map, length_range]
    omega

theorem value_readPcfMetrics (compressed : Bool) (r : PcfReader) :
    (readPcfMetrics compressed r).value = metricsFrom r.data r.pos compressed r.msb := by
  rw [readPcfMetrics, metricsFrom]
  cases compressed with
  | true => exact value_readAvailable (by decide) reads_readCompressedPcfMetric _ (r.advance 2)
  | false => exact value_readAvailable (by decide) reads_readPcfMetric _ (r.advance 4)

theorem within_readPcfMetrics (compressed : Bool) {r : PcfReader} (hpos : r.pos < 2 ^ 34) :
    Within ok (readPcfMetrics compressed r) := by
  rw [readPcfMetrics]
  cases compressed with
  | true =>
    rw [if_pos rfl, within_bind, reads_readU16.value]
    refine ⟨reads_readU16.within r ok (by omega), within_readAvailable reads_readCompressedPcfMetric _ _ ?_⟩
    have hcnt := (word16 r.data r.pos r.msb).toNat_lt
    rw [advance_pos]
    omega
  | false =>
    rw [if_neg Bool.false_ne_true, within_bind, reads_readU32.value]
    refine ⟨reads_readU32.within r ok (by omega), within_readAvailable reads_readPcfMetric _ _ ?_⟩
    have hcnt := (word32 r.data r.pos r.msb).toNat_lt
    rw [advance_pos]
    omega

variable {table : PcfTable}

theorem value_parsePcfMetrics :
    (parsePcfMetrics data table).value =
      if data.length < table.offset.toNat + 4 then none else some (metricsOf data table.offset.toNat) := by
  rw [parsePcfMetrics]
  dsimp only
  rw [value_bind, value_ite]
  refine if_congr Iff.rfl rfl ?_
  simp only [value_bind, value_pure, value_readPcfMetrics]
  rfl

theorem within_parsePcfMetrics :
    Within ok (parsePcfMetrics data table) ↔
      (table.offset.toNat + 4 ≤ data.length → ok (metricsOf data table.offset.toNat).length) := by
  have hoff := table.offset.toNat_lt
  rw [parsePcfMetrics]
  dsimp only
  rw [within_bind, within_usize, and_iff_right (by omega), value_usize, within_ite]
  by_cases hsh : data.length < table.offset.toNat + 4
  · rw [if_pos hsh]
    exact iff_of_true (within_pure _) fun h => absurd hsh (by omega)
  · rw [if_neg hsh]
    simp only [within_bind, within_pcfReadU32, within_usize, value_usize, within_alloc, within_pure, and_true,
      value_readPcfMetrics]
    rw [and_iff_right (by omega), and_iff_right (by omega), and_iff_right (within_readPcfMetrics _ ?_)]
    · exact ⟨fun h _ => h, fun h => h (by omega)⟩
    · dsimp only
      omega

end Metrics

section Encodings

variable {single : Bool}

theorem mem_u16Range {lo hi c : UInt16} : c ∈ u16Range lo hi ↔ lo ≤ c ∧ c ≤ hi := by
  have hhi := hi.toNat_lt
  rw [u16Range, mem_map, UInt16.le_iff_toNat_le, UInt16.le_iff_toNat_le]
  constructor
  · rintro ⟨i, hi, rfl⟩
    have hi := mem_range.mp hi
    rw [UInt16.toNat_ofNat', Nat.mod_eq_of_lt (by omega)]
    omega
  · rintro ⟨hlo, hle⟩
    refine ⟨c.toNat - lo.toNat, mem_range.mpr (by omega), ?_⟩
    rw [Nat.add_sub_cancel' hlo, UInt16.ofNat_toNat]

theorem length_u16Range (lo hi : UInt16) : (u16Range lo hi).length = hi.toNat + 1 - lo.toNat := by
  rw [u16Range, length_map, length_range]

def cells (rows columns : List UInt16) : List (UInt16 × UInt16) := rows.flatMap fun b1 => columns.map fun b2 => (b1, b2)

theorem foldlM_cells {σ : Type} (step : UInt16 → σ → UInt16 → Checked σ) (rows columns : List UInt16) (a : σ) :
    rows.foldlM (fun a b1 => columns.foldlM (step b1) a) a =
      (cells rows columns).foldlM (fun a (cell : UInt16 × UInt16) => step cell.1 a cell.2) a := by
  induction rows generalizing a with
  | nil => rfl
  | cons b1 rows ih =>
    rw [foldlM_cons, cells, flatMap_cons, foldlM_append, foldlM_map]
    exact bind_congr fun a => ih a

theorem length_cells (rows columns : List UInt16) : (cells rows columns).length = rows.length * columns.length := by
  induction rows with
  | nil => rw [length_nil, Nat.zero_mul]; rfl
  | cons b1 rows ih =>
    rw [cells, flatMap_cons, length_append, length_map, length_cons, Nat.add_mul, Nat.one_mul,
      Nat.add_comm, ← ih]
    rfl

def enter (singleByte : Bool) (cell : UInt16 × UInt16) (glyphIdx : UInt16) (encodingMap : HashMap UInt16 Nat) :
    HashMap UInt16 Nat :=
  if glyphIdx ≠ 0xFFFF then
    encodingMap.insert (if singleByte then cell.2 else (cell.1 <<< 8) ||| cell.2) glyphIdx.toNat
  else encodingMap

theorem value_readEncoding (b1 b2 : UInt16) (encodingMap : HashMap UInt16 Nat) (r : PcfReader) :
    (readEncoding single b1 (encodingMap, r) b2).value =
      if r.remaining < 2 then (encodingMap, r)
      else (enter single (b1, b2) (word16 r.data r.pos r.msb) encodingMap, r.advance 2) := by
  rw [readEncoding, value_ite]
  refine if_congr Iff.rfl rfl ?_
  rw [value_bind, reads_readU16.value, value_ite, enter]
  split
  · rfl
  · rfl

theorem within_readEncoding {b1 b2 : UInt16} {encodingMap : HashMap UInt16 Nat} {r : PcfReader}
    (hpos : r.pos + 2 < 2 ^ 64) : Within ok (readEncoding single b1 (encodingMap, r) b2) := by
  rw [readEncoding, within_ite]
  split
  · exact within_pure _
  · rw [within_bind, within_ite]
    refine ⟨reads_readU16.within r ok hpos, ?_⟩
    split
    · exact within_pure _
    · exact within_pure _

theorem within_cells (cells : List (UInt16 × UInt16)) {encodingMap : HashMap UInt16 Nat} {r : PcfReader}
    (hpos : r.pos + cells.length * 2 < 2 ^ 64) :
    Within ok (cells.foldlM (fun a cell => readEncoding single cell.1 a cell.2) (encodingMap, r)) := by
  induction cells generalizing encodingMap r with
  | nil => exact within_pure _
  | cons cell cells ih =>
    rw [length_cons] at hpos
    rw [foldlM_cons, within_bind, value_readEncoding]
    refine ⟨within_readEncoding (by omega), ?_⟩
    split
    · exact ih (by omega)
    · exact ih (by rw [advance_pos]; omega)

/-- The table with the entries of all cells, or of those before the file ends. -/
def enterCells (singleByte : Bool) :
    List (UInt16 × UInt16) → PcfReader → HashMap UInt16 Nat → HashMap UInt16 Nat
  | [], _, encodingMap => encodingMap
  | cell :: cells, r, encodingMap =>
    if r.remaining < 2 then encodingMap
    else enterCells singleByte cells (r.advance 2) (enter singleByte cell (word16 r.data r.pos r.msb) encodingMap)

theorem value_cells (cells : List (UInt16 × UInt16)) (encodingMap : HashMap UInt16 Nat) (r : PcfReader) :
    (cells.foldlM (fun a cell => readEncoding single cell.1 a cell.2) (encodingMap, r)).value.1 =
      enterCells single cells r encodingMap := by
  induction cells generalizing encodingMap r with
  | nil => rfl
  | cons cell cells ih =>
    rw [foldlM_cons, value_bind, value_readEncoding, enterCells]
    by_cases hend : r.remaining < 2
    · -- The rest of the cells finds nothing to read either.
      rw [if_pos hend, if_pos hend, ih]
      cases cells with
      | nil => rfl
      | cons cell cells => exact if_pos hend
    · rw [if_neg hend, if_neg hend, ih]

theorem card_keys_le (encodingMap : HashMap UInt16 Nat) : encodingMap.keys.card ≤ 65536 := by
  have hle := Finset.card_le_card_of_injOn (s := encodingMap.keys) (t := Finset.range 65536) UInt16.toNat
    (fun c _ => Finset.mem_coe.mpr (Finset.mem_range.mpr c.toNat_lt)) (fun _ _ _ _ => UInt16.toNat_inj.mp)
  rwa [Finset.card_range] at hle

structure CodeRange where
  minByte2 : UInt16
  maxByte2 : UInt16
  minByte1 : UInt16
  maxByte1 : UInt16

namespace CodeRange

def singleByte (range : CodeRange) : Bool := decide (range.minByte1 = 0 ∧ range.maxByte1 = 0)

def maxChar (range : CodeRange) : UInt16 :=
  if range.singleByte then range.maxByte2 else (range.maxByte1 <<< 8) ||| range.maxByte2

def cells (range : CodeRange) : List (UInt16 × UInt16) :=
  PcfParsing.cells (u16Range range.minByte1 range.maxByte1) (u16Range range.minByte2 range.maxByte2)

theorem length_cells_le (range : CodeRange) : range.cells.length ≤ 2 ^ 32 := by
  have h1 := range.maxByte1.toNat_lt
  have h2 := range.maxByte2.toNat_lt
  have hle : range.cells.length ≤ 2 ^ 16 * 2 ^ 16 := by
    rw [cells, length_cells, length_u16Range, length_u16Range]
    exact Nat.mul_le_mul (by omega) (by omega)
  omega

end CodeRange

def codeRangeAt (data : Bytes) (pos : Nat) (msb : Bool) : CodeRange where
  minByte2 := word16 data pos msb
  maxByte2 := word16 data (pos + 2) msb
  minByte1 := word16 data (pos + 4) msb
  maxByte1 := word16 data (pos + 6) msb

theorem value_readPcfEncodings {r : PcfReader} :
    (readPcfEncodings r).value =
      ((codeRangeAt r.data r.pos r.msb).minByte2, (codeRangeAt r.data r.pos r.msb).maxChar,
        enterCells (codeRangeAt r.data r.pos r.msb).singleByte (codeRangeAt r.data r.pos r.msb).cells
          (r.advance 10) ∅) := by
  rw [readPcfEncodings]
  simp only [value_bind, reads_readU16.value, advance_advance, foldlM_cells, value_pure, value_cells]
  rfl

theorem within_readPcfEncodings {r : PcfReader} (hpos : r.pos < 2 ^ 34) (hok : ∀ n ≤ 65536, ok n) :
    Within ok (readPcfEncodings r) := by
  have hread (n : Nat) (hn : n ≤ 8) : Within ok (r.advance n).readU16 :=
    reads_readU16.within _ ok (by rw [advance_pos]; omega)
  rw [readPcfEncodings]
  simp only [within_bind, reads_readU16.value, advance_advance, foldlM_cells, within_alloc, within_pure, and_true]
  have hlen := (codeRangeAt r.data r.pos r.msb).length_cells_le
  refine ⟨hread 0 (by omega), hread 2 (by omega), hread 4 (by omega), hread 6 (by omega), hread 8 (by omega), ?_,
    hok _ (card_keys_le _)⟩
  refine within_cells _ ?_
  rw [advance_pos]
  change _ + (codeRangeAt r.data r.pos r.msb).cells.length * 2 < _
  omega

def codeRangeOf (data : Bytes) (off : Nat) : CodeRange := codeRangeAt data (off + 4) (msbAt data off)

def encodingsOf (data : Bytes) (off : Nat) : HashMap UInt16 Nat :=
  enterCells (codeRangeOf data off).singleByte (codeRangeOf data off).cells ⟨data, off + 14, msbAt data off⟩ ∅

variable {table : PcfTable}

theorem value_parsePcfEncodings :
    (parsePcfEncodings data table).value =
      if data.length < table.offset.toNat + 14 then none
      else some ((codeRangeOf data table.offset.toNat).minByte2, (codeRangeOf data table.offset.toNat).maxChar,
        encodingsOf data table.offset.toNat) := by
  rw [parsePcfEncodings]
  dsimp only
  rw [value_bind, value_ite]
  refine if_congr Iff.rfl rfl ?_
  simp only [value_bind, value_pure, value_readPcfEncodings]
  rfl

theorem within_parsePcfEncodings (hok : ∀ n ≤ 65536, ok n) : Within ok (parsePcfEncodings data table) := by
  have hoff := table.offset.toNat_lt
  rw [parsePcfEncodings]
  dsimp only
  rw [within_bind, within_usize, value_usize, within_ite]
  refine ⟨by omega, ?_⟩
  split
  · exact within_pure _
  · rw [within_bind, within_pcfReadU32, within_bind, within_usize, within_bind]
    exact ⟨by omega, by omega, within_readPcfEncodings (by dsimp only [value_usize]; omega) hok, within_pure _⟩

end Encodings

end X11Web.PcfParsing
