import X11Web.PcfBitmaps

namespace X11Web.PcfParsing

open BitmapFonts CheckedRuns ClientFonts HashMaps Windows List

variable {ok : Nat → Prop} {data : Bytes} {table : PcfTable} {tables : List PcfTable}

section Extents

theorem within_slice {start stop : Nat} : Within ok (slice data start stop) ↔ start ≤ stop ∧ stop ≤ data.length :=
  within_checked nofun

theorem length_value_slice_le (start stop : Nat) : (slice data start stop).value.length ≤ data.length := by
  change ((data.take stop).drop start).length ≤ data.length
  rw [length_drop, length_take]
  omega

theorem length_value_slice {start stop : Nat} (hstop : stop ≤ data.length) :
    (slice data start stop).value.length = stop - start := by
  change ((data.take stop).drop start).length = stop - start
  rw [length_drop, length_take, Nat.min_eq_left hstop]

theorem within_textBytes {strings : Bytes} {offset : Nat} (hoff : offset ≤ strings.length)
    (hlen : strings.length < 2 ^ 64) : Within ok (textBytes strings offset) := by
  have hend : (slice strings offset strings.length).value.findIdx (· = 0) ≤ strings.length - offset := by
    have hle : (slice strings offset strings.length).value.findIdx (· = 0) ≤ _ := findIdx_le_length
    rwa [length_value_slice le_rfl] at hle
  rw [textBytes, within_bind, within_slice, within_bind, within_usize, within_slice, value_usize]
  exact ⟨⟨hoff, le_rfl⟩, by omega, by omega, by omega⟩

theorem length_value_textBytes_le (strings : Bytes) (offset : Nat) :
    (textBytes strings offset).value.length ≤ strings.length :=
  length_value_slice_le _ _

theorem within_guard {α : Type} {n : Nat} [Decidable (data.length < n)] {a : α} {x : Checked α}
    (hx : n ≤ data.length → Within ok x) : Within ok (if data.length < n then pure a else x) := by
  rw [within_ite]
  split
  · exact within_pure _
  · exact hx (by omega)

theorem within_findFontName {msb : Bool} {propsStart : Nat} {strings : Bytes} {is : List Nat}
    (hst : propsStart < 2 ^ 33) (his : ∀ i ∈ is, i < 2 ^ 14) (hstrings : strings.length ≤ data.length)
    (hlen : strings.length < 2 ^ 64) (hok : ∀ n ≤ data.length, ok n) :
    Within ok (findFontName data msb propsStart strings is) := by
  induction is with
  | nil => exact within_pure _
  | cons i is ih =>
    obtain ⟨hi, his⟩ := forall_mem_cons.mp his
    rw [findFontName]
    simp only [within_bind, within_usize, value_usize]
    refine ⟨by omega, by omega, by omega, within_guard fun hthere => ?_⟩
    simp only [within_bind, within_usize, value_usize]
    refine ⟨within_pcfReadU32.mpr (by omega), by omega, within_index.mpr (by omega), by omega,
      within_pcfReadU32.mpr (by omega), ?_⟩
    rw [within_ite]
    split
    · next hname =>
      rw [within_bind]
      refine ⟨within_textBytes hname.le hlen, ?_⟩
      split
      · exact within_pure _
      · rw [within_ite]
        split
        · next hfont =>
          rw [within_bind, within_bind, within_alloc]
          exact ⟨within_textBytes hfont.2.2.le hlen, hok _ ((length_value_textBytes_le _ _).trans hstrings),
            within_pure _⟩
        · exact ih his
    · exact ih his

theorem within_readFontName {msb : Bool} {off numProps : Nat} (hoff : off < 2 ^ 32) (hprops : numProps ≤ 10000)
    (hok : ∀ n ≤ data.length, ok n) : Within ok (readFontName data msb off numProps) := by
  have hsize := (pcfReadU32 data ((off + 8 + numProps * 9 + 3) / 4 * 4) msb).value.toNat_lt
  rw [readFontName]
  dsimp only
  simp only [within_bind, within_usize, value_usize]
  refine ⟨by omega, by omega, by omega, by omega, by omega, within_guard fun hst => ?_⟩
  simp only [within_bind, within_usize, value_usize]
  refine ⟨within_pcfReadU32.mpr (by omega), by omega, by omega, within_guard fun hend => ?_⟩
  rw [within_bind, within_slice]
  refine ⟨⟨by omega, hend⟩, within_findFontName (by omega) (fun i hi => ?_) (length_value_slice_le _ _) ?_ hok⟩
  · have hi := mem_range.mp hi
    omega
  · rw [length_value_slice hend]
    omega

theorem within_parsePcfPropertiesFontName (hok : ∀ n ≤ data.length, ok n) :
    Within ok (parsePcfPropertiesFontName data table) := by
  have hoff := table.offset.toNat_lt
  rw [parsePcfPropertiesFontName]
  dsimp only
  simp only [within_bind, within_usize, value_usize]
  refine ⟨by omega, within_guard fun hformat => ?_⟩
  simp only [within_bind, within_usize, value_usize]
  refine ⟨within_pcfReadU32.mpr (by omega), by omega, within_pcfReadU32.mpr (by omega), ?_⟩
  rw [within_ite]
  split
  · exact within_pure _
  · next hprops => exact within_readFontName hoff (by omega) hok

theorem within_parsePcfAccelerators : Within ok (parsePcfAccelerators data table) := by
  have hoff := table.offset.toNat_lt
  rw [parsePcfAccelerators]
  dsimp only
  simp only [within_bind, within_usize, value_usize]
  refine ⟨by omega, within_guard fun hformat => ?_⟩
  simp only [within_bind, within_usize, value_usize]
  refine ⟨within_pcfReadU32.mpr (by omega), by omega, by omega, by omega, within_guard fun hext => ?_⟩
  simp only [within_bind]
  exact ⟨within_pcfReadU32.mpr (by omega), within_pcfReadU32.mpr (by omega), within_pure _⟩

theorem within_fontExtents {metrics : List PcfMetric} : Within ok (fontExtents data tables metrics) := by
  rw [fontExtents]
  split
  · exact within_parsePcfAccelerators
  · exact within_pure _

theorem within_fontName (hok : ∀ n ≤ data.length, ok n) : Within ok (fontName data tables) := by
  rw [fontName]
  split
  · exact within_parsePcfPropertiesFontName hok
  · exact within_pure _

end Extents

section Header

def tableCount (data : Bytes) : Nat := readU32 false data 4

def tablesOf (data : Bytes) : List PcfTable :=
  (List.range (tableCount data)).map fun i => tableAt data (8 + i * 16) false

def HasTables (data : Bytes) : Prop :=
  8 ≤ data.length ∧ readU32 false data 0 = pcfMagic.toNat ∧ 8 + tableCount data * 16 ≤ data.length

instance (data : Bytes) : Decidable (HasTables data) := inferInstanceAs (Decidable (_ ∧ _ ∧ _))

theorem readU32_lt (msb : Bool) (data : Bytes) (off : Nat) : readU32 msb data off < 2 ^ 32 := by
  have h0 := (data.getD off 0).toNat_lt
  have h1 := (data.getD (off + 1) 0).toNat_lt
  have h2 := (data.getD (off + 2) 0).toNat_lt
  have h3 := (data.getD (off + 2 + 1) 0).toNat_lt
  cases msb with
  | true =>
    rw [readU32, if_pos rfl, readU16, readU16, if_pos rfl, if_pos rfl]
    omega
  | false =>
    rw [readU32, if_neg Bool.false_ne_true, readU16, readU16, if_neg Bool.false_ne_true, if_neg Bool.false_ne_true]
    omega

@[simp] theorem value_leWord (data : Bytes) (off : Nat) : (leWord data off).value = readU32 false data off := rfl

theorem within_leWord {off : Nat} (hthere : off + 4 ≤ data.length) : Within ok (leWord data off) := by
  rw [leWord]
  simp only [within_bind, within_index, within_pure, and_true]
  exact ⟨by omega, by omega, by omega, by omega⟩

theorem value_readTables :
    (readMany readTable (tableCount data) ⟨data, 8, false⟩).value =
      (tablesOf data, (⟨data, 8, false⟩ : PcfReader).advance (tableCount data * 16)) :=
  (reads_readTable.readMany _).value _

variable {path : String}

theorem value_parsePcfData :
    (parsePcfData data path).value = if HasTables data then (parseFont data path (tablesOf data)).value else none := by
  have hleWord : (leWord data 4).value = tableCount data := rfl
  rw [parsePcfData, value_ite]
  by_cases hsh : data.length < 8
  · rw [if_pos hsh, if_neg fun h => absurd h.1 (by omega), value_pure]
  rw [if_neg hsh, value_bind, value_leWord, value_ite]
  by_cases hmagic : readU32 false data 0 ≠ pcfMagic.toNat
  · rw [if_pos hmagic, if_neg fun h => hmagic h.2.1, value_pure]
  rw [if_neg hmagic, value_bind, hleWord, value_bind, value_usize, value_bind, value_usize, value_ite]
  by_cases hend : data.length < 8 + tableCount data * 16
  · rw [if_neg fun h : HasTables data => absurd h.2.2 (by omega)]
    exact if_pos hend
  rw [if_pos (show HasTables data from ⟨by omega, of_not_not hmagic, by omega⟩)]
  refine (if_neg hend).trans ?_
  rw [value_bind, value_bind, value_readTables]

theorem within_parsePcfData (hok : ∀ n ≤ data.length, ok n) :
    Within ok (parsePcfData data path) ↔ (HasTables data → Within ok (parseFont data path (tablesOf data))) := by
  have hcnt : tableCount data < 2 ^ 32 := readU32_lt false data 4
  have hleWord : (leWord data 4).value = tableCount data := rfl
  rw [parsePcfData, within_ite]
  by_cases hsh : data.length < 8
  · rw [if_pos hsh]
    exact iff_of_true (within_pure _) fun h => absurd h.1 (by omega)
  rw [if_neg hsh, within_bind, value_leWord, and_iff_right (within_leWord (by omega)), within_ite]
  by_cases hmagic : readU32 false data 0 ≠ pcfMagic.toNat
  · rw [if_pos hmagic]
    exact iff_of_true (within_pure _) fun h => absurd h.2.1 hmagic
  rw [if_neg hmagic, within_bind, hleWord, and_iff_right (within_leWord (by omega)), within_bind, within_usize,
    value_usize, and_iff_right (by omega), within_bind, within_usize, value_usize, and_iff_right (by omega), within_ite]
  by_cases htables : data.length < 8 + tableCount data * 16
  · refine (if_pos htables).to_iff.trans (iff_of_true (within_pure _) fun h => absurd h.2.2 (by omega))
  have hread : Within ok (readMany readTable (tableCount data) ⟨data, 8, false⟩) :=
    (reads_readTable.readMany _).within _ ok (by dsimp only; omega)
  refine (if_neg htables).to_iff.trans ?_
  rw [within_bind, within_alloc, and_iff_right (hok _ (by omega)), within_bind, and_iff_right hread,
    (reads_readTable.readMany _).value]
  exact ⟨fun h _ => h, fun h => h ⟨by omega, of_not_not hmagic, by omega⟩⟩

end Header

section Tables

/-- The offset of the first table of a type, where so many bytes of it are there. -/
def tableOffset (data : Bytes) (tables : List PcfTable) (tableType : UInt32) (size : Nat) : Option Nat :=
  ((findTable tables tableType).map fun table => table.offset.toNat).filter fun off => off + size ≤ data.length

theorem tableOffset_none {tableType : UInt32} {size : Nat} (hfind : findTable tables tableType = none) :
    tableOffset data tables tableType size = none := by
  rw [tableOffset, hfind]
  rfl

theorem tableOffset_some {tableType : UInt32} {size : Nat} (hfind : findTable tables tableType = some table) :
    tableOffset data tables tableType size =
      if data.length < table.offset.toNat + size then none else some table.offset.toNat := by
  rw [tableOffset, hfind, Option.map_some, Option.filter_some]
  by_cases hsh : data.length < table.offset.toNat + size
  · rw [if_pos hsh, if_neg (by rw [decide_eq_true_iff]; omega)]
  · rw [if_neg hsh, if_pos (by rw [decide_eq_true_iff]; omega)]

theorem value_parseEncodings {metrics : List PcfMetric} {bitmaps : List Bytes} :
    (parseEncodings data tables metrics bitmaps).value =
      (tableOffset data tables pcfBdfEncodings 14).map fun e =>
        (metrics, bitmaps, (codeRangeOf data e).minByte2, (codeRangeOf data e).maxChar, encodingsOf data e) := by
  rw [parseEncodings]
  cases he : findTable tables pcfBdfEncodings with
  | none => rw [tableOffset_none he]; rfl
  | some encodingsTable =>
    rw [tableOffset_some he]
    dsimp only
    rw [value_bind, value_parsePcfEncodings]
    by_cases hencodings : data.length < encodingsTable.offset.toNat + 14
    · rw [if_pos hencodings, if_pos hencodings]
      rfl
    · rw [if_neg hencodings, if_neg hencodings]
      rfl

def tablesParsed (data : Bytes) (tables : List PcfTable) :
    Option (List PcfMetric × List Bytes × UInt16 × UInt16 × HashMap UInt16 Nat) := do
  let m ← tableOffset data tables pcfMetrics 4
  let b ← tableOffset data tables pcfBitmaps 4
  (tableOffset data tables pcfBdfEncodings 14).map fun e =>
    (metricsOf data m, bitmapsOf data b (metricsOf data m), (codeRangeOf data e).minByte2,
      (codeRangeOf data e).maxChar, encodingsOf data e)

theorem value_parseTables : (parseTables data tables).value = tablesParsed data tables := by
  rw [parseTables, tablesParsed]
  cases hm : findTable tables pcfMetrics with
  | none => rw [tableOffset_none hm]; rfl
  | some metricsTable =>
    rw [tableOffset_some hm]
    dsimp only
    rw [value_bind, value_parsePcfMetrics]
    by_cases hmetrics : data.length < metricsTable.offset.toNat + 4
    · rw [if_pos hmetrics, if_pos hmetrics]
      rfl
    rw [if_neg hmetrics, if_neg hmetrics]
    cases hb : findTable tables pcfBitmaps with
    | none => rw [tableOffset_none hb]; rfl
    | some bitmapsTable =>
      rw [tableOffset_some hb]
      dsimp only
      rw [value_bind, value_parsePcfBitmaps]
      by_cases hbms : data.length < bitmapsTable.offset.toNat + 4
      · rw [if_pos hbms, if_pos hbms]
        rfl
      rw [if_neg hbms, if_neg hbms]
      exact value_parseEncodings

theorem within_parseEncodings {metrics : List PcfMetric} {bitmaps : List Bytes} (hok : ∀ n ≤ 65536, ok n) :
    Within ok (parseEncodings data tables metrics bitmaps) := by
  rw [parseEncodings]
  split
  · exact within_pure _
  · rw [within_bind]
    refine ⟨within_parsePcfEncodings hok, ?_⟩
    split
    · exact within_pure _
    · exact within_pure _

theorem within_parseTables (hok : ∀ n ≤ data.length, ok n) (hok' : ∀ n ≤ 65536, ok n) :
    Within ok (parseTables data tables) ↔
      ∀ m b, tableOffset data tables pcfMetrics 4 = some m → tableOffset data tables pcfBitmaps 4 = some b →
        ok (bitmapCount data b) ∧
          ∀ i < bitmapCount data b, ∀ h : i < (metricsOf data m).length, GlyphFits ok (metricsOf data m)[i] := by
  rw [parseTables]
  cases hm : findTable tables pcfMetrics with
  | none =>
    rw [tableOffset_none hm]
    exact iff_of_true (within_pure _) fun _ _ h => nomatch h
  | some metricsTable =>
    rw [tableOffset_some hm]
    dsimp only
    have hlength : ok (metricsOf data metricsTable.offset.toNat).length := hok _ (length_metricsFrom _ _ _ _)
    rw [within_bind, within_parsePcfMetrics, and_iff_right fun _ => hlength, value_parsePcfMetrics]
    by_cases hmetrics : data.length < metricsTable.offset.toNat + 4
    · rw [if_pos hmetrics, if_pos hmetrics]
      exact iff_of_true (within_pure _) fun _ _ h => nomatch h
    rw [if_neg hmetrics, if_neg hmetrics]
    cases hb : findTable tables pcfBitmaps with
    | none =>
      rw [tableOffset_none hb]
      exact iff_of_true (within_pure _) fun _ _ _ h => nomatch h
    | some bitmapsTable =>
      rw [tableOffset_some hb]
      dsimp only
      rw [within_bind, within_parsePcfBitmaps, value_parsePcfBitmaps]
      by_cases hbms : data.length < bitmapsTable.offset.toNat + 4
      · rw [if_pos hbms, if_pos hbms]
        exact iff_of_true ⟨fun h => absurd hbms (by omega), within_pure _⟩ fun _ _ _ h => nomatch h
      rw [if_neg hbms, if_neg hbms]
      dsimp only
      rw [and_iff_left (within_parseEncodings hok')]
      constructor
      · rintro h m b ⟨⟩ ⟨⟩
        exact h (by omega)
      · exact fun h _ => h _ _ rfl rfl

end Tables

end X11Web.PcfParsing
