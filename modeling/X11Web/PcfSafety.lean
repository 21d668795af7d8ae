import X11Web.PcfFiles

namespace X11Web.PcfParsing

open BitmapFonts CheckedRuns ClientFonts HashMaps Windows List

variable {ok : Nat → Prop} {data : Bytes} {tables : List PcfTable}

section Assembly

variable {metrics : List PcfMetric} {bitmaps : List Bytes} {encodingMap : HashMap UInt16 Nat} {minChar maxChar : UInt16}

/-- Every glyph with metrics fits, and its bitmap is as large as its width and height say. -/
def AllFit (ok : Nat → Prop) (metrics : List PcfMetric) (bitmaps : List Bytes) : Prop :=
  ∀ i (hm : i < metrics.length) (hb : i < bitmaps.length), GlyphFits ok metrics[i] ∧ ok bitmaps[i].length

variable {m : PcfMetric}

theorem within_storeInfo {charInfos : List CharInfo} {idx : Nat} : Within ok (storeInfo charInfos idx m) := by
  rw [storeInfo, within_ite]
  split
  · next hthere => exact within_store.mpr hthere
  · exact within_pure _

theorem value_index {α : Type} [Inhabited α] {xs : List α} {i : Nat} (hi : i < xs.length) :
    (index xs i).value = xs[i] := by
  change xs.getD i default = xs[i]
  rw [getD_eq_getElem?_getD, List.getElem?_eq_getElem hi, Option.getD_some]

variable {glyphs : List GlyphBitmap} {glyphIdx idx : Nat}

theorem within_storeGlyph (hm : glyphIdx < metrics.length)
    (hfit : AllFit ok metrics bitmaps) : Within ok (storeGlyph bitmaps glyphs glyphIdx idx metrics[glyphIdx]) := by
  rw [storeGlyph, within_ite]
  split
  · next hthere =>
    obtain ⟨hfits, hlen⟩ := hfit glyphIdx hm hthere.1
    dsimp only
    simp only [within_bind, within_subI16, within_addI16, within_index, within_alloc, within_store,
      value_index hthere.1]
    exact ⟨hfits.width, hfits.height, hthere.1, hlen, hthere.2⟩
  · exact within_pure _

theorem within_assemble {state : Assembly} {encoding : UInt16} (hle : minChar ≤ encoding)
    (hfit : AllFit ok metrics bitmaps) : Within ok (assemble metrics bitmaps encodingMap minChar state encoding) := by
  rw [assemble, within_bind, within_subU16]
  refine ⟨hle, ?_⟩
  dsimp only
  split
  · exact within_pure _
  · next glyphIdx _ =>
    rw [within_ite]
    split
    · exact within_pure _
    · next hsh =>
      have hm := Nat.lt_of_not_le hsh
      simp only [within_bind, within_index, value_index hm]
      exact ⟨hm, within_storeInfo, within_storeGlyph hm hfit, within_pure _⟩

theorem within_numChars : Within ok (numChars minChar maxChar) ↔ ¬(minChar = 0 ∧ maxChar = 65535) := by
  have hmin := minChar.toNat_lt
  have hmax := maxChar.toNat_lt
  have hzero : minChar = 0 ↔ minChar.toNat = 0 := UInt16.toNat_inj.symm
  have hlast : maxChar = 65535 ↔ maxChar.toNat = 65535 := UInt16.toNat_inj.symm
  rw [numChars, within_ite, hzero, hlast]
  split
  · next hle =>
    have hle : minChar.toNat ≤ maxChar.toNat := hle
    have hspan : (subU16 maxChar minChar).value.toNat = maxChar.toNat - minChar.toNat := UInt16.toNat_sub_of_le _ _ hle
    simp only [within_bind, within_subU16, within_addU16, within_pure, and_true, hspan]
    rw [and_iff_right hle, show (1 : UInt16).toNat = 1 from rfl]
    omega
  · next hle =>
    have hle : ¬minChar.toNat ≤ maxChar.toNat := hle
    exact iff_of_true (within_pure _) (by omega)

theorem value_numChars (h : ¬(minChar = 0 ∧ maxChar = 65535)) :
    (numChars minChar maxChar).value = maxChar.toNat + 1 - minChar.toNat := by
  have hmin := minChar.toNat_lt
  have hmax := maxChar.toNat_lt
  rw [show minChar = 0 ↔ minChar.toNat = 0 from UInt16.toNat_inj.symm,
    show maxChar = 65535 ↔ maxChar.toNat = 65535 from UInt16.toNat_inj.symm] at h
  rw [numChars, value_ite]
  split
  · next hle =>
    have hle' : minChar.toNat ≤ maxChar.toNat := hle
    change ((maxChar - minChar) + 1).toNat = _
    rw [UInt16.toNat_add, UInt16.toNat_sub_of_le _ _ hle, show (1 : UInt16).toNat = 1 from rfl,
      Nat.mod_eq_of_lt (by omega)]
    omega
  · next hle =>
    have hle' : ¬minChar.toNat ≤ maxChar.toNat := hle
    rw [value_pure]
    omega

theorem value_numChars_le : (numChars minChar maxChar).value ≤ 65536 := by
  rw [numChars, value_ite]
  split
  · exact (UInt16.toNat_lt _).le
  · exact Nat.zero_le _

theorem within_assembleFont {path : String} (hok : ∀ n ≤ data.length, ok n) (hok' : ∀ n ≤ 65536, ok n)
    (hfit : AllFit ok metrics bitmaps) :
    Within ok (assembleFont data path tables metrics bitmaps minChar maxChar encodingMap) ↔
      ¬(minChar = 0 ∧ maxChar = 65535) := by
  have hcnt : ok (numChars minChar maxChar).value := hok' _ value_numChars_le
  rw [assembleFont, within_bind, and_iff_right (within_fontName hok), within_bind, and_iff_right within_fontExtents]
  dsimp only
  rw [within_bind, within_numChars, within_bind, within_alloc, within_bind, within_alloc, and_iff_right hcnt,
    and_iff_right hcnt, within_bind, and_iff_left (within_pure _)]
  refine and_iff_left ((within_foldlM (I := fun _ => True) (C := fun _ => True) (fun _ _ _ _ => trivial)
    (fun _ c hc _ => iff_of_true (within_assemble (mem_u16Range.mp hc).1 hfit) trivial) trivial).mpr fun _ _ => trivial)

def GlyphBitmap.Sized (glyph : GlyphBitmap) : Prop :=
  glyph.bitmap = [] ∨ glyph.bitmap.length = glyph.height.toNat * divCeil glyph.width.toNat 8

/-- An entry for each code from the first to the last, and no glyph but with its pixels. -/
structure FontSized (font : BitmapFont) : Prop where
  charInfos : font.charInfos.length = font.maxChar.toNat + 1 - font.minChar.toNat
  glyphs : font.glyphs.length = font.maxChar.toNat + 1 - font.minChar.toNat
  sized : ∀ glyph ∈ font.glyphs, GlyphBitmap.Sized glyph

def AllSized (metrics : List PcfMetric) (bitmaps : List Bytes) : Prop :=
  ∀ i (hm : i < metrics.length) (hb : i < bitmaps.length),
    bitmaps[i] = [] ∨ bitmaps[i].length = rowBytes metrics[i] * glyphHeight metrics[i]

structure Assembly.Sized (n : Nat) (state : Assembly) : Prop where
  charInfos : state.charInfos.length = n
  glyphs : state.glyphs.length = n
  sized : ∀ glyph ∈ state.glyphs, GlyphBitmap.Sized glyph

theorem length_storeInfo {charInfos : List CharInfo} {idx : Nat} :
    (storeInfo charInfos idx m).value.length = charInfos.length := by
  rw [storeInfo, value_ite]
  split
  · exact length_set
  · rfl

theorem length_storeGlyph : (storeGlyph bitmaps glyphs glyphIdx idx m).value.length = glyphs.length := by
  rw [storeGlyph, value_ite]
  split
  · exact length_set
  · rfl

theorem toNat_glyphWidth (m : PcfMetric) : (UInt16.ofNat (glyphWidth m)).toNat = glyphWidth m := by
  have hlt := glyphWidth_lt m
  rw [UInt16.toNat_ofNat', Nat.mod_eq_of_lt (by omega)]

theorem toNat_glyphHeight (m : PcfMetric) : (UInt16.ofNat (glyphHeight m)).toNat = glyphHeight m := by
  have hlt := glyphHeight_lt m
  rw [UInt16.toNat_ofNat', Nat.mod_eq_of_lt (by omega)]

theorem value_storeGlyph : (storeGlyph bitmaps glyphs glyphIdx idx m).value =
      if h : glyphIdx < bitmaps.length then
        glyphs.set idx ⟨UInt16.ofNat (glyphWidth m), UInt16.ofNat (glyphHeight m), bitmaps[glyphIdx]⟩
      else glyphs := by
  rw [storeGlyph, value_ite]
  by_cases hb : glyphIdx < bitmaps.length
  · rw [dif_pos hb]
    split
    · simp only [value_bind, value_store, value_index hb]
      rfl
    · next hthere => exact (set_eq_of_length_le (Nat.le_of_not_lt fun h => hthere ⟨hb, h⟩)).symm
  · rw [dif_neg hb, if_neg fun h => hb h.1]
    rfl

theorem sized_storeGlyph (hm : glyphIdx < metrics.length)
    (hall : AllSized metrics bitmaps) (hgls : ∀ glyph ∈ glyphs, GlyphBitmap.Sized glyph) :
    ∀ glyph ∈ (storeGlyph bitmaps glyphs glyphIdx idx metrics[glyphIdx]).value, GlyphBitmap.Sized glyph := by
  rw [value_storeGlyph]
  split
  · next hb =>
    intro glyph hgl
    obtain hgl | rfl := mem_or_eq_of_mem_set hgl
    · exact hgls glyph hgl
    · refine (hall glyphIdx hm hb).imp id fun hlen => ?_
      dsimp only
      rw [toNat_glyphWidth, toNat_glyphHeight, hlen, Nat.mul_comm]
      rfl
  · exact hgls

theorem sized_assemble {state : Assembly} {encoding : UInt16} {n : Nat} (hall : AllSized metrics bitmaps)
    (hst : state.Sized n) : (assemble metrics bitmaps encodingMap minChar state encoding).value.Sized n := by
  rw [assemble, value_bind]
  dsimp only
  split
  · exact hst
  · next glyphIdx _ =>
    rw [value_ite]
    split
    · exact hst
    · next hsh =>
      have hm := Nat.lt_of_not_le hsh
      simp only [value_bind, value_pure, value_index hm]
      exact ⟨length_storeInfo.trans hst.charInfos, length_storeGlyph.trans hst.glyphs,
        sized_storeGlyph hm hall hst.sized⟩

theorem sized_emptyAssembly (count : Nat) : (emptyAssembly count).Sized count where
  charInfos := length_replicate
  glyphs := length_replicate
  sized := fun _ hgl => .inl (eq_of_mem_replicate hgl ▸ rfl)

theorem sized_assembleFont {path : String} (hall : AllSized metrics bitmaps)
    (hspan : ¬(minChar = 0 ∧ maxChar = 65535)) :
    FontSized (assembleFont data path tables metrics bitmaps minChar maxChar encodingMap).value := by
  have hsized := List.foldlRecOn (motive := Assembly.Sized (numChars minChar maxChar).value)
    (u16Range minChar maxChar) (fun a b => (assemble metrics bitmaps encodingMap minChar a b).value)
    (sized_emptyAssembly (numChars minChar maxChar).value) fun _ hst _ _ => sized_assemble hall hst
  rw [assembleFont]
  simp only [value_bind, value_foldlM, value_pure]
  rw [value_numChars hspan] at hsized ⊢
  exact ⟨hsized.charInfos, hsized.glyphs, hsized.sized⟩

end Assembly

section Safety

variable {path : String} {c : Nat}

theorem length_repacked (data : Bytes) (msbBits : Bool) (glyphPad bmOff : Nat) (m : PcfMetric) :
    repacked data msbBits glyphPad bmOff m = [] ∨
      (glyphWidth m ≠ 0 ∧ glyphHeight m ≠ 0 ∧
        (repacked data msbBits glyphPad bmOff m).length = rowBytes m * glyphHeight m) := by
  rw [repacked]
  split
  · exact .inl rfl
  · next hemp =>
    obtain ⟨hw, hh⟩ := not_or.mp hemp
    rw [length_map, length_range]
    exact .inr ⟨hw, hh, rfl⟩

theorem getElem_bitmapsOf {off i : Nat} {metrics : List PcfMetric} (hm : i < metrics.length)
    (hb : i < (bitmapsOf data off metrics).length) :
    (bitmapsOf data off metrics)[i] =
      repacked data (msbBitsAt data off) (glyphPadAt data off) (bitmapStart data off i) metrics[i] := by
  simp only [bitmapsOf, getElem_map, getElem_range]
  rw [bitmapOf, if_neg (Nat.not_le_of_lt hm), getD_eq_getElem?_getD, List.getElem?_eq_getElem hm,
    Option.getD_some]

theorem length_bitmapsOf (data : Bytes) (off : Nat) (metrics : List PcfMetric) :
    (bitmapsOf data off metrics).length = bitmapCount data off := by
  rw [bitmapsOf, length_map, length_range]

theorem allSized_bitmapsOf (data : Bytes) (off : Nat) (metrics : List PcfMetric) :
    AllSized metrics (bitmapsOf data off metrics) := by
  intro i hm hb
  rw [getElem_bitmapsOf hm hb]
  exact (length_repacked _ _ _ _ _).imp id fun h => h.2.2

theorem allFit_bitmapsOf {off : Nat} {metrics : List PcfMetric} (hzero : ok 0)
    (hfits : ∀ i < bitmapCount data off, ∀ h : i < metrics.length, GlyphFits ok metrics[i]) :
    AllFit ok metrics (bitmapsOf data off metrics) := by
  intro i hm hb
  have hgl := hfits i (by rwa [length_bitmapsOf] at hb) hm
  refine ⟨hgl, ?_⟩
  rw [getElem_bitmapsOf hm hb]
  obtain hemp | ⟨hw, hh, hlen⟩ := length_repacked data (msbBitsAt data off) (glyphPadAt data off)
    (bitmapStart data off i) metrics[i]
  · rw [hemp]
    exact hzero
  · rw [hlen]
    exact hgl.room hw hh

/-- A constant multiple of the length of the file, and 65536 entries. -/
def Allowed (c : Nat) (data : Bytes) (n : Nat) : Prop := n ≤ c * data.length + 65536

/-- The parser runs without a fault, asks for no more memory than it is allowed, and any font
that it returns has its entries and pixels. -/
structure Survives (c : Nat) (data : Bytes) (path : String) : Prop where
  within : Within (Allowed c data) (parsePcfData data path)
  sized : ∀ font, (parsePcfData data path).value = some font → FontSized font

def fileTable (data : Bytes) (tableType : UInt32) (size : Nat) : Option Nat :=
  if HasTables data then tableOffset data (tablesOf data) tableType size else none

/-- The glyphs that the file declares fit, and its codes are not all there are. -/
structure FileFits (c : Nat) (data : Bytes) : Prop where
  bitmaps : ∀ m b, fileTable data pcfMetrics 4 = some m → fileTable data pcfBitmaps 4 = some b →
    Allowed c data (bitmapCount data b) ∧
      ∀ i < bitmapCount data b, ∀ h : i < (metricsOf data m).length, GlyphFits (Allowed c data) (metricsOf data m)[i]
  codes : ∀ m b e, fileTable data pcfMetrics 4 = some m → fileTable data pcfBitmaps 4 = some b →
    fileTable data pcfBdfEncodings 14 = some e →
      ¬((codeRangeOf data e).minByte2 = 0 ∧ (codeRangeOf data e).maxChar = 65535)

theorem within_parseFont (hok : ∀ n ≤ data.length, ok n) (hok' : ∀ n ≤ 65536, ok n) :
    Within ok (parseFont data path tables) ↔
      (∀ m b, tableOffset data tables pcfMetrics 4 = some m → tableOffset data tables pcfBitmaps 4 = some b →
        ok (bitmapCount data b) ∧
          ∀ i < bitmapCount data b, ∀ h : i < (metricsOf data m).length, GlyphFits ok (metricsOf data m)[i]) ∧
      ∀ m b e, tableOffset data tables pcfMetrics 4 = some m → tableOffset data tables pcfBitmaps 4 = some b →
        tableOffset data tables pcfBdfEncodings 14 = some e →
          ¬((codeRangeOf data e).minByte2 = 0 ∧ (codeRangeOf data e).maxChar = 65535) := by
  rw [parseFont, within_bind, within_parseTables hok hok', value_parseTables, tablesParsed]
  refine and_congr_right fun hfits => ?_
  cases hm : tableOffset data tables pcfMetrics 4 with
  | none => exact iff_of_true (within_pure _) fun _ _ _ h => by cases h
  | some m =>
    cases hb : tableOffset data tables pcfBitmaps 4 with
    | none => exact iff_of_true (within_pure _) fun _ _ _ _ h => by cases h
    | some b =>
      cases he : tableOffset data tables pcfBdfEncodings 14 with
      | none => exact iff_of_true (within_pure _) fun _ _ _ _ _ h => by cases h
      | some e =>
        have hfit : AllFit ok (metricsOf data m) (bitmapsOf data b (metricsOf data m)) :=
          allFit_bitmapsOf (hok 0 (Nat.zero_le _)) (hfits m b hm hb).2
        have hassemble : Within ok (assembleFont data path tables (metricsOf data m) (bitmapsOf data b (metricsOf data m))
            (codeRangeOf data e).minByte2 (codeRangeOf data e).maxChar (encodingsOf data e)) ↔ _ :=
          within_assembleFont hok hok' hfit
        constructor
        · rintro h _ _ _ ⟨⟩ ⟨⟩ ⟨⟩
          exact hassemble.mp (within_bind.mp h).1
        · exact fun h => within_bind.mpr ⟨hassemble.mpr (h m b e rfl rfl rfl), within_pure _⟩

theorem sized_parseFont {font : BitmapFont}
    (hcodes : ∀ m b e, tableOffset data tables pcfMetrics 4 = some m → tableOffset data tables pcfBitmaps 4 = some b →
      tableOffset data tables pcfBdfEncodings 14 = some e →
        ¬((codeRangeOf data e).minByte2 = 0 ∧ (codeRangeOf data e).maxChar = 65535))
    (hfont : (parseFont data path tables).value = some font) : FontSized font := by
  rw [parseFont, value_bind, value_parseTables, tablesParsed] at hfont
  cases hm : tableOffset data tables pcfMetrics 4 with
  | none => rw [hm] at hfont; cases hfont
  | some m =>
    cases hb : tableOffset data tables pcfBitmaps 4 with
    | none => rw [hm, hb] at hfont; cases hfont
    | some b =>
      cases he : tableOffset data tables pcfBdfEncodings 14 with
      | none => rw [hm, hb, he] at hfont; cases hfont
      | some e =>
        rw [hm, hb, he] at hfont
        obtain rfl := Option.some.inj hfont
        exact sized_assembleFont (allSized_bitmapsOf _ _ _) (hcodes m b e hm hb he)

theorem parser_survives_iff (hc : 0 < c) : Survives c data path ↔ FileFits c data := by
  have hok : ∀ n ≤ data.length, Allowed c data n := fun n hn =>
    (hn.trans (Nat.le_mul_of_pos_left _ hc)).trans (Nat.le_add_right _ _)
  have hok' : ∀ n ≤ 65536, Allowed c data n := fun n hn => hn.trans (Nat.le_add_left _ _)
  by_cases htables : HasTables data
  · have hwithin : Within (Allowed c data) (parsePcfData data path) ↔ _ := within_parsePcfData hok
    rw [imp_iff_right htables, within_parseFont hok hok'] at hwithin
    constructor
    · intro h
      obtain ⟨hbms, hcodes⟩ := hwithin.mp h.within
      exact ⟨by simpa only [fileTable, if_pos htables] using hbms,
        by simpa only [fileTable, if_pos htables] using hcodes⟩
    · intro ⟨hbms, hcodes⟩
      simp only [fileTable, if_pos htables] at hbms hcodes
      refine ⟨hwithin.mpr ⟨hbms, hcodes⟩, fun font hfont => ?_⟩
      rw [value_parsePcfData, if_pos htables] at hfont
      exact sized_parseFont hcodes hfont
  · have hnone (tableType : UInt32) (size : Nat) : fileTable data tableType size = none := if_neg htables
    refine iff_of_true ⟨(within_parsePcfData hok).mpr fun h => absurd h htables, fun font hfont => ?_⟩
      ⟨fun m b hm => ?_, fun m b e hm => ?_⟩
    · rw [value_parsePcfData, if_neg htables] at hfont
      cases hfont
    · rw [hnone] at hm
      cases hm
    · rw [hnone] at hm
      cases hm

/-- A file with the metrics, the bitmap and the encoding of one glyph with these bearings. -/
def glyphFile (bearings : Bytes) : Bytes :=
  [1, 102, 99, 112, 3, 0, 0, 0] ++ [4, 0, 0, 0, 0, 0, 0, 0, 20, 0, 0, 0, 56, 0, 0, 0] ++
    [8, 0, 0, 0, 0, 0, 0, 0, 32, 0, 0, 0, 76, 0, 0, 0] ++ [32, 0, 0, 0, 0, 0, 0, 0, 16, 0, 0, 0, 108, 0, 0, 0] ++
    [0, 0, 0, 0, 1, 0, 0, 0] ++ bearings ++ [0, 0, 1, 0, 0, 0, 0, 0] ++
    [0, 0, 0, 0, 1, 0, 0, 0, 0, 0, 0, 0] ++ List.replicate 16 0 ++ [1, 0, 0, 0] ++
    [0, 0, 0, 0, 65, 0, 65, 0, 0, 0, 0, 0, 65, 0, 0, 0]

theorem glyphFile_survives : Survives 1 (glyphFile [0, 0, 1, 0]) "glyph.pcf" := by
  have hm : fileTable (glyphFile [0, 0, 1, 0]) pcfMetrics 4 = some 56 := by decide +kernel
  have hb : fileTable (glyphFile [0, 0, 1, 0]) pcfBitmaps 4 = some 76 := by decide +kernel
  have he : fileTable (glyphFile [0, 0, 1, 0]) pcfBdfEncodings 14 = some 108 := by decide +kernel
  have hcnt : bitmapCount (glyphFile [0, 0, 1, 0]) 76 = 1 := by decide +kernel
  refine (parser_survives_iff (by decide)).mpr ⟨fun m b hm' hb' => ?_, fun m b e _ _ he' => ?_⟩
  · cases hm.symm.trans hm'
    cases hb.symm.trans hb'
    have hone : metricsOf (glyphFile [0, 0, 1, 0]) 56 = [⟨0, 1, 0, 1, 0, 0⟩] := by decide +kernel
    have hfits : GlyphFits (Allowed 1 (glyphFile [0, 0, 1, 0])) ⟨0, 1, 0, 1, 0, 0⟩ :=
      ⟨by decide, by decide, fun _ _ => by unfold Allowed; decide +kernel⟩
    refine ⟨by rw [hcnt]; exact Nat.le_add_left _ _, fun i hi h => ?_⟩
    obtain rfl : i = 0 := by omega
    simpa only [hone, getElem_cons_zero] using hfits
  · cases he.symm.trans he'
    decide +kernel

/-- The lowest and the highest bearing there are. -/
def widestFile : Bytes := glyphFile [0, 128, 255, 127]

/-- Its width is a difference of 65535. -/
theorem widestFile_overflows : ¬∃ c, ∀ data path, Survives c data path := by
  rintro ⟨c, h⟩
  have hwithin : Within (fun _ => True) (parsePcfData widestFile "widest.pcf") :=
    (h widestFile "widest.pcf").within.mono fun _ _ => trivial
  have hfont := (within_parsePcfData fun _ _ => trivial).mp hwithin (by decide +kernel)
  have hfits := ((within_parseFont (fun _ _ => trivial) fun _ _ => trivial).mp hfont).1 56 76 (by decide +kernel)
    (by decide +kernel)
  have hwd := (hfits.2 0 (by decide +kernel) (by decide +kernel)).width
  exact absurd hwd (by decide +kernel)

end Safety

end X11Web.PcfParsing
