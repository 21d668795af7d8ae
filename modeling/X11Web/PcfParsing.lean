import X11Web.CheckedRuns
import X11Web.ClientFonts
import X11Web.Windows

namespace X11Web.PcfParsing

open BitmapFonts CheckedRuns ClientFonts HashMaps Windows

def pcfMagic : UInt32 := 0x70636601

def pcfProperties : UInt32 := (1 : UInt32) <<< 0
def pcfAccelerators : UInt32 := (1 : UInt32) <<< 1
def pcfMetrics : UInt32 := (1 : UInt32) <<< 2
def pcfBitmaps : UInt32 := (1 : UInt32) <<< 3
def pcfBdfEncodings : UInt32 := (1 : UInt32) <<< 5
def pcfBdfAccelerators : UInt32 := (1 : UInt32) <<< 8

def pcfCompressedMetrics : UInt32 := 0x00000100
def pcfByteMask : UInt32 := (1 : UInt32) <<< 2
def pcfBitMask : UInt32 := (1 : UInt32) <<< 3
def pcfGlyphPadMask : UInt32 := 3

def slice (data : Bytes) (start stop : Nat) : Checked Bytes :=
  checked ((data.take stop).drop start) (start ≤ stop ∧ stop ≤ data.length) .outOfBounds

def pcfReadU32 (data : Bytes) (offset : Nat) (msb : Bool) : Checked UInt32 := do
  let stop ← usize (offset + 4)
  return if stop ≤ data.length then UInt32.ofNat (readU32 msb data offset) else 0

def pcfReadU16 (data : Bytes) (offset : Nat) (msb : Bool) : Checked UInt16 := do
  let stop ← usize (offset + 2)
  return if stop ≤ data.length then UInt16.ofNat (readU16 msb data offset) else 0

structure PcfReader where
  data : Bytes
  pos : Nat
  msb : Bool

namespace PcfReader

def readU32 (r : PcfReader) : Checked (UInt32 × PcfReader) := do
  let v ← pcfReadU32 r.data r.pos r.msb
  return (v, { r with pos := ← usize (r.pos + 4) })

def readU16 (r : PcfReader) : Checked (UInt16 × PcfReader) := do
  let v ← pcfReadU16 r.data r.pos r.msb
  return (v, { r with pos := ← usize (r.pos + 2) })

def readI16 (r : PcfReader) : Checked (Int16 × PcfReader) := do
  let (v, r) ← r.readU16
  return (v.toInt16, r)

def readU8 (r : PcfReader) : Checked (UInt8 × PcfReader) := do
  let v := r.data.getD r.pos 0
  return (v, { r with pos := ← usize (r.pos + 1) })

/-- A byte is a metric and 128. -/
def readCompressedMetric (r : PcfReader) : Checked (Int16 × PcfReader) := do
  let (v, r) ← r.readU8
  return (← subI16 v.toUInt16.toInt16 0x80, r)

def remaining (r : PcfReader) : Nat := r.data.length - r.pos

end PcfReader

def readMany {α : Type} (read : PcfReader → Checked (α × PcfReader)) :
    Nat → PcfReader → Checked (List α × PcfReader)
  | 0, r => return ([], r)
  | n + 1, r => do
    let (a, r) ← read r
    let (as, r) ← readMany read n r
    return (a :: as, r)

/-- So many readings of `size` bytes, or as many as there are. -/
def readAvailable {α : Type} (size : Nat) (read : PcfReader → Checked (α × PcfReader)) :
    Nat → PcfReader → Checked (List α)
  | 0, _ => return []
  | n + 1, r =>
    if r.remaining < size then return []
    else do
      let (a, r) ← read r
      return a :: (← readAvailable size read n r)

structure PcfTable where
  tableType : UInt32
  offset : UInt32

def readTable (r : PcfReader) : Checked (PcfTable × PcfReader) := do
  let (tableType, r) ← r.readU32
  let (_, r) ← r.readU32
  let (_, r) ← r.readU32
  let (offset, r) ← r.readU32
  return (⟨tableType, offset⟩, r)

instance : Inhabited CharInfo := ⟨⟨0, 0, 0, 0, 0, 0⟩⟩

/-- The metrics of a glyph, which have the fields of a `CharInfo`. -/
abbrev PcfMetric := CharInfo

def readCompressedPcfMetric (r : PcfReader) : Checked (PcfMetric × PcfReader) := do
  let (leftSideBearing, r) ← r.readCompressedMetric
  let (rightSideBearing, r) ← r.readCompressedMetric
  let (characterWidth, r) ← r.readCompressedMetric
  let (ascent, r) ← r.readCompressedMetric
  let (descent, r) ← r.readCompressedMetric
  return (⟨leftSideBearing, rightSideBearing, characterWidth, ascent, descent, 0⟩, r)

def readPcfMetric (r : PcfReader) : Checked (PcfMetric × PcfReader) := do
  let (leftSideBearing, r) ← r.readI16
  let (rightSideBearing, r) ← r.readI16
  let (characterWidth, r) ← r.readI16
  let (ascent, r) ← r.readI16
  let (descent, r) ← r.readI16
  let (attributes, r) ← r.readU16
  return (⟨leftSideBearing, rightSideBearing, characterWidth, ascent, descent, attributes⟩, r)

def readPcfMetrics (compressed : Bool) (r : PcfReader) : Checked (List PcfMetric) :=
  if compressed then do
    let (count, r) ← r.readU16
    readAvailable 5 readCompressedPcfMetric count.toNat r
  else do
    let (count, r) ← r.readU32
    readAvailable 12 readPcfMetric count.toNat r

def parsePcfMetrics (data : Bytes) (table : PcfTable) : Checked (Option (List PcfMetric)) := do
  let off := table.offset.toNat
  if data.length < (← usize (off + 4)) then return none
  else do
    let format ← pcfReadU32 data off false
    let msb := decide (format &&& pcfByteMask ≠ 0)
    let r : PcfReader := ⟨data, ← usize (off + 4), msb⟩
    let metrics ← readPcfMetrics (format &&& pcfCompressedMetrics ≠ 0) r
    alloc metrics.length
    return some metrics

def reverseBits (byte : UInt8) : UInt8 := ⟨byte.toBitVec.reverse⟩

def divCeil (n d : Nat) : Nat := (n + d - 1) / d

def atLeastZero (n : Int16) : Nat := n.toInt.toNat

def copyByte (data : Bytes) (msbBits : Bool) (srcStart dstStart : Nat) (bitmap : Bytes) (b : Nat) : Checked Bytes := do
  let srcIdx ← usize (srcStart + b)
  if srcIdx < data.length then do
    let byte ← index data srcIdx
    let byte := if msbBits then byte else reverseBits byte
    store bitmap (← usize (dstStart + b)) byte
  else return bitmap

def copyRow (data : Bytes) (msbBits : Bool) (bmOff pcfRowBytes dstRowBytes : Nat) (bitmap : Bytes) (row : Nat) :
    Checked Bytes := do
  let srcStart ← usize (bmOff + (← usize (row * pcfRowBytes)))
  let dstStart ← usize (row * dstRowBytes)
  (List.range dstRowBytes).foldlM (copyByte data msbBits srcStart dstStart) bitmap

/-- The rows of a glyph without their padding to `glyphPad` bytes. -/
def repack (data : Bytes) (msbBits : Bool) (glyphPad bmOff : Nat) (m : PcfMetric) : Checked Bytes := do
  let w := atLeastZero (← subI16 m.rightSideBearing m.leftSideBearing)
  let h := atLeastZero (← addI16 m.ascent m.descent)
  if w = 0 ∨ h = 0 then return []
  else do
    let pcfRowBytes ← usize (divCeil (divCeil w 8) glyphPad * glyphPad)
    let dstRowBytes := divCeil w 8
    let size ← usize (dstRowBytes * h)
    alloc size
    (List.range h).foldlM (copyRow data msbBits bmOff pcfRowBytes dstRowBytes) (List.replicate size 0)

/-- The bitmap of one glyph, which is empty without metrics. -/
def extractBitmap (data : Bytes) (msbBits : Bool) (glyphPad bitmapDataStart : Nat) (offsets : List UInt32)
    (metrics : List PcfMetric) (i : Nat) : Checked Bytes := do
  let bmOff ← usize (bitmapDataStart + (← index offsets i).toNat)
  if metrics.length ≤ i then return []
  else do
    let m ← index metrics i
    repack data msbBits glyphPad bmOff m

def readPcfBitmaps (msbBits : Bool) (glyphPad : Nat) (metrics : List PcfMetric) (r : PcfReader) :
    Checked (List Bytes) := do
  let (count, r) ← r.readU32
  alloc count.toNat
  let (offsets, r) ← readMany PcfReader.readU32 count.toNat r
  let (_, r) ← readMany PcfReader.readU32 4 r
  let bitmapDataStart := r.pos
  alloc count.toNat
  (List.range count.toNat).mapM (extractBitmap r.data msbBits glyphPad bitmapDataStart offsets metrics)

def parsePcfBitmaps (data : Bytes) (table : PcfTable) (metrics : List PcfMetric) : Checked (Option (List Bytes)) := do
  let off := table.offset.toNat
  if data.length < (← usize (off + 4)) then return none
  else do
    let format ← pcfReadU32 data off false
    let msb := decide (format &&& pcfByteMask ≠ 0)
    let msbBits := decide (format &&& pcfBitMask ≠ 0)
    let glyphPad := 2 ^ (format &&& pcfGlyphPadMask).toNat
    return some (← readPcfBitmaps msbBits glyphPad metrics ⟨data, ← usize (off + 4), msb⟩)

/-- `lo..=hi`. -/
def u16Range (lo hi : UInt16) : List UInt16 :=
  (List.range (hi.toNat + 1 - lo.toNat)).map fun i => UInt16.ofNat (lo.toNat + i)

def readEncoding (singleByte : Bool) (b1 : UInt16) (state : HashMap UInt16 Nat × PcfReader) (b2 : UInt16) :
    Checked (HashMap UInt16 Nat × PcfReader) :=
  let (encodingMap, r) := state
  if r.remaining < 2 then return (encodingMap, r)
  else do
    let (glyphIdx, r) ← r.readU16
    if glyphIdx ≠ 0xFFFF then
      let encoding := if singleByte then b2 else (b1 <<< 8) ||| b2
      return (encodingMap.insert encoding glyphIdx.toNat, r)
    else return (encodingMap, r)

/-- The first and last code, and the glyphs of those that have one, of a table after its
format. -/
def readPcfEncodings (r : PcfReader) : Checked (UInt16 × UInt16 × HashMap UInt16 Nat) := do
  let (minByte2, r) ← r.readU16
  let (maxByte2, r) ← r.readU16
  let (minByte1, r) ← r.readU16
  let (maxByte1, r) ← r.readU16
  let (_, r) ← r.readU16
  let singleByte := decide (minByte1 = 0 ∧ maxByte1 = 0)
  -- Where there is nothing left to read, the rest of the row changes nothing.
  let (encodingMap, _) ← (u16Range minByte1 maxByte1).foldlM
    (fun state b1 => (u16Range minByte2 maxByte2).foldlM (readEncoding singleByte b1) state)
    ((∅ : HashMap UInt16 Nat), r)
  alloc encodingMap.keys.card
  let maxChar := if singleByte then maxByte2 else (maxByte1 <<< 8) ||| maxByte2
  return (minByte2, maxChar, encodingMap)

def parsePcfEncodings (data : Bytes) (table : PcfTable) :
    Checked (Option (UInt16 × UInt16 × HashMap UInt16 Nat)) := do
  let off := table.offset.toNat
  if data.length < (← usize (off + 14)) then return none
  else do
    let format ← pcfReadU32 data off false
    let msb := decide (format &&& pcfByteMask ≠ 0)
    return some (← readPcfEncodings ⟨data, ← usize (off + 4), msb⟩)

def textBytes (strings : Bytes) (offset : Nat) : Checked Bytes := do
  let rest ← slice strings offset strings.length
  let length := rest.findIdx (· = 0)
  slice strings offset (← usize (offset + length))

def fromUtf8 (bytes : Bytes) : Option String := String.fromUTF8? ⟨bytes.toArray⟩

/-- The value of the first property among those that is a string with the name `FONT`. -/
def findFontName (data : Bytes) (msb : Bool) (propsStart : Nat) (strings : Bytes) : List Nat → Checked (Option String)
  | [] => return none
  | i :: is => do
    let poff ← usize (propsStart + (← usize (i * 9)))
    if data.length < (← usize (poff + 9)) then return none
    else do
      let nameOffset := (← pcfReadU32 data poff msb).toNat
      let isString ← index data (← usize (poff + 4))
      let valOffset := (← pcfReadU32 data (← usize (poff + 5)) msb).toNat
      if nameOffset < strings.length then do
        match fromUtf8 (← textBytes strings nameOffset) with
        | none => return none
        | some name =>
          if name = "FONT" ∧ isString ≠ 0 ∧ valOffset < strings.length then do
            let value ← textBytes strings valOffset
            alloc value.length
            return fromUtf8 value
          else findFontName data msb propsStart strings is
      else findFontName data msb propsStart strings is

/-- The properties and, aligned to four bytes, their strings. -/
def readFontName (data : Bytes) (msb : Bool) (off numProps : Nat) : Checked (Option String) := do
  let propsStart ← usize (off + 8)
  let stringsStart ← usize (propsStart + (← usize (numProps * 9)))
  let stringsStart := (← usize (stringsStart + 3)) / 4 * 4
  if data.length < (← usize (stringsStart + 4)) then return none
  else do
    let stringSize := (← pcfReadU32 data stringsStart msb).toNat
    let stringDataStart ← usize (stringsStart + 4)
    if data.length < (← usize (stringDataStart + stringSize)) then return none
    else do
      let strings ← slice data stringDataStart (stringDataStart + stringSize)
      findFontName data msb propsStart strings (List.range numProps)

def parsePcfPropertiesFontName (data : Bytes) (table : PcfTable) : Checked (Option String) := do
  let off := table.offset.toNat
  if data.length < (← usize (off + 8)) then return none
  else do
    let format ← pcfReadU32 data off false
    let msb := decide (format &&& pcfByteMask ≠ 0)
    let numProps := (← pcfReadU32 data (← usize (off + 4)) msb).toNat
    if 10000 < numProps then return none
    else readFontName data msb off numProps

def parsePcfAccelerators (data : Bytes) (table : PcfTable) : Checked (Int16 × Int16) := do
  let off := table.offset.toNat
  if data.length < (← usize (off + 4)) then return (10, 3)
  else do
    let format ← pcfReadU32 data off false
    let msb := decide (format &&& pcfByteMask ≠ 0)
    let ascentOff ← usize (off + 12)
    let descentOff ← usize (off + 16)
    if data.length < (← usize (descentOff + 4)) then return (10, 3)
    else do
      let fontAscent ← pcfReadU32 data ascentOff msb
      let fontDescent ← pcfReadU32 data descentOff msb
      return (fontAscent.toInt32.toInt16, fontDescent.toInt32.toInt16)

def emptyGlyph : GlyphBitmap := ⟨0, 0, []⟩

/-- Bounds with one more character, by `min` or by `max`. -/
def widen (pick : Int16 → Int16 → Int16) (bounds ci : CharInfo) : CharInfo where
  leftSideBearing := pick bounds.leftSideBearing ci.leftSideBearing
  rightSideBearing := pick bounds.rightSideBearing ci.rightSideBearing
  characterWidth := pick bounds.characterWidth ci.characterWidth
  ascent := pick bounds.ascent ci.ascent
  descent := pick bounds.descent ci.descent
  attributes := bounds.attributes

structure Assembly where
  charInfos : List CharInfo
  glyphs : List GlyphBitmap
  minBounds : CharInfo
  maxBounds : CharInfo

def emptyAssembly (count : Nat) : Assembly where
  charInfos := List.replicate count default
  glyphs := List.replicate count emptyGlyph
  minBounds := ⟨Int16.maxValue, Int16.maxValue, Int16.maxValue, Int16.maxValue, Int16.maxValue, 0⟩
  maxBounds := default

def storeInfo (charInfos : List CharInfo) (idx : Nat) (m : PcfMetric) : Checked (List CharInfo) :=
  if idx < charInfos.length then store charInfos idx m else return charInfos

def storeGlyph (bitmaps : List Bytes) (glyphs : List GlyphBitmap) (glyphIdx idx : Nat) (m : PcfMetric) :
    Checked (List GlyphBitmap) :=
  if glyphIdx < bitmaps.length ∧ idx < glyphs.length then do
    let w := UInt16.ofNat (atLeastZero (← subI16 m.rightSideBearing m.leftSideBearing))
    let h := UInt16.ofNat (atLeastZero (← addI16 m.ascent m.descent))
    let bitmap ← index bitmaps glyphIdx
    alloc bitmap.length
    store glyphs idx ⟨w, h, bitmap⟩
  else return glyphs

def assemble (metrics : List PcfMetric) (bitmaps : List Bytes) (encodingMap : HashMap UInt16 Nat) (minChar : UInt16)
    (state : Assembly) (encoding : UInt16) : Checked Assembly := do
  let idx := (← subU16 encoding minChar).toNat
  match encodingMap.lookup encoding with
  | none => return state
  | some glyphIdx =>
    if metrics.length ≤ glyphIdx then return state
    else do
      let m ← index metrics glyphIdx
      let charInfos ← storeInfo state.charInfos idx m
      let glyphs ← storeGlyph bitmaps state.glyphs glyphIdx idx m
      return ⟨charInfos, glyphs, widen min state.minBounds m, widen max state.maxBounds m⟩

def findTable (tables : List PcfTable) (tableType : UInt32) : Option PcfTable :=
  tables.find? fun t => t.tableType = tableType

/-- The ascent and descent of the accelerator tables, or else of the metrics. -/
def fontExtents (data : Bytes) (tables : List PcfTable) (metrics : List PcfMetric) : Checked (Int16 × Int16) :=
  match (findTable tables pcfBdfAccelerators).or (findTable tables pcfAccelerators) with
  | some table => parsePcfAccelerators data table
  | none => return (metrics.foldl (fun n m => max n m.ascent) 0, metrics.foldl (fun n m => max n m.descent) 0)

def fontName (data : Bytes) (tables : List PcfTable) : Checked (Option String) :=
  match findTable tables pcfProperties with
  | some table => parsePcfPropertiesFontName data table
  | none => return none

def numChars (minChar maxChar : UInt16) : Checked Nat :=
  if minChar ≤ maxChar then do
    let span ← addU16 (← subU16 maxChar minChar) 1
    return span.toNat
  else return 0

def assembleFont (data : Bytes) (path : String) (tables : List PcfTable) (metrics : List PcfMetric)
    (bitmaps : List Bytes) (minChar maxChar : UInt16) (encodingMap : HashMap UInt16 Nat) : Checked BitmapFont := do
  let name ← fontName data tables
  let (fontAscent, fontDescent) ← fontExtents data tables metrics
  let count ← numChars minChar maxChar
  alloc count
  alloc count
  let font ← (u16Range minChar maxChar).foldlM (assemble metrics bitmaps encodingMap minChar) (emptyAssembly count)
  return ⟨name.getD (fileStem path), font.minBounds, font.maxBounds, minChar, maxChar, 32, fontAscent, fontDescent,
    font.charInfos, font.glyphs, none, 0⟩

/-- The metrics and bitmaps, with the encodings of a file. -/
def parseEncodings (data : Bytes) (tables : List PcfTable) (metrics : List PcfMetric) (bitmaps : List Bytes) :
    Checked (Option (List PcfMetric × List Bytes × UInt16 × UInt16 × HashMap UInt16 Nat)) :=
  match findTable tables pcfBdfEncodings with
  | none => return none
  | some encodingsTable => do
    match ← parsePcfEncodings data encodingsTable with
    | none => return none
    | some (minChar, maxChar, encodingMap) => return some (metrics, bitmaps, minChar, maxChar, encodingMap)

/-- The metrics, the bitmaps and the encodings of a file. -/
def parseTables (data : Bytes) (tables : List PcfTable) :
    Checked (Option (List PcfMetric × List Bytes × UInt16 × UInt16 × HashMap UInt16 Nat)) := do
  match findTable tables pcfMetrics with
  | none => return none
  | some metricsTable =>
    match ← parsePcfMetrics data metricsTable with
    | none => return none
    | some metrics =>
      match findTable tables pcfBitmaps with
      | none => return none
      | some bitmapsTable =>
        match ← parsePcfBitmaps data bitmapsTable metrics with
        | none => return none
        | some bitmaps => parseEncodings data tables metrics bitmaps

def parseFont (data : Bytes) (path : String) (tables : List PcfTable) : Checked (Option BitmapFont) := do
  match ← parseTables data tables with
  | none => return none
  | some (metrics, bitmaps, minChar, maxChar, encodingMap) =>
    return some (← assembleFont data path tables metrics bitmaps minChar maxChar encodingMap)

def leWord (data : Bytes) (offset : Nat) : Checked Nat := do
  return readU32 false [← index data offset, ← index data (offset + 1), ← index data (offset + 2),
    ← index data (offset + 3)] 0

def parsePcfData (data : Bytes) (path : String) : Checked (Option BitmapFont) := do
  if data.length < 8 then return none
  else do
    let magic ← leWord data 0
    if magic ≠ pcfMagic.toNat then return none
    else do
      let tableCount ← leWord data 4
      if data.length < (← usize (8 + (← usize (tableCount * 16)))) then return none
      else do
        alloc tableCount
        let tables ← readMany readTable tableCount ⟨data, 8, false⟩
        parseFont data path tables.1

end X11Web.PcfParsing
