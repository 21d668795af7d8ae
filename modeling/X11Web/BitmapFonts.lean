import X11Web.Protocol

namespace X11Web.BitmapFonts

open Protocol (Bytes)

structure CharInfo where
  leftSideBearing : Int16
  rightSideBearing : Int16
  characterWidth : Int16
  ascent : Int16
  descent : Int16
  attributes : UInt16
deriving DecidableEq

/-- The rows of a glyph, eight pixels a byte with the leftmost first. -/
structure GlyphBitmap where
  width : UInt16
  height : UInt16
  bitmap : Bytes
deriving DecidableEq

namespace GlyphBits

def rowBytes (width : Nat) : Nat := (width + 8 - 1) / 8

def get (bmp : Bytes) (row col rowBytes : Nat) : Bool :=
  let idx := row * rowBytes + col / 8
  decide (idx < bmp.length ∧ bmp.getD idx 0 >>> UInt8.ofNat (7 - col % 8) &&& 1 ≠ 0)

end GlyphBits

structure BitmapFont where
  name : String
  minBounds : CharInfo
  maxBounds : CharInfo
  minChar : UInt16
  maxChar : UInt16
  defaultChar : UInt16
  fontAscent : Int16
  fontDescent : Int16
  charInfos : List CharInfo
  glyphs : List GlyphBitmap
  scalablePath : Option String
  scalablePixelSize : UInt32
deriving DecidableEq

namespace BitmapFont

def entry? {α : Type} (f : BitmapFont) (table : List α) (code : UInt16) : Option α :=
  if f.minChar ≤ code ∧ code ≤ f.maxChar then table[(code - f.minChar).toNat]? else none

def charInfo (f : BitmapFont) (code : UInt16) : CharInfo :=
  match f.entry? f.charInfos code with
  | some ci => ci
  | none =>
    match f.entry? f.charInfos f.defaultChar with
    | some ci => ci
    | none => f.minBounds

def glyph (f : BitmapFont) (code : UInt16) : Option GlyphBitmap := f.entry? f.glyphs code

end BitmapFont

end X11Web.BitmapFonts
