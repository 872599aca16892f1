import SketchPreview.Saturating
import SketchPreview.SortedMap

/-!
# Bitmap fonts

A bitmap font maps code points to glyphs. A glyph is a grid of dots with its place relative to the
pen and the distance that the pen moves. A font without a glyph for a character leaves a gap.

* `Glyph`, `Glyph.advance`;
* `BitmapFont`, `BitmapFont.glyph?`, `BitmapFont.baseline`;
* `BitmapFont.advance`, `BitmapFont.measure`: how far a character and a text move the pen;
* `FontMap`, `explicitKey`: the fonts that a sketch can select.
-/

namespace SketchPreview

/-- A picture of one character. The rows run from top to bottom. -/
structure Glyph where
  code : UInt32
  width : Int32
  height : Int32
  xOffset : Int32
  yOffset : Int32
  deviceWidth : Int32
  rows : List (List Bool)
  deriving DecidableEq, Repr, Inhabited

/-- How far a glyph moves the pen: its device width, or its width when that is zero. -/
def Glyph.advance (g : Glyph) : Int32 := if g.deviceWidth = 0 then g.width else g.deviceWidth

/-- A font made of glyphs. -/
structure BitmapFont where
  name : String
  ascent : Int32
  descent : Int32
  lineHeight : Int32
  glyphs : SortedMap UInt32 Glyph
  deriving DecidableEq, Repr, Inhabited

namespace BitmapFont

/-- How far a character without a glyph moves the pen. -/
def missingAdvance : Int := 6

/-- The glyph of a character. -/
def glyph? (f : BitmapFont) (c : Char) : Option Glyph := f.glyphs.get? c.val

/-- The distance of the baseline from the top of a line: the ascent, or seven dots for a font that
declares none. -/
def baseline (f : BitmapFont) : Int := if f.ascent = 0 then 7 else f.ascent.toInt

/-- How far a character moves the pen. -/
def advance (f : BitmapFont) (c : Char) : Int :=
  (f.glyph? c).elim missingAdvance fun g => g.advance.toInt

/-- The width of a text. Every partial sum is held to 32 bits. -/
def measure (f : BitmapFont) (text : List Char) : Int :=
  text.foldl (fun sum c => clamp32 (sum + f.advance c)) 0

end BitmapFont

/-- Fonts under the names by which a sketch selects them. -/
abbrev FontMap := SortedMap String BitmapFont

/-- The name of a font that the user chose to stand for every other one. -/
def explicitKey : String := "__explicit__"

end SketchPreview
