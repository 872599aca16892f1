import SketchPreview.Font.Bitmap
import SketchPreview.Text.Blank
import SketchPreview.Text.Line
import SketchPreview.Text.Find
import SketchPreview.Text.Word

/-!
# Glyph Bitmap Distribution Format

A font file is read line by line. Outside of glyphs, lines set the font's name and metrics; a glyph
runs from its `STARTCHAR` line to the `ENDCHAR` line behind its `BITMAP` line. Reading never fails:
a line that cannot be understood is passed over, and a glyph without a code point is left out.

* `rowBits`: the dots that a hexadecimal row stands for;
* `Header`, `GlyphHeader`: the metrics of a font and of a glyph;
* `Reader`: what has been read so far; `Reader.step`: one more line; `Reader.finish`: the end;
* `parse`: a font from the text of a file.
-/

namespace SketchPreview.Bdf

open Text

/-- The dots of a hexadecimal digit, highest first. -/
def nibbleBits (n : Nat) : List Bool := [n.testBit 3, n.testBit 2, n.testBit 1, n.testBit 0]

/-- The values of the hexadecimal digits in front of a text. -/
def leadingHex : List Char → List Nat
  | [] => []
  | c :: rest =>
    match hexValue? c with
    | some n => n :: leadingHex rest
    | none => []

/-- The first `width` dots of a row. The value of the leading digits stands at the right end of as
many dots as the row has characters for, or `width` when that is more. -/
def rowBits (row : List Char) (width : Nat) : List Bool :=
  let digits := leadingHex row
  let total := max width (4 * row.length)
  (List.replicate (total - 4 * digits.length) false ++ digits.flatMap nibbleBits).take width

/-- The `n`-th word of a line as a 32-bit number. -/
def number? (n : Nat) (line : List Char) : Option Int32 :=
  match (word? n line).bind readInt? with
  | some v => if Fits32 v then some (Int32.ofInt v) else none
  | none => none

/-- The second word of a line as a code point. -/
def codePoint? (line : List Char) : Option UInt32 :=
  match (word? 1 line).bind readInt? with
  | some v => if 0 ≤ v ∧ v < UInt32.size then some (UInt32.ofNat v.toNat) else none
  | none => none

/-- The metrics of a font. -/
structure Header where
  name : String
  ascent : Int32
  descent : Int32
  deriving DecidableEq, Repr

/-- The metrics of a font that declares none. -/
def Header.standard : Header := ⟨"BDF", 8, 0⟩

/-- Takes in a line of the font's header. -/
def Header.read (h : Header) (line : List Char) : Header :=
  match dropPrefix? "FONT ".toList line with
  | some name => { h with name := String.ofList (trim name) }
  | none =>
    if startsWith line "FONT_ASCENT".toList then
      { h with ascent := (number? 1 line).getD h.ascent }
    else if startsWith line "FONT_DESCENT".toList then
      { h with descent := (number? 1 line).getD h.descent }
    else h

/-- The metrics of a glyph. -/
structure GlyphHeader where
  code : Option UInt32
  deviceWidth : Int32
  width : Int32
  height : Int32
  xOffset : Int32
  yOffset : Int32
  deriving DecidableEq, Repr

/-- The metrics of a glyph that declares none. -/
def GlyphHeader.standard : GlyphHeader := ⟨none, 0, 0, 0, 0, 0⟩

/-- Takes in a line of a glyph's header. A bounding box counts only with all its four numbers. -/
def GlyphHeader.read (g : GlyphHeader) (line : List Char) : GlyphHeader :=
  if startsWith line "ENCODING".toList then { g with code := codePoint? line }
  else if startsWith line "DWIDTH".toList then
    { g with deviceWidth := (number? 1 line).getD g.deviceWidth }
  else if startsWith line "BBX".toList then
    match number? 1 line, number? 2 line, number? 3 line, number? 4 line with
    | some w, some h, some x, some y =>
      { g with width := max w 0, height := max h 0, xOffset := x, yOffset := y }
    | _, _, _, _ => g
  else g

/-- The greatest width and height of a glyph. -/
def maxGlyphSide : Int32 := 4096

/-- Takes in a row of a glyph's bitmap. Rows beyond the height are passed over. -/
def GlyphHeader.addRow (g : GlyphHeader) (rows : List (List Bool)) (line : List Char) :
    List (List Bool) :=
  if rows.length < g.height.toInt.toNat ∧ g.width ≤ maxGlyphSide then
    rows ++ [rowBits (trim line) g.width.toInt.toNat]
  else rows

/-- The glyph with the given rows. There is none without a code point or beyond the greatest
side. -/
def GlyphHeader.glyph? (g : GlyphHeader) (rows : List (List Bool)) : Option Glyph :=
  if g.width ≤ maxGlyphSide ∧ g.height ≤ maxGlyphSide then
    g.code.map fun code =>
      { code
        width := g.width
        height := g.height
        xOffset := g.xOffset
        yOffset := g.yOffset
        deviceWidth := if g.deviceWidth = 0 then g.width else g.deviceWidth
        rows }
  else none

/-- Where in a file a line stands. -/
inductive Place where
  | outside
  | header (g : GlyphHeader)
  | bitmap (g : GlyphHeader) (rows : List (List Bool))
  deriving DecidableEq, Repr

/-- What has been read of a file. -/
structure Reader where
  font : Header
  glyphs : SortedMap UInt32 Glyph
  place : Place
  deriving DecidableEq, Repr

/-- Nothing read yet. -/
def Reader.start : Reader := ⟨.standard, .empty, .outside⟩

/-- Ends a glyph. -/
def Reader.close (r : Reader) (g : GlyphHeader) (rows : List (List Bool)) : Reader :=
  match g.glyph? rows with
  | some glyph => { r with glyphs := r.glyphs.insert glyph.code glyph, place := .outside }
  | none => { r with place := .outside }

/-- Takes in a line. -/
def Reader.step (r : Reader) (line : List Char) : Reader :=
  match r.place with
  | .outside =>
    if startsWith line "STARTCHAR".toList then { r with place := .header .standard }
    else { r with font := r.font.read line }
  | .header g =>
    if startsWith line "BITMAP".toList then { r with place := .bitmap g [] }
    else { r with place := .header (g.read line) }
  | .bitmap g rows =>
    if startsWith line "ENDCHAR".toList then r.close g rows
    else { r with place := .bitmap g (g.addRow rows line) }

/-- Ends a glyph that the file leaves open. -/
def Reader.finish (r : Reader) : Reader :=
  match r.place with
  | .outside => r
  | .header g => r.close g []
  | .bitmap g rows => r.close g rows

/-- The distance of lines: ascent and descent, or eight when they cancel out. -/
def Header.lineHeight (h : Header) : Int32 :=
  let sum := nearestInt32 (h.ascent.toInt + h.descent.toInt)
  if sum = 0 then 8 else sum

/-- The font that has been read. -/
def Reader.bitmapFont (r : Reader) : BitmapFont :=
  { name := r.font.name
    ascent := r.font.ascent
    descent := r.font.descent
    lineHeight := r.font.lineHeight
    glyphs := r.glyphs }

/-- The font that lines of a file describe. -/
def parseLines (lines : List (List Char)) : BitmapFont :=
  (lines.foldl Reader.step .start).finish.bitmapFont

/-- The font that a file describes. -/
def parse (text : String) : BitmapFont := parseLines (Text.lines text.toList)

end SketchPreview.Bdf
