import SketchPreview.Canvas.Rect
import SketchPreview.Font.Bitmap
import SketchPreview.Font.Builtin

/-!
# Drawing text

A character is drawn as squares, one for each of its dots.

* `rowDots`, `Glyph.dots`, `Builtin.dots`: the places of a character's dots;
* `Canvas.drawDots`: squares at the places of dots;
* `Canvas.drawText`: a text in a bitmap font, from a pen on the baseline;
* `Canvas.drawBuiltinText`: a text in the built-in font, from its upper left corner.
-/

namespace SketchPreview

/-- The columns of the dots of a row. -/
def rowDots (row : List Bool) : List Nat :=
  row.zipIdx.filterMap fun p => if p.1 then some p.2 else none

/-- Column and row of each dot of a glyph. -/
def Glyph.dots (g : Glyph) : List (Nat × Nat) :=
  g.rows.zipIdx.flatMap fun p => (rowDots p.1).map fun x => (x, p.2)

/-- Column and row of each dot of a character of the built-in font. -/
def Builtin.dots (columns : List Nat) : List (Nat × Nat) :=
  columns.zipIdx.flatMap fun p =>
    ((List.range Builtin.cellHeight).filter p.1.testBit).map fun y => (p.2, y)

namespace Canvas

/-- Squares of a side, one for each dot, from an upper left corner on. -/
def drawDots (c : Canvas) (left top side : Int) (dots : List (Nat × Nat)) (value : UInt8) :
    Canvas :=
  dots.foldl (fun c p =>
    c.fillRect (add64 left (mul64 p.1 side)) (add64 top (mul64 p.2 side)) side side value) c

/-- A glyph at a pen position, in display pixels. -/
def drawGlyph (c : Canvas) (g : Glyph) (baseline pen y scale : Int) (value : UInt8) : Canvas :=
  c.drawDots (mul64 (pen + g.xOffset.toInt) scale) (mul64 (y - baseline - g.yOffset.toInt) scale)
    scale g.dots value

/-- A text in a bitmap font from a pen position on, and the pen position behind it. The pen is not
held to 64 bits, which it does not leave before it has passed `2 ^ 32 - 1` characters. -/
def drawText (c : Canvas) (f : BitmapFont) (pen y scale : Int) (value : UInt8) :
    List Char → Canvas × Int
  | [] => (c, pen)
  | ch :: rest =>
    let c := match f.glyph? ch with
      | some g => c.drawGlyph g f.baseline pen y scale value
      | none => c
    c.drawText f (pen + f.advance ch) y scale value rest

/-- A text in the built-in font. The character with index `i` stands in the `i`-th cell. -/
def drawBuiltinText (c : Canvas) (left top dot : Int) (value : UInt8) (i : Nat) :
    List Char → Canvas
  | [] => c
  | ch :: rest =>
    let c := match Builtin.columns? ch with
      | some columns =>
        c.drawDots (add64 left (mul64 (i * Builtin.cellWidth : Nat) dot)) top dot
          (Builtin.dots columns) value
      | none => c
    c.drawBuiltinText left top dot value (i + 1) rest

end Canvas

end SketchPreview
