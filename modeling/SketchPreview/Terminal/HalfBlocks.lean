import SketchPreview.Canvas.Basic
import SketchPreview.Terminal.Style

/-!
# Canvases in a terminal

A canvas is shown by half blocks: a character cell shows two pixels, the upper one in the colour of
the glyph and the lower one in the colour behind it. Only every so many pixels are looked at.

* `grey`: the terminal colour of a grey value;
* `halfBlocks`: a canvas as lines of text.
-/

namespace SketchPreview.Terminal

/-- The glyph that fills the upper half of its cell. -/
def upperHalf : String := "▀"

/-- The nearest colour of a terminal's grey ramp. -/
def grey (value : UInt8) : Nat :=
  let v := value.toNat
  if v < 4 then 16 else if 252 ≤ v then 231 else 232 + (v - 4) * 23 / 247

/-- The colour of a pixel. Outside of the canvas it is black. -/
def pixelColor (c : Canvas) (x y : Nat) : Nat := grey ((c.get? x y).getD 0)

/-- The colours of a cell. -/
def cellColors (c : Canvas) (step column row : Nat) : Colors where
  foreground := pixelColor c (column * step) (2 * row * step)
  background := pixelColor c (column * step) ((2 * row + 1) * step)

/-- The cells of a line. -/
def cells (c : Canvas) (step row : Nat) : List Colors :=
  (List.range (c.width / step)).map fun column => cellColors c step column row

/-- A canvas as lines of half blocks, with every `step`-th pixel of both directions. -/
def halfBlocks (c : Canvas) (step : Nat) : String :=
  let step := max step 1
  String.join ((List.range ((c.height / step + 1) / 2)).map fun row =>
    cellLine upperHalf (cells c step row) ++ "\n")

end SketchPreview.Terminal
