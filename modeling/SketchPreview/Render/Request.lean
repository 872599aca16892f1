import SketchPreview.Dimensions
import SketchPreview.Font.Bitmap
import SketchPreview.Operation

/-!
# Render requests

Everything that decides what one frame looks like: the size of the display, how it is shown, the
operations to perform and the fonts that they may select.

* `RenderRequest`, `RenderRequest.ofSize`;
* `RenderRequest.fontMap`: the fonts of a request.
-/

namespace SketchPreview

/-- What to draw, and how. A single `font` counts only where there are no `fonts`. -/
structure RenderRequest where
  size : Dimensions
  scale : UInt32
  invert : Bool
  grid : Bool
  operations : List Operation
  fonts : Option FontMap
  font : Option BitmapFont
  textUsesDrawColor : Bool
  deriving DecidableEq, Repr, Inhabited

/-- The pixels across a display pixel when nothing else is said. -/
def standardScale : UInt32 := 2

/-- A request for an empty display of a size. -/
def RenderRequest.ofSize (size : Dimensions) : RenderRequest where
  size := size
  scale := standardScale
  invert := false
  grid := false
  operations := []
  fonts := none
  font := none
  textUsesDrawColor := true

/-- The fonts of a request. -/
def RenderRequest.fontMap (r : RenderRequest) : FontMap :=
  match r.fonts, r.font with
  | some fonts, _ => fonts
  | none, some font => SortedMap.empty.insert explicitKey font
  | none, none => .empty

end SketchPreview
