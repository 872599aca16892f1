/-!
# Drawing operations

`Operation` is one step of a drawing: a shape, a text, or a change of colour, font or cursor. The
coordinates are 32-bit display pixels.
-/

namespace SketchPreview

/-- One step of a drawing. The operations whose name begins with `gfx` come from a second drawing
library; `gfxLine` is recorded by a running sketch only and is never read from source. -/
inductive Operation where
  | setDrawColor (c : Int32)
  | drawPixel (x y : Int32)
  | drawLine (x0 y0 x1 y1 : Int32)
  | drawBox (x y w h : Int32)
  | drawFrame (x y w h : Int32)
  | drawCircle (x y r : Int32)
  | drawDisc (x y r : Int32)
  | drawStr (x y : Int32) (text : String)
  | setFont (name : String)
  | setCursor (x y : Int32)
  | print (text : String)
  | println (text : String)
  | gfxVLine (x y h : Int32)
  | gfxHLine (x y w : Int32)
  | gfxRect (x y w h : Int32)
  | gfxFillRect (x y w h : Int32)
  | gfxLine (x0 y0 x1 y1 : Int32)
  deriving DecidableEq, Repr, Inhabited

end SketchPreview
