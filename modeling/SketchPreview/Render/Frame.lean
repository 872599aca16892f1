import SketchPreview.Render.Rasterizer

/-!
# Frames

A frame is a finished drawing together with the size of its display.

* `Frame`, `RenderRequest.render`;
* `Frame.summary`: a frame in one line.
-/

namespace SketchPreview

/-- A finished drawing. -/
structure Frame where
  drawing : Drawing
  size : Dimensions
  scale : Nat

/-- Draws the frame of a request. -/
def RenderRequest.render (r : RenderRequest) : Frame :=
  ⟨r.draw, r.size, (Display.ofRequest r).scale⟩

namespace Frame

/-- The font in force, with the size of the built-in font where that stands in for it. -/
def fontText (s : DisplayState) : String :=
  match s.fontName, s.font with
  | none, _ => ""
  | some name, some _ => " font:" ++ name
  | some name, none => " font:" ++ name ++ "(" ++ toString s.builtinSize ++ "px)"

/-- A frame in one line: size, scale, number of operations, font and checksum. -/
def summary (f : Frame) : String :=
  toString f.size.width.toNat ++ "x" ++ toString f.size.height.toNat ++ " @x" ++
    toString f.scale ++ " ops:" ++ toString f.drawing.count ++ fontText f.drawing.state ++
    " crc:" ++ hex8 f.drawing.canvas.checksum

end Frame

end SketchPreview
