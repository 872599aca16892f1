import SketchPreview.Canvas.Blend
import SketchPreview.Canvas.Circle
import SketchPreview.Canvas.Line
import SketchPreview.Render.Request
import SketchPreview.Render.State
import SketchPreview.Render.Text

/-!
# Performing operations

A frame is drawn by performing the operations of a request one after the other on a canvas. A
display pixel is a square of canvas pixels.

* `Display`: what stays the same during a frame; `Display.ofRequest`;
* `Drawing`: what an operation changes; `Drawing.start`;
* `Drawing.perform`: one operation;
* `RenderRequest.render`: all operations of a request.
-/

namespace SketchPreview

/-- What stays the same during a frame. -/
structure Display where
  fonts : FontMap
  scale : Nat
  ink : UInt8
  paper : UInt8
  textUsesDrawColor : Bool
  deriving DecidableEq, Repr

namespace Display

/-- The display of a request. Black ink on white paper, unless the request is inverted. -/
def ofRequest (r : RenderRequest) : Display where
  fonts := r.fontMap
  scale := max r.scale.toNat 1
  ink := if r.invert then 255 else 0
  paper := if r.invert then 0 else 255
  textUsesDrawColor := r.textUsesDrawColor

/-- A length or place in canvas pixels. -/
def pixels (d : Display) (units : Int32) : Int := mul64 units.toInt d.scale

/-- The colour of shapes. -/
def color (d : Display) (s : DisplayState) : UInt8 := if s.foreground then d.ink else d.paper

/-- The colour of text. -/
def textColor (d : Display) (s : DisplayState) : UInt8 :=
  if d.textUsesDrawColor then d.color s else d.ink

/-- The share of ink in the lines of the grid. -/
def gridShare : Float := 0.15

/-- The colour of the grid. -/
def gridColor (d : Display) : UInt8 := blend d.paper d.ink gridShare

/-- The empty canvas, with a grid line along the left and upper edge of each display pixel if a
grid is asked for and the display pixels are large enough. -/
def canvas (d : Display) (size : Dimensions) (grid : Bool) : Canvas :=
  let c := Canvas.blank (size.width.toNat * d.scale) (size.height.toNat * d.scale) d.paper
  if grid ∧ 2 ≤ d.scale then
    c.paintRegion 0 c.width 0 c.height (fun x y => x % d.scale == 0 || y % d.scale == 0) d.gridColor
  else c

end Display

/-- A frame in the making: the canvas, the state of the display and the number of operations
performed. -/
structure Drawing where
  canvas : Canvas
  state : DisplayState
  count : Nat

namespace Drawing

/-- The drawing before the first operation. -/
def start (d : Display) (size : Dimensions) (grid : Bool) : Drawing :=
  ⟨d.canvas size grid, .start d.fonts, 0⟩

/-- A solid rectangle in display pixels. -/
def fill (g : Drawing) (d : Display) (x y w h : Int32) : Drawing :=
  { g with
    canvas := g.canvas.fillRect (d.pixels x) (d.pixels y) (d.pixels w) (d.pixels h)
      (d.color g.state) }

/-- An outline in display pixels. -/
def stroke (g : Drawing) (d : Display) (x y w h : Int32) : Drawing :=
  { g with
    canvas := g.canvas.strokeRect (d.pixels x) (d.pixels y) (d.pixels w) (d.pixels h)
      (d.color g.state) }

/-- A segment in display pixels. -/
def line (g : Drawing) (d : Display) (x0 y0 x1 y1 : Int32) : Drawing :=
  { g with
    canvas := g.canvas.line (d.pixels x0) (d.pixels y0) (d.pixels x1) (d.pixels y1)
      (d.color g.state) }

/-- The outline of a circle in display pixels. -/
def circle (g : Drawing) (d : Display) (x y r : Int32) : Drawing :=
  { g with
    canvas := g.canvas.circle (d.pixels x) (d.pixels y) (d.pixels r) (d.color g.state) }

/-- A filled circle in display pixels. -/
def disc (g : Drawing) (d : Display) (x y r : Int32) : Drawing :=
  { g with canvas := g.canvas.disc (d.pixels x) (d.pixels y) (d.pixels r) (d.color g.state) }

/-- Draws a text, on its baseline in a bitmap font or below its upper edge in the built-in one, and
tells how far it reaches, unless the built-in font lacks a character. -/
def text (g : Drawing) (d : Display) (x y : Int32) (text : List Char) : Drawing × Option Int :=
  match g.state.activeFont? d.fonts with
  | some f =>
    let (canvas, pen) :=
      g.canvas.drawText f x.toInt y.toInt d.scale (d.textColor g.state) text
    ({ g with canvas }, some (clamp32 (pen - x.toInt)))
  | none =>
    let dot := Builtin.dotSize g.state.builtinSize d.scale
    let canvas :=
      g.canvas.drawBuiltinText (d.pixels x) (d.pixels y) dot (d.textColor g.state) 0 text
    ({ g with canvas }, Builtin.measure? text g.state.builtinSize d.scale)

/-- How far a text moves the cursor when its width is unknown: a cell for each character. -/
def assumedAdvance (text : List Char) : Int := clamp32 (text.length * Builtin.cellWidth : Nat)

/-- Draws a text at the cursor and moves the cursor behind it. -/
def print (g : Drawing) (d : Display) (text : List Char) : Drawing :=
  let (g, width) := g.text d g.state.cursorX g.state.cursorY text
  let advance := width.getD (assumedAdvance text)
  { g with state.cursorX := nearestInt32 (g.state.cursorX.toInt + advance) }

/-- The distance from one line of text to the next. -/
def lineHeight (g : Drawing) (d : Display) : Int :=
  match g.state.activeFont? d.fonts with
  | some f => if f.lineHeight = 0 then Builtin.cellHeight else f.lineHeight.toInt
  | none => Builtin.cellHeight

/-- Draws a text at the cursor and moves the cursor to the start of the next line. -/
def println (g : Drawing) (d : Display) (text : List Char) : Drawing :=
  let g := (g.text d g.state.cursorX g.state.cursorY text).1
  { g with
    state.cursorX := 0
    state.cursorY := nearestInt32 (g.state.cursorY.toInt + g.lineHeight d) }

/-- Does what an operation says. -/
def apply (g : Drawing) (d : Display) : Operation → Drawing
  | .setDrawColor c => { g with state.foreground := c != 0 }
  | .drawPixel x y => g.fill d x y 1 1
  | .drawLine x0 y0 x1 y1 => g.line d x0 y0 x1 y1
  | .drawBox x y w h => g.fill d x y w h
  | .drawFrame x y w h => g.stroke d x y w h
  | .drawCircle x y r => g.circle d x y r
  | .drawDisc x y r => g.disc d x y r
  | .drawStr x y text => (g.text d x y text.toList).1
  | .setFont name => { g with state := g.state.selectFont d.fonts name }
  | .setCursor x y => { g with state.cursorX := x, state.cursorY := y }
  | .print text => g.print d text.toList
  | .println text => g.println d text.toList
  | .gfxVLine x y h => g.fill d x y 1 h
  | .gfxHLine x y w => g.fill d x y w 1
  | .gfxRect x y w h => g.stroke d x y w h
  | .gfxFillRect x y w h => g.fill d x y w h
  | .gfxLine x0 y0 x1 y1 => g.line d x0 y0 x1 y1

/-- Performs an operation and counts it. -/
def perform (d : Display) (g : Drawing) (op : Operation) : Drawing :=
  { g.apply d op with count := g.count + 1 }

end Drawing

/-- The drawing of a request before its first operation. -/
def RenderRequest.blankDrawing (r : RenderRequest) : Drawing :=
  .start (.ofRequest r) r.size r.grid

/-- The drawing of a request after all of its operations. -/
def RenderRequest.draw (r : RenderRequest) : Drawing :=
  r.operations.foldl (Drawing.perform (.ofRequest r)) r.blankDrawing

end SketchPreview
