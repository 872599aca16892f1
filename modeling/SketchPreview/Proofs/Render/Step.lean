import SketchPreview.Proofs.Canvas.Figure
import SketchPreview.Proofs.Render.State
import SketchPreview.Proofs.Render.Text

/-!
# What one operation does

An operation paints one figure in one colour and moves the state on. What the next state is does not
depend on the canvas; nor does the figure, but for a line, whose cut depends on the sides.

* `Display.painted_canvas`: the canvas before the first operation shows paper, and the grid;
* `Figure.dots`, `Figure.text`, `Figure.builtinText`: what text covers;
* `Operation.figure`, `Operation.color`: what an operation paints;
* `DisplayState.after`: the state behind an operation;
* **`Drawing.painted_perform`**, **`Drawing.state_perform`**: an operation does this and no more;
* `Operation.figure_of_not_isLine`, `Operation.figure_congr`: how a figure depends on the canvas.
-/

namespace SketchPreview

/-! ## The empty canvas -/

/-- What the grid covers: the left and upper edges of the display pixels, if they are large enough.
-/
def Figure.grid (d : Display) (grid : Bool) : Figure :=
  {p | (grid ∧ 2 ≤ d.scale) ∧ (p.1 % d.scale = 0 ∨ p.2 % d.scale = 0)}

/-- **The empty canvas is paper, with the grid painted on it.** -/
theorem Display.painted_canvas (d : Display) (size : Dimensions) (grid : Bool) :
    Canvas.Painted (.grid d grid) d.gridColor
      (.blank (size.width.toNat * d.scale) (size.height.toNat * d.scale) d.paper)
      (d.canvas size grid) := by
  unfold Display.canvas
  split
  · next hgrid =>
    refine (Canvas.painted_paintRegion ..).congr fun x y hxy => ?_
    obtain ⟨hx0, hx, hy0, hy⟩ := hxy
    obtain ⟨i, rfl⟩ := Int.eq_ofNat_of_zero_le hx0
    obtain ⟨j, rfl⟩ := Int.eq_ofNat_of_zero_le hy0
    simp only [Figure.region, Figure.grid, Set.mem_ofPred_eq, Int.toNat_natCast, Bool.or_eq_true,
      beq_iff_eq, ← Int.natCast_mod, Int.natCast_eq_zero, hgrid, and_self, true_and]
    omega
  · next hgrid =>
    refine (Canvas.Painted.refl _ _).congr fun x y _ => ?_
    exact iff_of_false id fun hmem => hgrid hmem.1

/-! ## Text -/

/-- What squares of a side cover, one for each dot, from an upper left corner on. -/
def Figure.dots (left top side : Int) (dots : List (Nat × Nat)) : Figure :=
  {p | ∃ i ∈ dots, p ∈ rect (add64 left (mul64 i.1 side)) (add64 top (mul64 i.2 side)) side side}

/-- What a character covers in a bitmap font: the dots of its glyph, if it has one. -/
def Figure.character (f : BitmapFont) (pen y scale : Int) (ch : Char) : Figure :=
  match f.glyph? ch with
  | some g =>
    dots (mul64 (pen + g.xOffset.toInt) scale) (mul64 (y - f.baseline - g.yOffset.toInt) scale)
      scale g.dots
  | none => ∅

/-- What a text covers in a bitmap font, from a pen position on. -/
def Figure.text (f : BitmapFont) (pen y scale : Int) : List Char → Figure
  | [] => ∅
  | ch :: rest => character f pen y scale ch ∪ text f (pen + f.advance ch) y scale rest

/-- What a character covers in the cell with index `i` of the built-in font. -/
def Figure.builtinCharacter (left top dot : Int) (i : Nat) (ch : Char) : Figure :=
  match Builtin.columns? ch with
  | some columns =>
    dots (add64 left (mul64 (i * Builtin.cellWidth : Nat) dot)) top dot (Builtin.dots columns)
  | none => ∅

/-- What a text covers in the built-in font, from the cell with index `i` on. -/
def Figure.builtinText (left top dot : Int) (i : Nat) : List Char → Figure
  | [] => ∅
  | ch :: rest => builtinCharacter left top dot i ch ∪ builtinText left top dot (i + 1) rest

namespace Canvas

theorem painted_drawDots (c : Canvas) (left top side : Int) (dots : List (Nat × Nat))
    (value : UInt8) :
    Painted (.dots left top side dots) value c (c.drawDots left top side dots value) :=
  Painted.foldl (fun c _ => c.painted_fillRect ..) dots c

theorem painted_drawText (c : Canvas) (f : BitmapFont) (pen y scale : Int) (value : UInt8)
    (text : List Char) :
    Painted (.text f pen y scale text) value c (c.drawText f pen y scale value text).1 := by
  induction text generalizing c pen with
  | nil => exact .refl c value
  | cons ch rest ih =>
    refine Painted.trans ?_ (ih _ _)
    unfold Figure.character
    cases f.glyph? ch with
    | some g => exact c.painted_drawDots ..
    | none => exact .refl c value

theorem painted_drawBuiltinText (c : Canvas) (left top dot : Int) (value : UInt8) (i : Nat)
    (text : List Char) :
    Painted (.builtinText left top dot i text) value c
      (c.drawBuiltinText left top dot value i text) := by
  induction text generalizing c i with
  | nil => exact .refl c value
  | cons ch rest ih =>
    refine Painted.trans ?_ (ih _ _)
    unfold Figure.builtinCharacter
    cases Builtin.columns? ch with
    | some columns => exact c.painted_drawDots ..
    | none => exact .refl c value

end Canvas

namespace DisplayState

/-- What a text covers in the font in force. -/
def textFigure (s : DisplayState) (d : Display) (x y : Int32) (text : List Char) : Figure :=
  match s.activeFont? d.fonts with
  | some f => .text f x.toInt y.toInt d.scale text
  | none =>
    .builtinText (d.pixels x) (d.pixels y) (Builtin.dotSize s.builtinSize d.scale) 0 text

/-- How far a text reaches in the font in force, unless the built-in font lacks a character. -/
def textWidth? (s : DisplayState) (d : Display) (text : List Char) : Option Int :=
  match s.activeFont? d.fonts with
  | some f => some (clamp32 (text.map f.advance).sum)
  | none => Builtin.measure? text s.builtinSize d.scale

/-- The distance from one line of text to the next in the font in force. -/
def lineHeight (s : DisplayState) (d : Display) : Int :=
  match s.activeFont? d.fonts with
  | some f => if f.lineHeight = 0 then Builtin.cellHeight else f.lineHeight.toInt
  | none => Builtin.cellHeight

end DisplayState

namespace Drawing

theorem painted_text (g : Drawing) (d : Display) (x y : Int32) (text : List Char) :
    Canvas.Painted (g.state.textFigure d x y text) (d.textColor g.state) g.canvas
      (g.text d x y text).1.canvas := by
  unfold DisplayState.textFigure Drawing.text
  cases g.state.activeFont? d.fonts with
  | some f => exact g.canvas.painted_drawText ..
  | none => exact g.canvas.painted_drawBuiltinText ..

theorem snd_text (g : Drawing) (d : Display) (x y : Int32) (text : List Char) :
    (g.text d x y text).2 = g.state.textWidth? d text := by
  unfold DisplayState.textWidth? Drawing.text
  cases g.state.activeFont? d.fonts with
  | some f => simp only [Canvas.snd_drawText, add_sub_cancel_left]
  | none => rfl

end Drawing

/-! ## Operations -/

/-- What an operation paints on a canvas. -/
def Operation.figure (d : Display) (s : DisplayState) (c : Canvas) : Operation → Figure
  | .drawPixel x y => .rect (d.pixels x) (d.pixels y) (d.pixels 1) (d.pixels 1)
  | .drawLine x0 y0 x1 y1 => .line c ⟨d.pixels x0, d.pixels y0, d.pixels x1, d.pixels y1⟩
  | .gfxLine x0 y0 x1 y1 => .line c ⟨d.pixels x0, d.pixels y0, d.pixels x1, d.pixels y1⟩
  | .drawBox x y w h => .rect (d.pixels x) (d.pixels y) (d.pixels w) (d.pixels h)
  | .gfxFillRect x y w h => .rect (d.pixels x) (d.pixels y) (d.pixels w) (d.pixels h)
  | .gfxVLine x y h => .rect (d.pixels x) (d.pixels y) (d.pixels 1) (d.pixels h)
  | .gfxHLine x y w => .rect (d.pixels x) (d.pixels y) (d.pixels w) (d.pixels 1)
  | .drawFrame x y w h => .frame (d.pixels x) (d.pixels y) (d.pixels w) (d.pixels h)
  | .gfxRect x y w h => .frame (d.pixels x) (d.pixels y) (d.pixels w) (d.pixels h)
  | .drawCircle x y r => .circle (d.pixels x) (d.pixels y) (d.pixels r)
  | .drawDisc x y r => .disc (d.pixels x) (d.pixels y) (d.pixels r)
  | .drawStr x y text => s.textFigure d x y text.toList
  | .print text => s.textFigure d s.cursorX s.cursorY text.toList
  | .println text => s.textFigure d s.cursorX s.cursorY text.toList
  | .setDrawColor _ => ∅
  | .setFont _ => ∅
  | .setCursor _ _ => ∅

/-- The colour in which an operation paints. -/
def Operation.color (d : Display) (s : DisplayState) : Operation → UInt8
  | .drawStr .. | .print _ | .println _ => d.textColor s
  | _ => d.color s

/-- The state behind an operation. -/
def DisplayState.after (d : Display) (s : DisplayState) : Operation → DisplayState
  | .setDrawColor c => { s with foreground := c != 0 }
  | .setFont name => s.selectFont d.fonts name
  | .setCursor x y => { s with cursorX := x, cursorY := y }
  | .print text =>
    let advance := (s.textWidth? d text.toList).getD (Drawing.assumedAdvance text.toList)
    { s with cursorX := nearestInt32 (s.cursorX.toInt + advance) }
  | .println _ =>
    { s with cursorX := 0, cursorY := nearestInt32 (s.cursorY.toInt + s.lineHeight d) }
  | _ => s

namespace Drawing

/-- **An operation paints its figure.** -/
theorem painted_perform (g : Drawing) (d : Display) (op : Operation) :
    Canvas.Painted (op.figure d g.state g.canvas) (op.color d g.state) g.canvas
      (g.perform d op).canvas := by
  cases op with
  | drawPixel | drawBox | gfxFillRect | gfxVLine | gfxHLine => exact g.canvas.painted_fillRect ..
  | drawFrame | gfxRect => exact g.canvas.painted_strokeRect ..
  | drawLine | gfxLine => exact g.canvas.painted_line ..
  | drawCircle x y r => exact g.canvas.painted_circle _ _ (fits64_clamp64 _).2 _
  | drawDisc => exact g.canvas.painted_disc ..
  | drawStr | print | println => exact g.painted_text ..
  | setDrawColor | setFont | setCursor => exact .refl ..

/-- **An operation moves the state on**, whatever the canvas shows. -/
theorem state_perform (g : Drawing) (d : Display) (op : Operation) :
    (g.perform d op).state = g.state.after d op := by
  cases op with
  | drawStr x y text => exact g.state_text ..
  | print text =>
    refine (g.state_print d text.toList).trans ?_
    rw [snd_text]
    rfl
  | println text => exact g.state_println d text.toList
  | _ => rfl

end Drawing

/-! ## Figures on different canvases -/

/-- Whether an operation draws a line. -/
def Operation.isLine : Operation → Bool
  | .drawLine .. | .gfxLine .. => true
  | _ => false

namespace Operation

theorem figure_of_not_isLine {op : Operation} (h : op.isLine = false) (d : Display)
    (s : DisplayState) (c c' : Canvas) : op.figure d s c = op.figure d s c' := by
  cases op with
  | drawLine | gfxLine => cases h
  | _ => rfl

/-- What an operation paints is the same for all canvases of equal sides. -/
theorem figure_congr {c c' : Canvas} (hw : c.width = c'.width) (hh : c.height = c'.height)
    (op : Operation) (d : Display) (s : DisplayState) : op.figure d s c = op.figure d s c' := by
  cases op with
  | drawLine | gfxLine => exact Figure.line_congr hw hh _
  | _ => rfl

end Operation

end SketchPreview
