import SketchPreview.Proofs.Render.Step
import SketchPreview.Render.Frame

/-!
# The size of a canvas only crops

Figures do not end where a canvas does, so a larger canvas shows more of them and nothing else.
Lines are the exception: a line that leaves the canvas is drawn between other ends.

* `Canvas.Agrees`: canvases that show the same where both have a pixel;
* `Painted.agrees`: a figure painted on both keeps them so;
* `Drawing.Agrees.perform`, `Drawing.Agrees.foldl_perform`: so does an operation, and so do all;
* **`RenderRequest.render_agrees_of_size`**: frames that differ in size alone.
-/

namespace SketchPreview

namespace Canvas

/-- Whether two canvases show the same wherever both have a pixel. -/
def Agrees (c d : Canvas) : Prop := ∀ x y, c.Holds x y → d.Holds x y → c.get? x y = d.get? x y

theorem agrees_blank (width height width' height' : Nat) (value : UInt8) :
    (blank width height value).Agrees (blank width' height' value) := by
  intro x y hc hd
  rw [get?_blank, get?_blank, if_pos hc, if_pos hd]

/-- **The same figure, painted on both, keeps canvases in agreement.** -/
theorem Painted.agrees {s : Figure} {value : UInt8} {a b a' b' : Canvas}
    (h : Painted s value a b) (h' : Painted s value a' b') (hag : a.Agrees a') : b.Agrees b' := by
  intro x y hb hb'
  have ha := (h.holds_iff x y).1 hb
  have ha' := (h'.holds_iff x y).1 hb'
  by_cases hmem : (x, y) ∈ s
  · rw [h.of_mem ha hmem, h'.of_mem ha' hmem]
  · rw [h.of_not_mem hmem, h'.of_not_mem hmem]
    exact hag x y ha ha'

end Canvas

namespace Drawing

/-- Whether two drawings are in equal states and show the same wherever both have a pixel. -/
structure Agrees (g g' : Drawing) : Prop where
  canvas : g.canvas.Agrees g'.canvas
  state : g.state = g'.state

theorem agrees_start (d : Display) (size size' : Dimensions) (grid : Bool) :
    (start d size grid).Agrees (start d size' grid) where
  canvas :=
    (d.painted_canvas size grid).agrees (d.painted_canvas size' grid)
      (Canvas.agrees_blank _ _ _ _ _)
  state := rfl

variable {d : Display} {g g' : Drawing}

/-- **One step.** But for a line, an operation keeps drawings in agreement. -/
theorem Agrees.perform (h : g.Agrees g') {op : Operation} (hop : op.isLine = false) :
    (g.perform d op).Agrees (g'.perform d op) := by
  have hg := g.painted_perform d op
  have hg' := g'.painted_perform d op
  rw [← h.state, op.figure_of_not_isLine hop d g.state g'.canvas g.canvas] at hg'
  refine ⟨hg.agrees hg' h.canvas, ?_⟩
  rw [state_perform, state_perform, h.state]

/-- Operations other than lines keep drawings in agreement. -/
theorem Agrees.foldl_perform (h : g.Agrees g') {ops : List Operation}
    (hops : ∀ op ∈ ops, op.isLine = false) :
    (ops.foldl (Drawing.perform d) g).Agrees (ops.foldl (Drawing.perform d) g') :=
  List.foldl_rel h fun op hop _ _ h => h.perform (hops op hop)

end Drawing

/-- **The size of a canvas only crops.** Frames of the same operations without lines, shown in the
same way at different sizes, end in the same state and agree on every pixel that both have. -/
theorem RenderRequest.render_agrees_of_size (r : RenderRequest) (size : Dimensions)
    (hops : ∀ op ∈ r.operations, op.isLine = false) :
    r.render.drawing.state = ({ r with size } : RenderRequest).render.drawing.state ∧
      r.render.drawing.canvas.Agrees ({ r with size } : RenderRequest).render.drawing.canvas := by
  have hstart : r.blankDrawing.Agrees ({ r with size } : RenderRequest).blankDrawing :=
    Drawing.agrees_start ..
  have hrun := hstart.foldl_perform (d := .ofRequest r) hops
  exact ⟨hrun.state, hrun.canvas⟩

/-- Shapes that leave both canvases on all sides, over a grid, and text that leaves one of them. -/
def croppedRequest : RenderRequest where
  size := ⟨9, 5⟩
  scale := 2
  invert := true
  grid := true
  operations := [.drawCircle 3 2 4, .drawFrame (-2) 1 7 9, .setDrawColor 0, .drawDisc 6 3 2,
    .setCursor 4 1, .print "no", .println "font", .gfxHLine 7 4 (-9)]
  fonts := none
  font := none
  textUsesDrawColor := false

theorem RenderRequest.render_agrees_of_size_cropped :
    (∀ op ∈ croppedRequest.operations, op.isLine = false) ∧
      croppedRequest.render.drawing.state =
        ({ croppedRequest with size := ⟨6, 16⟩ } : RenderRequest).render.drawing.state ∧
      croppedRequest.render.drawing.canvas.Agrees
        ({ croppedRequest with size := ⟨6, 16⟩ } : RenderRequest).render.drawing.canvas :=
  ⟨by decide, croppedRequest.render_agrees_of_size ⟨6, 16⟩ (by decide)⟩

end SketchPreview
