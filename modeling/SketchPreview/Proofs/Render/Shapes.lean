import SketchPreview.Proofs.Render.Step
import SketchPreview.Render.Frame

/-!
# Shapes in any order

Between two changes of the state, all shapes are drawn in one colour, and none of them looks at what
is on the canvas. Together they cover the union of their figures, so neither their order counts nor
how often one of them is drawn.

* `Operation.isShape`: operations that draw points, lines, rectangles and circles;
* `Canvas.Painted.unique`: a figure in one value leaves one canvas;
* `Drawing.Covered`: what shapes leave behind;
* `Drawing.Covered.canvas_eq`, `Drawing.Covered.eq_of_perm`: neither their order counts, nor, on the
  canvas, how often each is drawn;
* `Drawing.covered_perform`, `Drawing.covered_foldl_perform`: one shape, and any number of them;
* **`RenderRequest.shapes_in_any_order`**: shapes commute, and drawing one twice shows nothing new.
-/

namespace SketchPreview

/-- Whether an operation draws a shape: a point, a line, a rectangle or a circle. -/
def Operation.isShape : Operation → Bool
  | .drawPixel .. | .drawLine .. | .gfxLine .. | .drawBox .. | .gfxFillRect .. | .drawFrame ..
  | .gfxRect .. | .drawCircle .. | .drawDisc .. | .gfxVLine .. | .gfxHLine .. => true
  | _ => false

theorem Operation.color_of_isShape {op : Operation} (h : op.isShape) (d : Display)
    (s : DisplayState) : op.color d s = d.color s := by
  cases op with
  | drawStr | print | println => cases h
  | _ => rfl

theorem DisplayState.after_of_isShape {op : Operation} (h : op.isShape) (d : Display)
    (s : DisplayState) : s.after d op = s := by
  cases op with
  | setDrawColor | setFont | setCursor | print | println => cases h
  | _ => rfl

/-- **A figure in one value leaves one canvas.** -/
theorem Canvas.Painted.unique {s : Figure} {value : UInt8} {a b c : Canvas}
    (h : Painted s value a b) (h' : Painted s value a c) : b = c := by
  refine ext_get? (h.width.trans h'.width.symm) (h.height.trans h'.height.symm) fun x y => ?_
  by_cases hmem : (x, y) ∈ s
  · by_cases hxy : a.Holds x y
    · rw [h.of_mem hxy hmem, h'.of_mem hxy hmem]
    · rw [get?_of_not_holds fun e => hxy ((h.holds_iff x y).1 e),
        get?_of_not_holds fun e => hxy ((h'.holds_iff x y).1 e)]
  · rw [h.of_not_mem hmem, h'.of_not_mem hmem]

attribute [ext] Drawing

namespace Drawing

/-- What shapes leave behind: their figures in the colour in force, and the state as it was. -/
structure Covered (d : Display) (ops : List Operation) (before after : Drawing) : Prop where
  canvas : Canvas.Painted {p | ∃ op ∈ ops, p ∈ op.figure d before.state before.canvas}
    (d.color before.state) before.canvas after.canvas
  state : after.state = before.state
  count : after.count = before.count + ops.length

namespace Covered

variable {d : Display} {ops ops' : List Operation} {a b c : Drawing}

theorem figure_eq (h : Covered d ops a b) (op : Operation) :
    op.figure d a.state b.canvas = op.figure d a.state a.canvas :=
  op.figure_congr h.canvas.width h.canvas.height d a.state

protected theorem trans (h : Covered d ops a b) (h' : Covered d ops' b c) :
    Covered d (ops ++ ops') a c where
  canvas := by
    -- what the second shapes cover is told by the canvas the first ones were drawn on
    have hcanvas := h'.canvas
    simp only [h.state, h.figure_eq] at hcanvas
    refine (h.canvas.trans hcanvas).congr fun x y _ => ?_
    simp only [Set.mem_union, Set.mem_ofPred_eq, List.mem_append, or_and_right, exists_or]
  state := h'.state.trans h.state
  count := by rw [h'.count, h.count, List.length_append, Nat.add_assoc]

theorem canvas_eq (h : Covered d ops a b) (h' : Covered d ops' a c)
    (hops : ∀ op, op ∈ ops ↔ op ∈ ops') : b.canvas = c.canvas := by
  have hcanvas := h.canvas
  simp only [hops] at hcanvas
  exact hcanvas.unique h'.canvas

/-- Which shapes are drawn, and how often each, decides the drawing. -/
theorem eq_of_perm (h : Covered d ops a b) (h' : Covered d ops' a c) (hops : ops.Perm ops') :
    b = c :=
  Drawing.ext (h.canvas_eq h' fun _ => hops.mem_iff) (h.state.trans h'.state.symm)
    (by rw [h.count, h'.count, hops.length_eq])

end Covered

variable (d : Display) (g : Drawing)

/-- **One shape.** -/
theorem covered_perform {op : Operation} (h : op.isShape) : Covered d [op] g (g.perform d op) where
  canvas := by
    rw [← op.color_of_isShape h]
    exact (g.painted_perform d op).congr fun x y _ => by simp
  state := (g.state_perform d op).trans (g.state.after_of_isShape h d)
  count := rfl

/-- **Any number of shapes.** -/
theorem covered_foldl_perform {ops : List Operation} (h : ∀ op ∈ ops, op.isShape) :
    Covered d ops g (ops.foldl (perform d) g) := by
  induction ops generalizing g with
  | nil => exact ⟨(Canvas.Painted.refl _ _).congr fun x y _ => by simp, rfl, rfl⟩
  | cons op ops ih =>
    obtain ⟨hop, hops⟩ := List.forall_mem_cons.1 h
    exact (covered_perform d g hop).trans (ih (g.perform d op) hops)

theorem foldl_perform_of_perm {ops ops' : List Operation} (h : ∀ op ∈ ops, op.isShape)
    (hperm : ops.Perm ops') : ops.foldl (perform d) g = ops'.foldl (perform d) g :=
  (covered_foldl_perform d g h).eq_of_perm
    (covered_foldl_perform d g fun op hop => h op (hperm.mem_iff.2 hop)) hperm

end Drawing

/-- **Shapes in any order show the same.** Two of them commute, on every drawing; drawing one twice
leaves the canvas as drawing it once; and a request whose operations include a block of shapes has
the same frame with the block in any other order. -/
theorem RenderRequest.shapes_in_any_order (r : RenderRequest) (g : Drawing) :
    (∀ op op' : Operation, op.isShape → op'.isShape →
      (g.perform (.ofRequest r) op).perform (.ofRequest r) op' =
        (g.perform (.ofRequest r) op').perform (.ofRequest r) op) ∧
    (∀ op : Operation, op.isShape →
      ((g.perform (.ofRequest r) op).perform (.ofRequest r) op).canvas =
        (g.perform (.ofRequest r) op).canvas) ∧
    ∀ before shapes shapes' behind : List Operation, (∀ op ∈ shapes, op.isShape) →
      shapes.Perm shapes' →
        ({ r with operations := before ++ shapes ++ behind } : RenderRequest).render =
          ({ r with operations := before ++ shapes' ++ behind } : RenderRequest).render := by
  have hone {op : Operation} (h : op.isShape) (g : Drawing) := g.covered_perform (.ofRequest r) h
  refine ⟨fun op op' h h' => ?_, fun op h => ?_, fun before shapes shapes' behind h hperm => ?_⟩
  · exact ((hone h g).trans (hone h' _)).eq_of_perm ((hone h' g).trans (hone h _)) (.swap ..)
  · exact ((hone h g).trans (hone h _)).canvas_eq (hone h g) fun _ => by simp
  · simp only [render, draw, List.foldl_append, Drawing.foldl_perform_of_perm _ _ h hperm]
    rfl

/-- A line that leaves the canvas on both sides, over a disc and an outline, in the colour that
erases them. -/
theorem RenderRequest.shapes_in_any_order_crossing :
    let r := { RenderRequest.ofSize ⟨9, 5⟩ with grid := true }
    let g := r.blankDrawing
    let line : Operation := .drawLine (-3) 9 12 (-2)
    let disc : Operation := .drawDisc 3 2 (-2)
    let frame : Operation := .gfxRect 6 4 (-5) (-9)
    (line.isShape ∧ disc.isShape) ∧
      (g.perform (.ofRequest r) line).perform (.ofRequest r) disc =
        (g.perform (.ofRequest r) disc).perform (.ofRequest r) line ∧
      ((g.perform (.ofRequest r) line).perform (.ofRequest r) line).canvas =
        (g.perform (.ofRequest r) line).canvas ∧
      (∀ op ∈ [line, disc, frame], op.isShape) ∧
      [line, disc, frame].Perm [frame, disc, line] ∧
      ({ r with operations := [.setDrawColor 0] ++ [line, disc, frame] ++ [.print "a"] } :
          RenderRequest).render =
        ({ r with operations := [.setDrawColor 0] ++ [frame, disc, line] ++ [.print "a"] } :
          RenderRequest).render := by
  intro r g line disc frame
  obtain ⟨hswap, htwice, hblock⟩ := r.shapes_in_any_order g
  have hshapes : ∀ op ∈ [line, disc, frame], op.isShape := by decide
  have hperm : [line, disc, frame].Perm [frame, disc, line] := by decide
  exact ⟨⟨rfl, rfl⟩, hswap line disc rfl rfl, htwice line rfl, hshapes, hperm,
    hblock _ _ _ _ hshapes hperm⟩

end SketchPreview
