import SketchPreview.Proofs.Render.Step
import SketchPreview.Render.Frame

/-!
# Inverted frames

Inverting a request exchanges ink and paper. What is painted where does not depend on the colours,
so the frame of an inverted request is the complement of the frame.

* `Display.Complements`, `Display.complements_ofRequest`: displays in complementary colours;
* `Canvas.Complements`, `Painted.complements`: canvases that show complementary values;
* `Drawing.Complements.perform`, `Drawing.Complements.foldl_perform`: an operation, and all of them,
  keep drawings complementary;
* **`RenderRequest.render_complements_of_invert`**: the frame of the inverted request.
-/

namespace SketchPreview

/-! ## Colours -/

/-- Whether two displays are the same but for complementary colours. -/
structure Display.Complements (d d' : Display) : Prop where
  fonts : d'.fonts = d.fonts
  scale : d'.scale = d.scale
  textUsesDrawColor : d'.textUsesDrawColor = d.textUsesDrawColor
  ink : d'.ink = 255 - d.ink
  paper : d'.paper = 255 - d.paper
  gridColor : d'.gridColor = 255 - d.gridColor

/-- The grid of black ink on white paper is light, that of white ink on black paper dark. -/
theorem blend_gridShare :
    blend 255 0 Display.gridShare = 217 ∧ blend 0 255 Display.gridShare = 38 := by
  decide +kernel

theorem Display.complements_ofRequest (r : RenderRequest) :
    (ofRequest r).Complements (ofRequest { r with invert := !r.invert }) where
  fonts := rfl
  scale := rfl
  textUsesDrawColor := rfl
  ink := by cases h : r.invert <;> simp [ofRequest, h]
  paper := by cases h : r.invert <;> simp [ofRequest, h]
  gridColor := by
    obtain ⟨hlight, hdark⟩ := blend_gridShare
    cases h : r.invert <;> simp [ofRequest, Display.gridColor, h, hlight, hdark]

namespace Display.Complements

variable {d d' : Display} (h : d.Complements d') (s : DisplayState) (op : Operation)

include h

theorem color : d'.color s = 255 - d.color s := by
  unfold Display.color
  split
  · exact h.ink
  · exact h.paper

theorem textColor : d'.textColor s = 255 - d.textColor s := by
  unfold Display.textColor
  rw [h.textUsesDrawColor]
  split
  · exact h.color s
  · exact h.ink

theorem operationColor : op.color d' s = 255 - op.color d s := by
  cases op with
  | drawStr | print | println => exact h.textColor s
  | _ => exact h.color s

theorem figure (c : Canvas) : op.figure d' s c = op.figure d s c := by
  obtain ⟨fonts, scale, ink, paper, textUsesDrawColor⟩ := d
  obtain ⟨fonts', scale', ink', paper', textUsesDrawColor'⟩ := d'
  obtain ⟨rfl, rfl, -, -, -, -⟩ := h
  cases op <;> rfl

theorem after : s.after d' op = s.after d op := by
  obtain ⟨fonts, scale, ink, paper, textUsesDrawColor⟩ := d
  obtain ⟨fonts', scale', ink', paper', textUsesDrawColor'⟩ := d'
  obtain ⟨rfl, rfl, -, -, -, -⟩ := h
  cases op <;> rfl

end Display.Complements

/-! ## Canvases -/

namespace Canvas

/-- Whether two canvases of equal sides show complementary values. -/
structure Complements (c c' : Canvas) : Prop where
  width : c'.width = c.width
  height : c'.height = c.height
  view (x y : Int) : c'.get? x y = (c.get? x y).map (255 - ·)

theorem complements_blank (width height : Nat) (value : UInt8) :
    (blank width height value).Complements (blank width height (255 - value)) where
  width := rfl
  height := rfl
  view x y := by
    rw [get?_blank, get?_blank, apply_ite (Option.map (255 - ·))]
    rfl

/-- **The same figure, painted on both in complementary values, keeps canvases complementary.** -/
theorem Painted.complements {s : Figure} {value : UInt8} {a b a' b' : Canvas}
    (h : Painted s value a b) (h' : Painted s (255 - value) a' b') (ha : a.Complements a') :
    b.Complements b' where
  width := by rw [h'.width, h.width, ha.width]
  height := by rw [h'.height, h.height, ha.height]
  view x y := by
    by_cases hmem : (x, y) ∈ s
    · by_cases hxy : a.Holds x y
      · have hxy' := (holds_iff_of_sides ha.width ha.height x y).2 hxy
        rw [h.of_mem hxy hmem, h'.of_mem hxy' hmem]
        rfl
      · have hb : ¬b.Holds x y := fun e => hxy ((h.holds_iff x y).1 e)
        have hb' : ¬b'.Holds x y := fun e =>
          hxy ((holds_iff_of_sides ha.width ha.height x y).1 ((h'.holds_iff x y).1 e))
        rw [get?_of_not_holds hb, get?_of_not_holds hb']
        rfl
    · rw [h.of_not_mem hmem, h'.of_not_mem hmem]
      exact ha.view x y

end Canvas

/-! ## Drawings -/

namespace Drawing

/-- Whether two drawings are in equal states on complementary canvases. -/
structure Complements (g g' : Drawing) : Prop where
  canvas : g.canvas.Complements g'.canvas
  state : g'.state = g.state

variable {d d' : Display} (hd : d.Complements d')

include hd

theorem complements_start (size : Dimensions) (grid : Bool) :
    (start d size grid).Complements (start d' size grid) := by
  have h := d.painted_canvas size grid
  have h' := d'.painted_canvas size grid
  have hgrid : Figure.grid d' grid = Figure.grid d grid := by
    rw [Figure.grid, Figure.grid, hd.scale]
  rw [hgrid, hd.gridColor, hd.paper, hd.scale] at h'
  refine ⟨h.complements h' (Canvas.complements_blank ..), ?_⟩
  show DisplayState.start d'.fonts = DisplayState.start d.fonts
  rw [hd.fonts]

variable {g g' : Drawing} (h : g.Complements g')

include h

/-- **One step.** An operation keeps drawings complementary. -/
theorem Complements.perform (op : Operation) : (g.perform d op).Complements (g'.perform d' op) := by
  have hg := g.painted_perform d op
  have hg' := g'.painted_perform d' op
  rw [h.state, hd.operationColor, hd.figure,
    op.figure_congr h.canvas.width h.canvas.height] at hg'
  refine ⟨hg.complements hg' h.canvas, ?_⟩
  rw [state_perform, state_perform, h.state, hd.after]

theorem Complements.foldl_perform (ops : List Operation) :
    (ops.foldl (Drawing.perform d) g).Complements (ops.foldl (Drawing.perform d') g') :=
  List.foldl_rel h fun op _ _ _ h => h.perform hd op

end Drawing

/-- **Inversion is complement.** The frame of the inverted request ends in the same state, on a
canvas of the same sides that shows the complement of every pixel. -/
theorem RenderRequest.render_complements_of_invert (r : RenderRequest) :
    ({ r with invert := !r.invert } : RenderRequest).render.drawing.state =
        r.render.drawing.state ∧
      r.render.drawing.canvas.Complements
        ({ r with invert := !r.invert } : RenderRequest).render.drawing.canvas := by
  have hd := Display.complements_ofRequest r
  have hrun := (Drawing.complements_start hd r.size r.grid).foldl_perform hd r.operations
  exact ⟨hrun.state, hrun.canvas⟩

end SketchPreview
