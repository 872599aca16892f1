import SketchPreview.Proofs.Render.Cursor
import SketchPreview.Proofs.Render.Rectangle
import SketchPreview.Proofs.Render.State
import SketchPreview.Proofs.Render.Text
import SketchPreview.Render.Frame

/-!
# A frame at a larger scale

A display pixel is a square of canvas pixels. A frame of rectangles and bitmap text at some scale is
therefore the frame at scale one, enlarged. Lines, outlines and circles are not, since they are
drawn in canvas pixels; nor is the built-in font, whose dots have a size of their own.

* `Operation.isSolid`: operations that draw rectangles and text;
* `Display.unscaled`: the display with single pixels;
* `Drawing.Magnifies`: drawings in equal states, the canvas of the one magnifying that of the other;
* `Drawing.Magnifies.apply`: one such operation keeps a drawing magnified;
* **`Drawing.Magnifies.foldl_perform`**: such operations keep a drawing magnified;
* **`RenderRequest.render_eq_zoomed`**: the frame at a scale is the frame at scale one, enlarged.
-/

namespace SketchPreview

/-- Whether an operation draws nothing but rectangles and text. -/
def Operation.isSolid : Operation → Bool
  | .drawLine .. | .gfxLine .. | .drawFrame .. | .gfxRect ..
  | .drawCircle .. | .drawDisc .. => false
  | _ => true

/-! ## Rectangles -/

theorem Span.magnifies_pixels {s : Nat} (hs : 0 < s) {start extent : Int} (hstart : Fits32 start)
    (hextent : Fits32 extent) :
    (Span.ofExtent (mul64 start s) (mul64 extent s)).Magnifies s
      (Span.ofExtent (mul64 start (1 : Nat)) (mul64 extent (1 : Nat))) := by
  refine magnifies_of_ends hs (fun hmax x h0 hx => contains_pixels (Nat.lt_of_le_of_lt hmax
    (by decide)) hstart hextent h0 hx) fun x h0 hx => ?_
  rw [contains_pixels (by decide) hstart hextent h0 hx, Int.natCast_one, Int.mul_one, Int.mul_one]

/-- The same display with single pixels. -/
def Display.unscaled (d : Display) : Display := { d with scale := 1 }

namespace Drawing

/-! ## One drawing beside the other -/

/-- Whether two drawings are in equal states, the canvas of the one magnifying that of the other. -/
structure Magnifies (big : Drawing) (s : Nat) (small : Drawing) : Prop where
  canvas : big.canvas.Magnifies s small.canvas
  state : big.state = small.state
  count : big.count = small.count

section Simulation

variable {d : Display} {big small : Drawing} (h : big.Magnifies d.scale small) (hs : 0 < d.scale)

include h hs

theorem Magnifies.fill (x y w k : Int32) :
    (big.fill d x y w k).Magnifies d.scale (small.fill d.unscaled x y w k) := by
  have hcolor : d.unscaled.color small.state = d.color big.state := by
    rw [h.state]
    rfl
  refine ⟨?_, h.state, h.count⟩
  show (big.canvas.fillRect _ _ _ _ (d.color big.state)).Magnifies d.scale
    (small.canvas.fillRect _ _ _ _ (d.unscaled.color small.state))
  rw [hcolor]
  exact h.canvas.fillRect hs
    (Span.magnifies_pixels hs (fits32_toInt x) (fits32_toInt w))
    (Span.magnifies_pixels hs (fits32_toInt y) (fits32_toInt k)) _

variable (hfonts : d.fonts.Fits) (hfont : (big.state.activeFont? d.fonts).isSome)

include hfonts hfont

/-- In a bitmap font, a text keeps a drawing magnified and reaches as far in both. -/
theorem Magnifies.text (x y : Int32) (text : List Char) :
    (big.text d x y text).1.Magnifies d.scale (small.text d.unscaled x y text).1 ∧
      (big.text d x y text).2 = (small.text d.unscaled x y text).2 := by
  obtain ⟨f, hf⟩ := Option.isSome_iff_exists.1 hfont
  obtain ⟨name, -, hname⟩ := Option.bind_eq_some_iff.1 hf
  have hfits : f.Fits := hfonts _ (SortedMap.mem_entries_of_get? hname)
  have hf' : small.state.activeFont? d.unscaled.fonts = some f := h.state ▸ hf
  have hcolor : d.unscaled.textColor small.state = d.textColor big.state := by
    rw [h.state]
    rfl
  simp only [Drawing.text, hf, hf', hcolor, Canvas.snd_drawText, and_true]
  exact ⟨h.canvas.drawText hs hfits _ _ _ text, h.state, h.count⟩

theorem Magnifies.text_cursor (text : List Char) :
    (big.text d big.state.cursorX big.state.cursorY text).1.Magnifies d.scale
        (small.text d.unscaled small.state.cursorX small.state.cursorY text).1 ∧
      (big.text d big.state.cursorX big.state.cursorY text).2 =
        (small.text d.unscaled small.state.cursorX small.state.cursorY text).2 := by
  have htext := h.text hs hfonts hfont big.state.cursorX big.state.cursorY text
  have hcursor : small.text d.unscaled big.state.cursorX big.state.cursorY text =
      small.text d.unscaled small.state.cursorX small.state.cursorY text := by rw [h.state]
  rwa [hcursor] at htext

theorem Magnifies.print (text : List Char) :
    (big.print d text).Magnifies d.scale (small.print d.unscaled text) := by
  obtain ⟨htext, hwidth⟩ := h.text_cursor hs hfonts hfont text
  refine ⟨htext.canvas, ?_, htext.count⟩
  rw [state_print, state_print, hwidth, h.state]

theorem Magnifies.println (text : List Char) :
    (big.println d text).Magnifies d.scale (small.println d.unscaled text) := by
  obtain ⟨htext, -⟩ := h.text_cursor hs hfonts hfont text
  have hline : big.lineHeight d = small.lineHeight d.unscaled := by
    unfold lineHeight
    rw [h.state]
    rfl
  refine ⟨htext.canvas, ?_, htext.count⟩
  rw [state_println, state_println, hline, h.state]

/-- **A solid operation keeps a drawing magnified.** -/
theorem Magnifies.apply {op : Operation} (hop : op.isSolid) :
    (big.apply d op).Magnifies d.scale (small.apply d.unscaled op) := by
  cases op with
  | drawPixel x y => exact h.fill hs x y 1 1
  | drawBox x y w k => exact h.fill hs x y w k
  | gfxFillRect x y w k => exact h.fill hs x y w k
  | gfxVLine x y k => exact h.fill hs x y 1 k
  | gfxHLine x y w => exact h.fill hs x y w 1
  | drawStr x y text => exact (h.text hs hfonts hfont x y text.toList).1
  | print text => exact h.print hs hfonts hfont text.toList
  | println text => exact h.println hs hfonts hfont text.toList
  | setDrawColor c =>
    refine ⟨h.canvas, ?_, h.count⟩
    rw [Drawing.apply, Drawing.apply, h.state]
  | setCursor x y =>
    refine ⟨h.canvas, ?_, h.count⟩
    rw [Drawing.apply, Drawing.apply, h.state]
  | setFont name =>
    refine ⟨h.canvas, ?_, h.count⟩
    rw [Drawing.apply, Drawing.apply, h.state]
    rfl
  | drawLine | gfxLine | drawFrame | gfxRect | drawCircle | drawDisc => cases hop

/-- **Solid operations keep a drawing magnified**, by induction on the operations. A bitmap font has
to be in force before each one, so the invariant is carried along. -/
theorem Magnifies.foldl_perform (hexplicit : d.fonts.contains explicitKey) {ops : List Operation}
    (hops : ∀ op ∈ ops, op.isSolid) :
    (ops.foldl (perform d) big).Magnifies d.scale (ops.foldl (perform d.unscaled) small) := by
  induction ops generalizing big small with
  | nil => exact h
  | cons op rest ih =>
    obtain ⟨hop, hrest⟩ := List.forall_mem_cons.1 hops
    have hstep := h.apply hs hfonts hfont hop
    have hperform : (perform d big op).Magnifies d.scale (perform d.unscaled small op) :=
      ⟨hstep.canvas, hstep.state, congrArg (· + 1) h.count⟩
    exact ih hperform (isSome_activeFont?_apply hexplicit hfont op) hrest

end Simulation

end Drawing

/-! ## Frames -/

theorem RenderRequest.magnifies_blankDrawing (r : RenderRequest) (hgrid : r.grid = false)
    (hw : r.size.width.toNat * (Display.ofRequest r).scale ≤ maxSide)
    (hh : r.size.height.toNat * (Display.ofRequest r).scale ≤ maxSide) :
    r.blankDrawing.Magnifies (Display.ofRequest r).scale
      ({ r with scale := 1 } : RenderRequest).blankDrawing := by
  have hs : 0 < (Display.ofRequest r).scale := Nat.le_max_right _ _
  have hcanvas : ∀ d : Display, d.canvas r.size r.grid =
      Canvas.blank (r.size.width.toNat * d.scale) (r.size.height.toNat * d.scale) d.paper := by
    intro d
    have hno : ¬(r.grid = true ∧ 2 ≤ d.scale) := by simp [hgrid]
    exact if_neg hno
  refine ⟨?_, rfl, rfl⟩
  show ((Display.ofRequest r).canvas r.size r.grid).Magnifies _
    ((Display.ofRequest r).unscaled.canvas r.size r.grid)
  have hone : ∀ n, n * (Display.ofRequest r).unscaled.scale = n := Nat.mul_one
  rw [hcanvas, hcanvas, hone, hone]
  exact Canvas.magnifies_blank hs hw hh _

/-- **The frame at a scale is the frame at scale one, enlarged, in the same state.** The pen that
draws a text is a number of 64 bits, unless it has passed `2 ^ 32 - 1` characters. -/
theorem RenderRequest.render_eq_zoomed (r : RenderRequest) (hgrid : r.grid = false)
    (hscale : 1 ≤ r.scale) (hw : r.size.width.toNat * r.scale.toNat ≤ maxSide)
    (hh : r.size.height.toNat * r.scale.toNat ≤ maxSide)
    (hexplicit : r.fontMap.contains explicitKey) (hfonts : r.fontMap.Fits)
    (hops : ∀ op ∈ r.operations, op.isSolid) :
    r.render.drawing.state = ({ r with scale := 1 } : RenderRequest).render.drawing.state ∧
      r.render.drawing.canvas =
        ({ r with scale := 1 } : RenderRequest).render.drawing.canvas.zoomed r.scale.toNat ∧
      ∀ e ∈ r.fontMap.entries, ∀ (x : Int32) (text : List Char), text.length < 4294967295 →
        Fits64 (x.toInt + e.2.extent text) := by
  have hpos : 0 < r.scale.toNat := UInt32.le_iff_toNat_le.1 hscale
  have hds : (Display.ofRequest r).scale = r.scale.toNat := Nat.max_eq_left hpos
  have hstart := r.magnifies_blankDrawing hgrid (hds.symm ▸ hw) (hds.symm ▸ hh)
  have hfont : (r.blankDrawing.state.activeFont? (Display.ofRequest r).fonts).isSome :=
    DisplayState.isSome_activeFont?_start hexplicit
  have hrun := hstart.foldl_perform (hds.symm ▸ hpos) hfonts hfont hexplicit hops
  have hcanvas := hrun.canvas
  rw [hds] at hcanvas
  exact ⟨hrun.state, hcanvas.eq_zoomed hpos, fun e _ x _ hlength => e.2.fits64_pen x hlength⟩

/-- A box drawn leftward and upward, and a letter that is cut off at the right, in dots three pixels
wide. -/
def letterRequest : RenderRequest where
  size := ⟨8, 8⟩
  scale := 3
  invert := false
  grid := false
  operations := [.drawBox 5 4 (-3) (-2), .setDrawColor 0, .drawStr (-1) 4 "A",
    .setDrawColor 1, .setCursor 5 8, .print "AA", .println "A"]
  fonts := none
  font := some
    { name := "one"
      ascent := 3
      descent := 0
      lineHeight := 3
      glyphs := .ofList [(65, ⟨65, 3, 3, 0, -1, 4,
        [[false, true, false], [true, true, true], [true, false, true]]⟩)] }
  textUsesDrawColor := true

theorem RenderRequest.render_eq_zoomed_letter :
    letterRequest.render.drawing.state =
        ({ letterRequest with scale := 1 } : RenderRequest).render.drawing.state ∧
      letterRequest.render.drawing.canvas =
        ({ letterRequest with scale := 1 } : RenderRequest).render.drawing.canvas.zoomed 3 := by
  obtain ⟨hstate, hcanvas, -⟩ := letterRequest.render_eq_zoomed rfl (by decide) (by decide)
    (by decide) (by decide) (by decide) (by decide)
  exact ⟨hstate, hcanvas⟩

end SketchPreview
