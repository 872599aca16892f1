import SketchPreview.Proofs.Canvas.Outline
import SketchPreview.Proofs.Render.Step

/-!
# Rectangles in display pixels

A display pixel is a square of canvas pixels, and a scale has 32 bits. The ends of a rectangle in
display pixels are therefore products that 64 bits can hold. Their sums need not be, but a sum that
saturates lies outside of every canvas.

* `Figure.squares`: the squares of the display pixels of a rectangle;
* `Operation.rectangle?`: what an operation draws, told over unbounded numbers;
* `mul_scale_bounds`, `mul64_scale`: products do not saturate;
* **`Span.contains_pixels`**: what an extent in display pixels covers;
* `Drawing.painted_fill`, `Drawing.painted_stroke`: solid rectangles and outlines;
* **`RenderRequest.perform_rectangle`**: the operations on rectangles draw what they should.
-/

namespace SketchPreview

/-- The squares of side `s` that the display pixels of a rectangle cover. -/
def Figure.squares (s x y w h : Int) : Figure :=
  {p | (min x (x + w) * s ≤ p.1 ∧ p.1 < max x (x + w) * s) ∧
    min y (y + h) * s ≤ p.2 ∧ p.2 < max y (y + h) * s}

/-- What an operation on rectangles draws where a display pixel has the side `s`. -/
def Operation.rectangle? (s : Int) : Operation → Option Figure
  | .drawPixel x y => some (.squares s x.toInt y.toInt 1 1)
  | .drawBox x y w h => some (.squares s x.toInt y.toInt w.toInt h.toInt)
  | .gfxFillRect x y w h => some (.squares s x.toInt y.toInt w.toInt h.toInt)
  | .gfxVLine x y h => some (.squares s x.toInt y.toInt 1 h.toInt)
  | .gfxHLine x y w => some (.squares s x.toInt y.toInt w.toInt 1)
  | .drawFrame x y w h =>
    some (.border (x.toInt * s) (y.toInt * s) ((x.toInt + w.toInt) * s) ((y.toInt + h.toInt) * s))
  | .gfxRect x y w h =>
    some (.border (x.toInt * s) (y.toInt * s) ((x.toInt + w.toInt) * s) ((y.toInt + h.toInt) * s))
  | _ => none

/-! ## Products -/

section Products

variable {n : Int} (hn : Fits32 n) {s : Nat} (hs : s < 4294967296)

include hn hs

theorem mul_scale_bounds : -max64 < n * s ∧ n * s < max64 := by
  have h0 : (0 : Int) ≤ s := Int.natCast_nonneg s
  have hl := Int.mul_le_mul_of_nonneg_right hn.1 h0
  have hr := Int.mul_le_mul_of_nonneg_right hn.2 h0
  unfold min32 at hl
  unfold max32 at hr
  unfold max64
  constructor <;> omega

theorem min64_lt_mul_scale : min64 < n * s :=
  Int.lt_trans (by decide) (mul_scale_bounds hn hs).1

theorem fits64_mul_scale : Fits64 (n * s) :=
  ⟨Int.le_of_lt (min64_lt_mul_scale hn hs), Int.le_of_lt (mul_scale_bounds hn hs).2⟩

theorem mul64_scale : mul64 n s = n * s := clamp64_of_fits (fits64_mul_scale hn hs)

theorem not_isGreatest_mul_scale : ¬Span.IsGreatest (n * s) := by
  have := mul_scale_bounds hn hs
  unfold Span.IsGreatest
  omega

end Products

/-- **On a canvas, an extent in display pixels covers the squares of the display pixels.** -/
theorem Span.contains_pixels {s : Nat} (hs : s < 4294967296) {start extent : Int}
    (hstart : Fits32 start) (hextent : Fits32 extent) {x : Int} (h0 : 0 ≤ x) (hx : x < maxSide) :
    (Span.ofExtent (mul64 start s) (mul64 extent s)).Contains x ↔
      min start (start + extent) * s ≤ x ∧ x < max start (start + extent) * s := by
  have h0' : (0 : Int) ≤ s := Int.natCast_nonneg s
  rw [mul64_scale hstart hs, mul64_scale hextent hs,
    contains_ofExtent (fits64_mul_scale hstart hs) (min64_lt_mul_scale hextent hs)
      (fits64_mul_scale hextent hs).2 h0 hx,
    ← Int.add_mul, min_mul_of_nonneg _ _ h0', max_mul_of_nonneg _ _ h0']

/-! ## Solid rectangles and outlines -/

namespace Drawing

variable (g : Drawing) {d : Display} (hs : d.scale < 4294967296) (x y w h : Int32)

include hs

theorem painted_fill :
    Canvas.Painted (.squares d.scale x.toInt y.toInt w.toInt h.toInt) (d.color g.state) g.canvas
      (g.fill d x y w h).canvas := by
  refine (Canvas.painted_fillRect ..).congr fun x' y' hp => ?_
  obtain ⟨⟨hx0, hx1⟩, hy0, hy1⟩ := hp.lt_maxSide
  exact and_congr (Span.contains_pixels hs (fits32_toInt x) (fits32_toInt w) hx0 hx1)
    (Span.contains_pixels hs (fits32_toInt y) (fits32_toInt h) hy0 hy1)

theorem painted_stroke :
    Canvas.Painted
      (.border (x.toInt * d.scale) (y.toInt * d.scale) ((x.toInt + w.toInt) * d.scale)
        ((y.toInt + h.toInt) * d.scale))
      (d.color g.state) g.canvas (g.stroke d x y w h).canvas := by
  have hfits (n : Int32) := fits64_mul_scale (fits32_toInt n) hs
  have hpixels (n : Int32) : d.pixels n = n.toInt * d.scale := mul64_scale (fits32_toInt n) hs
  rw [Int.add_mul, Int.add_mul, stroke, hpixels, hpixels, hpixels, hpixels]
  exact Canvas.painted_border (hfits x) (hfits y) (hfits w) (hfits h)
    (not_isGreatest_mul_scale (fits32_toInt w) hs) (not_isGreatest_mul_scale (fits32_toInt h) hs)
    _ _

end Drawing

theorem Display.scale_ofRequest_lt (r : RenderRequest) : (ofRequest r).scale < 4294967296 := by
  have hlt := r.scale.toNat_lt
  show max r.scale.toNat 1 < 4294967296
  omega

/-- **Saturation never shows in a frame.** For every request, at any scale, an operation on
rectangles gives the colour in force to the pixels that it covers over unbounded numbers, and leaves
all others and the state as they are. -/
theorem RenderRequest.perform_rectangle (r : RenderRequest) (g : Drawing) {op : Operation}
    {figure : Figure} (h : op.rectangle? (max r.scale.toNat 1 : Nat) = some figure) :
    Canvas.Painted figure ((Display.ofRequest r).color g.state) g.canvas
        (g.perform (.ofRequest r) op).canvas ∧
      (g.perform (.ofRequest r) op).state = g.state := by
  have hs := Display.scale_ofRequest_lt r
  cases op with
  | drawPixel x y =>
    obtain rfl := Option.some.inj h
    exact ⟨g.painted_fill hs x y 1 1, rfl⟩
  | drawBox x y w k | gfxFillRect x y w k =>
    obtain rfl := Option.some.inj h
    exact ⟨g.painted_fill hs x y w k, rfl⟩
  | gfxVLine x y k =>
    obtain rfl := Option.some.inj h
    exact ⟨g.painted_fill hs x y 1 k, rfl⟩
  | gfxHLine x y w =>
    obtain rfl := Option.some.inj h
    exact ⟨g.painted_fill hs x y w 1, rfl⟩
  | drawFrame x y w k | gfxRect x y w k =>
    obtain rfl := Option.some.inj h
    exact ⟨g.painted_stroke hs x y w k, rfl⟩
  | _ => cases h

/-- At the greatest scale, the frame with the greatest sides shows its upper and left edge, and
nothing beside them. -/
theorem RenderRequest.perform_rectangle_greatest :
    let r := { RenderRequest.ofSize ⟨4, 2⟩ with scale := 4294967295 }
    let g : Drawing := ⟨.blank 4 2 255, .start r.fontMap, 0⟩
    let op : Operation := .drawFrame 0 0 2147483647 2147483647
    (∃ figure, op.rectangle? (max r.scale.toNat 1 : Nat) = some figure) ∧
      (g.perform (.ofRequest r) op).canvas.get? 3 0 = some 0 ∧
      (g.perform (.ofRequest r) op).canvas.get? 0 1 = some 0 ∧
      (g.perform (.ofRequest r) op).canvas.get? 1 1 = some 255 := by
  intro r g op
  have hop : op.rectangle? (max r.scale.toNat 1 : Nat) = some _ := rfl
  obtain ⟨hpainted, -⟩ := perform_rectangle r g hop
  refine ⟨⟨_, hop⟩, hpainted.of_mem (by decide) ?_, hpainted.of_mem (by decide) ?_,
    (hpainted.of_not_mem ?_).trans (by decide)⟩ <;>
  · rw [Figure.mem_border_iff]
    decide

end SketchPreview
