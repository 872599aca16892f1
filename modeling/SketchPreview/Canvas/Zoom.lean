import SketchPreview.Canvas.Basic

/-!
# Enlarging

A canvas is enlarged by a whole factor: each pixel becomes a square. The factor is cut so that no
side grows too long.

* `Canvas.zoomFactor`, `Canvas.zoomed`;
* `zoomedSide_le`.
-/

namespace SketchPreview.Canvas

/-- The longer side, or one for a canvas without pixels. -/
def longest (c : Canvas) : Nat := max (max c.width c.height) 1

/-- The factor by which a canvas is enlarged when `factor` is asked for. -/
def zoomFactor (c : Canvas) (factor : Nat) : Nat :=
  max 1 (min factor (max (maxSide / c.longest) 1))

theorem zoomedSide_le (c : Canvas) (factor : Nat) {side : Nat} (h : side ≤ c.longest)
    (hs : side ≤ maxSide) : side * c.zoomFactor factor ≤ maxSide := by
  by_cases hf : c.zoomFactor factor = 1
  · rw [hf, Nat.mul_one]; exact hs
  · have hle : c.zoomFactor factor ≤ maxSide / c.longest := by
      simp only [zoomFactor] at hf ⊢; omega
    calc side * c.zoomFactor factor ≤ c.longest * (maxSide / c.longest) := Nat.mul_le_mul h hle
      _ ≤ maxSide := Nat.mul_div_le _ _

/-- The canvas with each pixel enlarged to a square. -/
def zoomed (c : Canvas) (factor : Nat) : Canvas :=
  let f := c.zoomFactor factor
  let width := c.width * f
  { width := width
    height := c.height * f
    pixels := Bytes.generate (width * (c.height * f)) fun i =>
      c.pixels.get! (i / width / f * c.width + i % width / f)
    size_eq := Bytes.size_generate _ _
    width_le := c.zoomedSide_le factor (by simp only [longest]; omega) c.width_le
    height_le := c.zoomedSide_le factor (by simp only [longest]; omega) c.height_le }

end SketchPreview.Canvas
