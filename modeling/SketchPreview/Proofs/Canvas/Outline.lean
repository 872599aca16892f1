import SketchPreview.Proofs.Canvas.Figure

/-!
# Rectangles between corners

Over unbounded numbers, a rectangle is told by two corners. The drawing functions compute its ends
with sums and negations that saturate; on a canvas that shows in two places only. A rectangle of the
least extent counts from the place before its start. And where both extents of an outline are as
large as their negation allows, neither of the edges that meet in its far corner reaches it.

* `Figure.solid`, `Figure.border`: rectangles over unbounded numbers;
* `Figure.outline`: the border but for that corner;
* **`Canvas.painted_solid`**, **`Canvas.painted_outline`**: what the drawing functions paint;
* `Canvas.painted_border`: an outline with other extents;
* **`Canvas.rectangles_of_int64`**: both, for all 64-bit numbers;
* `Canvas.rectangles_saturated`: where saturation shows.
-/

namespace SketchPreview

namespace Figure

/-- The places between two corners: from the lesser column and row to the greater ones, which are
left out. -/
def solid (x0 y0 x1 y1 : Int) : Figure :=
  {p | (min x0 x1 ≤ p.1 ∧ p.1 < max x0 x1) ∧ min y0 y1 ≤ p.2 ∧ p.2 < max y0 y1}

/-- The border of the rectangle with two corners, which belong to it. -/
def border (x0 y0 x1 y1 : Int) : Figure :=
  {p | (min x0 x1 ≤ p.1 ∧ p.1 ≤ max x0 x1) ∧ (min y0 y1 ≤ p.2 ∧ p.2 ≤ max y0 y1) ∧
    ((p.1 = x0 ∨ p.1 = x1) ∨ p.2 = y0 ∨ p.2 = y1)}

theorem mem_border_iff {x0 y0 x1 y1 x y : Int} :
    (x, y) ∈ border x0 y0 x1 y1 ↔
      (min x0 x1 ≤ x ∧ x ≤ max x0 x1) ∧ (min y0 y1 ≤ y ∧ y ≤ max y0 y1) ∧
        ((x = min x0 x1 ∨ x = max x0 x1) ∨ y = min y0 y1 ∨ y = max y0 y1) := by
  simp only [border, Set.mem_ofPred_eq]
  omega

/-- The border that an outline shows: it lacks the far corner if both extents are as large as their
negation allows. -/
def outline (x y w h : Int) : Figure :=
  {p | p ∈ border (Span.origin x w) (Span.origin y h) (x + w) (y + h) ∧
    ¬((Span.IsGreatest w ∧ p.1 = max (Span.origin x w) (x + w)) ∧
      Span.IsGreatest h ∧ p.2 = max (Span.origin y h) (y + h))}

theorem outline_eq_border {w h : Int} (hw : ¬Span.IsGreatest w) (hh : ¬Span.IsGreatest h)
    (x y : Int) : outline x y w h = border x y (x + w) (y + h) := by
  have horigin {extent : Int} (he : ¬Span.IsGreatest extent) (start : Int) :
      Span.origin start extent = start := by
    refine if_neg ?_
    rintro rfl
    exact he (by decide)
  ext p
  simp only [outline, horigin hw, horigin hh, hw, hh, false_and, not_false_eq_true, and_true,
    Set.mem_ofPred_eq]

end Figure

namespace Canvas

theorem Holds.lt_maxSide {c : Canvas} {x y : Int} (h : c.Holds x y) :
    (0 ≤ x ∧ x < maxSide) ∧ 0 ≤ y ∧ y < maxSide := by
  obtain ⟨hx0, hx, hy0, hy⟩ := h
  have := c.width_le
  have := c.height_le
  omega

section Rectangles

variable {x y w h : Int} (hx : Fits64 x) (hy : Fits64 y) (hw : Fits64 w) (hh : Fits64 h)

include hx hy hw hh

/-- **A solid rectangle covers what lies between its corners.** -/
theorem painted_solid (c : Canvas) (value : UInt8) :
    Painted (.solid (Span.origin x w) (Span.origin y h) (x + w) (y + h)) value c
      (c.fillRect x y w h value) := by
  refine (c.painted_fillRect x y w h value).congr fun x' y' hp => ?_
  obtain ⟨⟨hx0, hx1⟩, hy0, hy1⟩ := hp.lt_maxSide
  exact and_congr (Span.contains_ofExtent_iff hx hw hx0 hx1)
    (Span.contains_ofExtent_iff hy hh hy0 hy1)

/-- **An outline covers the border between its corners**, but for the far one where both of its
extents are as large as their negation allows. -/
theorem painted_outline (c : Canvas) (value : UInt8) :
    Painted (.outline x y w h) value c (c.strokeRect x y w h value) := by
  refine (c.painted_strokeRect x y w h value).congr fun x' y' hp => ?_
  obtain ⟨⟨hx0, hx1⟩, hy0, hy1⟩ := hp.lt_maxSide
  have hright : Fits64 (Span.ofExtent x w).stop := fits64_clamp64 _
  have hbottom : Fits64 (Span.ofExtent y h).stop := fits64_clamp64 _
  simp only [Figure.frame, Figure.rect, Figure.outline, Set.mem_union, Set.mem_ofPred_eq,
    Figure.mem_border_iff, Span.contains_edge hx hw hx0 hx1, Span.contains_edge hy hh hy0 hy1,
    Span.contains_one (Span.fits64_start hx) hx0 hx1, Span.contains_one hright hx0 hx1,
    Span.contains_one (Span.fits64_start hy) hy0 hy1, Span.contains_one hbottom hy0 hy1,
    Span.start_eq_iff hx hw hx0 hx1, Span.start_eq_iff hy hh hy0 hy1,
    Span.stop_eq_iff hx hw hx0 hx1, Span.stop_eq_iff hy hh hy0 hy1]
  -- an end that one edge lacks belongs to the edge across, unless that one lacks it too
  have hwide := fun hg : Span.IsGreatest w => hg.lt x
  have htall := fun hg : Span.IsGreatest h => hg.lt y
  by_cases hgw : Span.IsGreatest w <;> by_cases hgh : Span.IsGreatest h <;>
    simp only [hgw, hgh, true_and, false_and, not_false_eq_true, and_true, and_false,
      false_imp_iff, true_imp_iff] at hwide htall ⊢ <;>
    omega

theorem painted_border (hw' : ¬Span.IsGreatest w) (hh' : ¬Span.IsGreatest h) (c : Canvas)
    (value : UInt8) :
    Painted (.border x y (x + w) (y + h)) value c (c.strokeRect x y w h value) := by
  rw [← Figure.outline_eq_border hw' hh']
  exact painted_outline hx hy hw hh c value

end Rectangles

theorem fits64_toInt (n : Int64) : Fits64 n.toInt := ⟨n.le_toInt, n.toInt_le⟩

/-- **What rectangles show for all 64-bit numbers.** A solid rectangle shows what lies between its
corners, and an outline the border between them. But a rectangle of the least extent counts from the
place before its start, and an outline lacks the far corner where both of its extents are as large
as their negation allows. -/
theorem rectangles_of_int64 (c : Canvas) (x y w h : Int64) (value : UInt8) :
    Painted (.solid (Span.origin x.toInt w.toInt) (Span.origin y.toInt h.toInt)
        (x.toInt + w.toInt) (y.toInt + h.toInt)) value c
      (c.fillRect x.toInt y.toInt w.toInt h.toInt value) ∧
    Painted {p | p ∈ Figure.border (Span.origin x.toInt w.toInt) (Span.origin y.toInt h.toInt)
          (x.toInt + w.toInt) (y.toInt + h.toInt) ∧
        ¬((Span.IsGreatest w.toInt ∧ p.1 = max (Span.origin x.toInt w.toInt) (x.toInt + w.toInt)) ∧
          Span.IsGreatest h.toInt ∧ p.2 = max (Span.origin y.toInt h.toInt) (y.toInt + h.toInt))}
      value c (c.strokeRect x.toInt y.toInt w.toInt h.toInt value) :=
  ⟨painted_solid (fits64_toInt x) (fits64_toInt y) (fits64_toInt w) (fits64_toInt h) c value,
    painted_outline (fits64_toInt x) (fits64_toInt y) (fits64_toInt w) (fits64_toInt h) c value⟩

/-- **Saturation shows.** To the left of column three, a solid rectangle of the least width lacks
column two, and an outline of that width lacks column three, where its corners are. An outline of
the greatest width and height lacks the corner in column one and row one. -/
theorem rectangles_saturated :
    ¬Painted (.solid 3 0 (3 + min64) 1) 0 (blank 4 1 255) ((blank 4 1 255).fillRect 3 0 min64 1 0) ∧
    ¬Painted (.border 3 0 (3 + min64) 0) 0 (blank 4 1 255)
      ((blank 4 1 255).strokeRect 3 0 min64 0 0) ∧
    ¬Painted (.border (1 - max64) (1 - max64) 1 1) 0 (blank 2 2 255)
      ((blank 2 2 255).strokeRect (1 - max64) (1 - max64) max64 max64 0) := by
  refine ⟨fun h => ?_, fun h => ?_, fun h => ?_⟩
  · have hshown := h.of_mem (x := 2) (y := 0) (by decide) (by simp [Figure.solid, min64])
    revert hshown
    decide +kernel
  · have hshown := h.of_mem (x := 3) (y := 0) (by decide) (by simp [Figure.border, min64])
    revert hshown
    decide +kernel
  · have hshown := h.of_mem (x := 1) (y := 1) (by decide) (by simp [Figure.border, max64])
    revert hshown
    decide +kernel

end Canvas

end SketchPreview
