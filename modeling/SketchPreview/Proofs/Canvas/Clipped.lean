import SketchPreview.Proofs.Canvas.Crossing
import SketchPreview.Proofs.Canvas.Figure

/-!
# Lines that leave the canvas

A line with both ends on the canvas shows the walk between them. Of a line that leaves the canvas
the part that is left after the cut is walked anew, from ends that have been brought to whole
pixels, and so it need not be a part of the walk of the uncut line. It stays next to it.

* `clipSegment?_of_holds`, `exists_of_clipSegment?`: what the cut leaves;
* `near_of_clipSegment?`: the ends of the cut are at most half a pixel off;
* `line_eq_points`: a line with both ends on the canvas;
* `line_within_one_pixel`: each pixel of a line lies on the uncut line or next to a pixel of it, and
  nothing is lost but at the sides;
* `line_cut_steeper`: and it need not lie on it.
-/

namespace SketchPreview

open Segment

theorem Canvas.clipSegment?_of_holds {c : Canvas} {s : Segment} (h0 : c.Holds s.x0 s.y0)
    (h1 : c.Holds s.x1 s.y1) : c.clipSegment? s = some s := by
  have hne : ¬(c.width = 0 ∨ c.height = 0) := by
    obtain ⟨hx0, hx, hy0, hy⟩ := h0
    omega
  rw [Canvas.clipSegment?, if_neg hne, if_pos ⟨h0, h1⟩]

theorem Canvas.exists_of_clipSegment? {c : Canvas} {s r : Segment} (h : c.clipSegment? s = some r) :
    (0 < c.width ∧ 0 < c.height) ∧
      ((c.Holds s.x0 s.y0 ∧ c.Holds s.x1 s.y1) ∧ r = s ∨
        ∃ clip, s.clip? (c.width - 1) (c.height - 1) = some clip ∧
          r = s.cutTo (c.width - 1) (c.height - 1) clip) := by
  have hne : ¬(c.width = 0 ∨ c.height = 0) := by
    intro hzero
    rw [Canvas.clipSegment?, if_pos hzero] at h
    cases h
  refine ⟨by omega, ?_⟩
  rw [Canvas.clipSegment?_eq hne] at h
  split at h
  · next hboth => exact .inl ⟨hboth, (Option.some.inj h).symm⟩
  · obtain ⟨clip, hclip, rfl⟩ := Option.map_eq_some_iff.1 h
    exact .inr ⟨clip, hclip, rfl⟩

theorem Canvas.near_of_clipSegment? {c : Canvas} {s r : Segment}
    (hs : s.IsModerate (c.width - 1) (c.height - 1)) (h : c.clipSegment? s = some r) :
    s.Near (r.x0, r.y0) ∧ s.Near (r.x1, r.y1) := by
  obtain ⟨hpos, ⟨-, rfl⟩ | ⟨clip, hclip, rfl⟩⟩ := exists_of_clipSegment? h
  · exact ⟨r.near_start, r.near_end⟩
  · exact near_cutTo (by omega) (by omega) hs hclip

theorem Figure.line_eq_points {c : Canvas} {s : Segment} (h0 : c.Holds s.x0 s.y0)
    (h1 : c.Holds s.x1 s.y1) : Figure.line c s = {p | p ∈ s.points} := by
  simp [Figure.line, Canvas.clipSegment?_of_holds h0 h1]

theorem Canvas.isModerate_of_holds {b : Canvas} {s : Segment} (h0 : b.Holds s.x0 s.y0)
    (h1 : b.Holds s.x1 s.y1) (a : Canvas) : s.IsModerate (a.width - 1) (a.height - 1) := by
  have hw := a.width_le
  have hh := a.height_le
  have hw' := b.width_le
  have hh' := b.height_le
  have hside : maxSide = 2 ^ 13 := rfl
  obtain ⟨hx0, hx0', hy0, hy0'⟩ := h0
  obtain ⟨hx1, hx1', hy1, hy1'⟩ := h1
  constructor <;> constructor <;> rw [abs_lt] <;> omega

theorem Figure.exists_near_of_mem_line {c : Canvas} {s : Segment}
    (hs : s.IsModerate (c.width - 1) (c.height - 1)) {p : ℤ × ℤ} (hp : p ∈ Figure.line c s) :
    ∃ q ∈ s.points, |p.1 - q.1| + |p.2 - q.2| ≤ 1 := by
  obtain ⟨r, hclip, hmem⟩ := hp
  obtain ⟨h0, h1⟩ := Canvas.near_of_clipSegment? hs hclip
  exact exists_mem_points_near (h0.spans.trans h1.spans (spans_of_mem_points hmem))
    (abs_cross_le h0.cross h1.cross hmem)

theorem Figure.exists_near_of_mem_points {c : Canvas} {s : Segment}
    (hs : s.IsModerate (c.width - 1) (c.height - 1)) {q : ℤ × ℤ} (hq : q ∈ s.points)
    (h0 : c.Holds (q.1 - 1) (q.2 - 1)) (h1 : c.Holds (q.1 + 1) (q.2 + 1)) :
    ∃ p ∈ Figure.line c s, |p.1 - q.1| + |p.2 - q.2| ≤ 1 := by
  obtain ⟨hx0, -, hy0, -⟩ := h0
  obtain ⟨-, hx1, -, hy1⟩ := h1
  have hne : ¬(c.width = 0 ∨ c.height = 0) := by omega
  by_cases hboth : c.Holds s.x0 s.y0 ∧ c.Holds s.x1 s.y1
  · refine ⟨q, ?_, by simp⟩
    rwa [Figure.line_eq_points hboth.1 hboth.2]
  · -- a segment of a single pixel would be on the canvas
    have hpos : 0 < s.steps := by
      obtain ⟨hx, hy⟩ := spans_of_mem_points hq
      rw [Set.mem_uIcc] at hx hy
      by_contra hzero
      unfold steps at hzero
      exact hboth ⟨⟨by omega, by omega, by omega, by omega⟩,
        by omega, by omega, by omega, by omega⟩
    obtain ⟨clip, hclip, p, hp, hnear⟩ := exists_mem_points_cutTo hs hpos hq (by omega) (by omega)
      (by omega) (by omega)
    refine ⟨p, ⟨_, ?_, hp⟩, hnear⟩
    rw [Canvas.clipSegment?_eq hne, if_neg hboth, hclip, Option.map_some]

namespace Canvas

/-- **A cut keeps a line within one pixel.** Let the ends of a line lie on the canvas `b`. If they
lie on the canvas `a` as well, the line is the same on both. Otherwise each pixel that it sets on
`a` is one that it sets on `b`, or the next one to it in its row or column; and so is, the other way
round, each pixel that it sets on `b` inside of `a`, the outermost rows and columns excepted. -/
theorem line_within_one_pixel (a b : Canvas) {x0 y0 x1 y1 : ℤ} (h0 : b.Holds x0 y0)
    (h1 : b.Holds x1 y1) (value : UInt8) :
    Painted (.line a ⟨x0, y0, x1, y1⟩) value a (a.line x0 y0 x1 y1 value) ∧
      Painted (.line b ⟨x0, y0, x1, y1⟩) value b (b.line x0 y0 x1 y1 value) ∧
      (a.Holds x0 y0 → a.Holds x1 y1 →
        Figure.line a ⟨x0, y0, x1, y1⟩ = Figure.line b ⟨x0, y0, x1, y1⟩) ∧
      (∀ p ∈ Figure.line a ⟨x0, y0, x1, y1⟩, ∃ q ∈ Figure.line b ⟨x0, y0, x1, y1⟩,
        |p.1 - q.1| + |p.2 - q.2| ≤ 1) ∧
      ∀ q ∈ Figure.line b ⟨x0, y0, x1, y1⟩,
        a.Holds (q.1 - 1) (q.2 - 1) → a.Holds (q.1 + 1) (q.2 + 1) →
        ∃ p ∈ Figure.line a ⟨x0, y0, x1, y1⟩, |p.1 - q.1| + |p.2 - q.2| ≤ 1 := by
  have hb : Figure.line b ⟨x0, y0, x1, y1⟩ = {p | p ∈ (Segment.mk x0 y0 x1 y1).points} :=
    Figure.line_eq_points h0 h1
  have hs : (Segment.mk x0 y0 x1 y1).IsModerate (a.width - 1) (a.height - 1) :=
    isModerate_of_holds h0 h1 a
  rw [hb]
  refine ⟨painted_line .., hb ▸ painted_line .., fun ha0 ha1 => Figure.line_eq_points ha0 ha1,
    fun p hp => Figure.exists_near_of_mem_line hs hp,
    fun q hq hq0 hq1 => Figure.exists_near_of_mem_points hs hq hq0 hq1⟩

/-- The line from `(0, 0)` to `(3, 2)` on a canvas of width three is next to that on a canvas of
width four, and it comes next to the pixel in the middle. -/
theorem line_within_one_pixel_cut :
    (blank 4 3 255).Holds 0 0 ∧ (blank 4 3 255).Holds 3 2 ∧
      (∀ p ∈ Figure.line (blank 3 3 255) ⟨0, 0, 3, 2⟩,
        ∃ q ∈ Figure.line (blank 4 3 255) ⟨0, 0, 3, 2⟩, |p.1 - q.1| + |p.2 - q.2| ≤ 1) ∧
      ∃ p ∈ Figure.line (blank 3 3 255) ⟨0, 0, 3, 2⟩, |p.1 - 1| + |p.2 - 1| ≤ 1 :=
  have h0 : (blank 4 3 255).Holds 0 0 := by decide
  have h1 : (blank 4 3 255).Holds 3 2 := by decide
  have hmem : ((1, 1) : ℤ × ℤ) ∈ Figure.line (blank 4 3 255) ⟨0, 0, 3, 2⟩ := by
    rw [Figure.line_eq_points h0 h1]
    decide
  have h := (line_within_one_pixel (blank 3 3 255) (blank 4 3 255) h0 h1 0).2.2.2
  ⟨h0, h1, h.1, h.2 (1, 1) hmem (by decide) (by decide)⟩

/-- **A cut line can leave its place.** From `(0, 0)` to `(3, 1)`, a canvas of width four shows the
second pixel in the upper row and a canvas of width three shows it in the lower one. -/
theorem line_cut_steeper :
    (blank 4 2 255).Holds 0 0 ∧ (blank 4 2 255).Holds 3 1 ∧ (blank 3 2 255).Holds 1 0 ∧
      ((blank 4 2 255).line 0 0 3 1 0).get? 1 0 = some 0 ∧
      ((blank 3 2 255).line 0 0 3 1 0).get? 1 0 = some 255 := by
  decide +kernel

end Canvas

end SketchPreview
