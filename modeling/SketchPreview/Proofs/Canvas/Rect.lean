import Mathlib.Logic.Basic
import SketchPreview.Canvas.Rect

/-!
# Which places a span covers

Sums saturate far outside of every canvas. On a canvas, a span therefore reaches from the one of its
ends to the other as it does over unbounded numbers, but for two things. The negation of the least
extent is one too small, so that extent counts from the place before its start. And an edge is one
place longer than its extent, so an edge along the greatest extents lacks its far end.

* `Span.Contains`: whether a place lies between the ends of a span;
* `Span.origin`, `Span.IsGreatest`: where saturation shows;
* `start_ofExtent`, `extent_ofExtent`: the span of an extent;
* **`Span.contains_ofExtent_iff`**, **`Span.contains_ofExtent`**: what an extent covers on a canvas;
* `start_eq_iff`, `stop_eq_iff`, `contains_one`, `contains_edge`: the edges across and along it;
* `Canvas.get?_fillRect_of_contains`: a rectangle covers what both of its spans contain.
-/

namespace SketchPreview

namespace Span

/-- Whether a place lies between the ends of a span. -/
def Contains (s : Span) (x : Int) : Prop := s.start ≤ x ∧ x < s.stop

instance (s : Span) (x : Int) : Decidable (s.Contains x) := inferInstanceAs (Decidable (_ ∧ _))

/-- Where an extent counts from: its start, or the place before for the least extent. -/
def origin (start extent : Int) : Int := if extent = min64 then start - 1 else start

/-- Whether an extent is as large as its negation allows, so that an edge along it saturates. -/
def IsGreatest (extent : Int) : Prop := max64 ≤ (extent.natAbs : Int)

instance : DecidablePred IsGreatest := fun extent =>
  inferInstanceAs (Decidable (max64 ≤ (extent.natAbs : Int)))

theorem IsGreatest.lt {extent : Int} (h : IsGreatest extent) (start : Int) :
    min (origin start extent) (start + extent) < max (origin start extent) (start + extent) := by
  unfold IsGreatest max64 at h
  unfold origin min64
  omega

theorem ofExtent_of_nonneg {start extent : Int} (h : 0 ≤ extent) :
    ofExtent start extent = ⟨start, extent⟩ := if_neg (Int.not_lt.2 h)

theorem start_ofExtent {start extent : Int} (hs : Fits64 start) (he : Fits64 extent) :
    (ofExtent start extent).start = max min64 (min start (start + extent)) := by
  unfold Fits64 min64 max64 at *
  unfold ofExtent
  split <;> simp only [add64, clamp64, min64, max64] <;> omega

theorem extent_ofExtent {start extent : Int} (he : Fits64 extent) :
    (ofExtent start extent).extent = min (extent.natAbs : Int) max64 := by
  unfold Fits64 min64 max64 at *
  unfold ofExtent
  split <;> simp only [neg64, clamp64, min64, max64] <;> omega

theorem fits64_start {start extent : Int} (hs : Fits64 start) :
    Fits64 (ofExtent start extent).start := by
  unfold ofExtent
  split
  · exact fits64_clamp64 _
  · exact hs

section Axis

variable {start extent x : Int} (hs : Fits64 start) (he : Fits64 extent) (h0 : 0 ≤ x)
  (hx : x < maxSide)

include hs h0 hx

theorem contains_one : (ofExtent start 1).Contains x ↔ x = start := by
  rw [ofExtent_of_nonneg (by decide)]
  simp only [Fits64, Contains, stop, add64, clamp64, min64, max64, maxSide] at *
  omega

include he

theorem start_eq_iff :
    x = (ofExtent start extent).start ↔ x = min (origin start extent) (start + extent) := by
  rw [start_ofExtent hs he]
  unfold origin Fits64 min64 max64 maxSide at *
  omega

theorem stop_eq_iff :
    x = (ofExtent start extent).stop ↔ x = max (origin start extent) (start + extent) := by
  rw [stop, start_ofExtent hs he, extent_ofExtent he]
  simp only [origin, Fits64, add64, clamp64, min64, max64, maxSide] at *
  omega

/-- **On a canvas, an extent covers what lies between its origin and its far end.** -/
theorem contains_ofExtent_iff :
    (ofExtent start extent).Contains x ↔
      min (origin start extent) (start + extent) ≤ x ∧
        x < max (origin start extent) (start + extent) := by
  rw [Contains, stop, start_ofExtent hs he, extent_ofExtent he]
  simp only [origin, Fits64, add64, clamp64, min64, max64, maxSide] at *
  omega

/-- On a canvas, an edge along an extent reaches from the one end to the other, but for the far end
of the greatest extents. -/
theorem contains_edge :
    (ofExtent (ofExtent start extent).start (add64 (ofExtent start extent).extent 1)).Contains x ↔
      (min (origin start extent) (start + extent) ≤ x ∧
        x ≤ max (origin start extent) (start + extent)) ∧
        ¬(IsGreatest extent ∧ x = max (origin start extent) (start + extent)) := by
  have hlength : 0 ≤ add64 (ofExtent start extent).extent 1 := by
    rw [extent_ofExtent he]
    simp only [add64, clamp64, min64, max64]
    omega
  rw [ofExtent_of_nonneg hlength, Contains, stop, start_ofExtent hs he, extent_ofExtent he]
  simp only [origin, IsGreatest, Fits64, add64, clamp64, min64, max64, maxSide] at *
  omega

end Axis

/-- **On a canvas, an extent covers what it covers over unbounded numbers.** The least 64-bit number
is left out: its negation saturates. -/
theorem contains_ofExtent {start extent x : Int} (hs : Fits64 start) (hl : min64 < extent)
    (hr : extent ≤ max64) (h0 : 0 ≤ x) (hx : x < maxSide) :
    (Span.ofExtent start extent).Contains x ↔
      min start (start + extent) ≤ x ∧ x < max start (start + extent) := by
  rw [contains_ofExtent_iff hs ⟨Int.le_of_lt hl, hr⟩ h0 hx, origin, if_neg (Int.ne_of_gt hl)]

end Span

theorem Canvas.get?_fillRect_of_contains (c : Canvas) (x y w h : Int) (value : UInt8)
    (x' y' : Int) :
    (c.fillRect x y w h value).get? x' y' =
      if c.Holds x' y' ∧ (Span.ofExtent x w).Contains x' ∧ (Span.ofExtent y h).Contains y' then
        some value
      else c.get? x' y' := by
  rw [get?_fillRect]
  refine if_congr (and_congr_right fun _ => ?_) rfl rfl
  exact and_assoc.symm

end SketchPreview
