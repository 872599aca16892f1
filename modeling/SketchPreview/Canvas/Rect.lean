import SketchPreview.Canvas.Basic
import SketchPreview.Saturating

/-!
# Rectangles

An extent may be negative: the rectangle then grows to the left or upward. Coordinates are 64-bit
numbers and their sums saturate.

* `Span`, `Span.ofExtent`: an extent turned so that it grows forward;
* `Canvas.fillRect`: a solid rectangle;
* `Canvas.strokeRect`: an outline one pixel thick, both of its corners included;
* `get?_fillRect`.
-/

namespace SketchPreview

/-- A start and an extent that is not negative. -/
structure Span where
  start : Int
  extent : Int
  deriving DecidableEq, Repr

/-- The span between a start and the point an extent away from it. -/
def Span.ofExtent (start extent : Int) : Span :=
  if extent < 0 then ⟨add64 start extent, neg64 extent⟩ else ⟨start, extent⟩

/-- The point behind a span. -/
def Span.stop (s : Span) : Int := add64 s.start s.extent

namespace Canvas

/-- A solid rectangle. -/
def fillRect (c : Canvas) (x y w h : Int) (value : UInt8) : Canvas :=
  let across := Span.ofExtent x w
  let down := Span.ofExtent y h
  c.paintRegion across.start.toNat across.stop.toNat down.start.toNat down.stop.toNat
    (fun _ _ => true) value

/-- An outline through the corners `(x, y)` and `(x + w, y + h)`. -/
def strokeRect (c : Canvas) (x y w h : Int) (value : UInt8) : Canvas :=
  let across := Span.ofExtent x w
  let down := Span.ofExtent y h
  let width := add64 across.extent 1
  let height := add64 down.extent 1
  let c := c.fillRect across.start down.start width 1 value
  let c := c.fillRect across.start down.stop width 1 value
  let c := c.fillRect across.start down.start 1 height value
  c.fillRect across.stop down.start 1 height value

/-- A solid rectangle shows its value between the ends of its spans. -/
theorem get?_fillRect (c : Canvas) (x y w h : Int) (value : UInt8) (x' y' : Int) :
    (c.fillRect x y w h value).get? x' y' =
      if c.Holds x' y' ∧ (Span.ofExtent x w).start ≤ x' ∧ x' < (Span.ofExtent x w).stop ∧
          (Span.ofExtent y h).start ≤ y' ∧ y' < (Span.ofExtent y h).stop then some value
      else c.get? x' y' := by
  rw [fillRect, get?_paintRegion]
  by_cases hc : c.Holds x' y'
  · obtain ⟨hx, -, hy, -⟩ := id hc
    by_cases hp : (Span.ofExtent x w).start ≤ x' ∧ x' < (Span.ofExtent x w).stop ∧
        (Span.ofExtent y h).start ≤ y' ∧ y' < (Span.ofExtent y h).stop
    · rw [if_pos ⟨hc, by omega, by omega, by omega, by omega, rfl⟩, if_pos ⟨hc, hp⟩]
    · rw [if_neg, if_neg (fun e => hp e.2)]
      rintro ⟨-, h1, h2, h3, h4, -⟩
      exact hp ⟨by omega, by omega, by omega, by omega⟩
  · rw [if_neg (fun e => hc e.1), if_neg (fun e => hc e.1)]

end Canvas

end SketchPreview
