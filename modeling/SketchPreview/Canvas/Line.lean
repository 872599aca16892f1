import SketchPreview.Canvas.Basic
import SketchPreview.Decimal.Binary64

/-!
# Lines

A line is drawn step by step from one end to the other. A line that leaves the canvas is first cut
to the part that crosses it: the cut is computed in floating point and its ends are brought back
onto the canvas, so the walk is never longer than a side.

* `Segment`, `Segment.steps`;
* `Walk`, `Walk.points`: the pixels of a segment, with the error term of Bresenham's algorithm;
* `Clip`, `clipSegment?`: the part of a segment on a canvas;
* `Canvas.line`.
-/

namespace SketchPreview

/-- Two ends. -/
structure Segment where
  x0 : Int
  y0 : Int
  x1 : Int
  y1 : Int
  deriving DecidableEq, Repr

namespace Segment

/-- The number of steps from one end to the other: the greater of the two distances. -/
def steps (s : Segment) : Nat := max (s.x1 - s.x0).natAbs (s.y1 - s.y0).natAbs

/-- A pixel on the way along a segment, with the error term that decides the next step. -/
structure Walk where
  x : Int
  y : Int
  error : Int
  deriving DecidableEq, Repr

/-- The beginning of the walk. -/
def start (s : Segment) : Walk :=
  ⟨s.x0, s.y0, ((s.x1 - s.x0).natAbs : Int) - (s.y1 - s.y0).natAbs⟩

/-- The next pixel of the walk. -/
def next (s : Segment) (w : Walk) : Walk :=
  let dx : Int := (s.x1 - s.x0).natAbs
  let dy : Int := -(s.y1 - s.y0).natAbs
  let twice := 2 * w.error
  let w' : Walk :=
    if dy ≤ twice then ⟨if s.x0 < s.x1 then w.x + 1 else w.x - 1, w.y, w.error + dy⟩ else w
  if twice ≤ dx then ⟨w'.x, if s.y0 < s.y1 then w'.y + 1 else w'.y - 1, w'.error + dx⟩ else w'

/-- The pixels from a place of the walk to its end, with at most `fuel` steps. -/
def walk (s : Segment) : Nat → Walk → List (Int × Int)
  | 0, w => [(w.x, w.y)]
  | fuel + 1, w =>
    if w.x = s.x1 ∧ w.y = s.y1 then [(w.x, w.y)] else (w.x, w.y) :: s.walk fuel (s.next w)

/-- The pixels of a segment, both ends included. -/
def points (s : Segment) : List (Int × Int) := s.walk s.steps s.start

end Segment

/-! ## Cutting -/

/-- The part of a segment that is left, in fractions of its length. -/
structure Clip where
  low : Float
  high : Float

/-- Cuts at one side: `p` is how fast the segment nears the side, and `q` its distance at the
start. Nothing is left when the segment lies beyond it. -/
def Clip.cut? (clip : Clip) (p q : Float) : Option Clip :=
  if p == 0.0 then if q < 0.0 then none else some clip
  else
    let t := q / p
    let clip : Clip :=
      if p < 0.0 then ⟨if clip.low < t then t else clip.low, clip.high⟩
      else ⟨clip.low, if t < clip.high then t else clip.high⟩
    if clip.high < clip.low then none else some clip

/-- The pixel row or column nearest to a coordinate, from `0` to `last`. -/
def nearestPixel (last : Int) (v : Float) : Int :=
  (Binary64.ofFloat v).toInt Binary64.roundAway 0 last

namespace Canvas

/-- The part of a segment that crosses the canvas. -/
def clipSegment? (c : Canvas) (s : Segment) : Option Segment :=
  if c.width = 0 ∨ c.height = 0 then none
  else if c.Holds s.x0 s.y0 ∧ c.Holds s.x1 s.y1 then some s
  else
    let right : Int := (c.width : Int) - 1
    let bottom : Int := (c.height : Int) - 1
    let x := Float.ofInt s.x0
    let y := Float.ofInt s.y0
    let dx := Float.ofInt s.x1 - x
    let dy := Float.ofInt s.y1 - y
    let clip? := ((Clip.mk 0.0 1.0).cut? (-dx) x).bind fun clip =>
      (clip.cut? dx (Float.ofInt right - x)).bind fun clip =>
        (clip.cut? (-dy) y).bind fun clip => clip.cut? dy (Float.ofInt bottom - y)
    clip?.map fun clip =>
      { x0 := nearestPixel right (x + clip.low * dx)
        y0 := nearestPixel bottom (y + clip.low * dy)
        x1 := nearestPixel right (x + clip.high * dx)
        y1 := nearestPixel bottom (y + clip.high * dy) }

/-- A line from `(x0, y0)` to `(x1, y1)`, both ends included. -/
def line (c : Canvas) (x0 y0 x1 y1 : Int) (value : UInt8) : Canvas :=
  match c.clipSegment? ⟨x0, y0, x1, y1⟩ with
  | some s => c.paint s.points value
  | none => c

end Canvas

end SketchPreview
