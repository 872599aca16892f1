import SketchPreview.Canvas.Basic
import SketchPreview.Saturating

/-!
# Circles

The outline of a circle is what the midpoint walk visits: at step `y` of an octant it holds the
greatest `x` with `x * x - x + y * y < r * r`. Only the steps that can reach the canvas are taken,
and each one finds its `x` directly, from a guess that is corrected step by step.

A disc holds every pixel whose centre lies within its radius.

* `lowered`, `raised`, `midpoint`: the corrections and their result;
* `octantPoints`, `Canvas.circleSteps`, `Canvas.circlePoints`, `Canvas.circle`;
* `Canvas.disc`.
-/

namespace SketchPreview

/-- The greatest number up to `x` whose `x * x - x` lies below `d`, or zero. -/
def lowered (d : Int) : Nat → Nat
  | 0 => 0
  | x + 1 => if d ≤ ((x + 1) * x : Nat) then lowered d x else x + 1

/-- The first number from `x` on after which `x * x - x` no longer lies below `d`. -/
def raised (d : Int) (x : Nat) : Nat :=
  if ((x + 1) * x : Nat) < d then raised d (x + 1) else x
  termination_by (d - ((x + 1) * x : Nat)).toNat
  decreasing_by
    have h : (x + 1) * x < (x + 1 + 1) * (x + 1) := by
      have := Nat.mul_le_mul (show x + 1 ≤ x + 1 + 1 by omega) (Nat.le_refl x)
      rw [Nat.mul_succ]
      omega
    omega

/-- The step size that belongs to `d`, found from any guess. -/
def midpoint (d : Int) (guess : Nat) : Nat := raised d (lowered d guess)

/-- A guess at the step size that belongs to `d`. -/
def midpointGuess (d : Int) : Nat :=
  ((1.0 + (1.0 + 4.0 * Float.ofInt d).sqrt) / 2.0).toUInt64.toNat

/-- The `x` that the walk of radius `r` holds at step `y`. -/
def midpointX (r y : Int) : Int :=
  let d := r * r - y * y
  midpoint d (midpointGuess d)

/-- The eight reflections of `(x, y)` about the centre `(cx, cy)`. -/
def octantPoints (cx cy x y : Int) : List (Int × Int) :=
  [(x, y), (y, x), (-y, x), (-x, y), (-x, -y), (-y, -x), (y, -x), (x, -y)].map
    fun p => (add64 cx p.1, add64 cy p.2)

namespace Canvas

/-- The steps of the walk that can reach the canvas, in ascending order: the distances of its rows
and columns from the centre, as far as the radius. -/
def circleSteps (c : Canvas) (cx cy r : Int) : List Int :=
  let distances (side : Nat) (centre : Int) : List Int :=
    (List.range side).map fun (i : Nat) => abs64 (sub64 i centre)
  let steps := (distances c.height cy ++ distances c.width cx).filter (· ≤ r)
  steps.mergeSort.eraseReps

/-- The pixels of the outline of a circle, and some that do not lie on the canvas. The walk is over
where `x` falls below `y`. -/
def circlePoints (c : Canvas) (cx cy r : Int) : List (Int × Int) :=
  let walked := (c.circleSteps cx cy r).map fun y => (midpointX r y, y)
  (walked.takeWhile fun p => p.2 ≤ p.1).flatMap fun p => octantPoints cx cy p.1 p.2

/-- The outline of a circle. A radius that is not positive gives a single pixel. -/
def circle (c : Canvas) (cx cy r : Int) (value : UInt8) : Canvas :=
  if r ≤ 0 then c.set cx cy value else c.paint (c.circlePoints cx cy r) value

/-- Whether the centre of a pixel lies within a distance of `(cx, cy)` whose square is `limit`. -/
@[inline]
def withinDisc (cx cy limit : Float) (x y : Nat) : Bool :=
  let dx := x.toUInt64.toFloat + 0.5 - cx
  let dy := y.toUInt64.toFloat + 0.5 - cy
  dx * dx + dy * dy ≤ limit

/-- A filled circle. Only its bounding box is looked at. -/
def disc (c : Canvas) (cx cy r : Int) (value : UInt8) : Canvas :=
  let r := abs64 r
  let radius := Float.ofInt r
  let limit := radius * radius
  let fx := Float.ofInt cx
  let fy := Float.ofInt cy
  let left := sub64 (sub64 cx r) 1
  let top := sub64 (sub64 cy r) 1
  c.paintRegion left.toNat (add64 cx r + 1).toNat top.toNat (add64 cy r + 1).toNat
    (fun x y => withinDisc fx fy limit x y) value

end Canvas

end SketchPreview
