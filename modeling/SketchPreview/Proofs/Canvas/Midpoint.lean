import Mathlib.Tactic.Linarith
import SketchPreview.Canvas.Circle

/-!
# The midpoint of a step

At step `y` the walk of radius `r` holds the `x` with `x * x - x < r * r - y * y ≤ x * x + x`. There
is at most one such `x`, and the corrections find it from every guess.

* `IsMidpoint`, `IsMidpoint.unique`, `IsMidpoint.mono`;
* `lowered_lt`, `raised_spec`: what either correction reaches;
* **`isMidpoint_midpoint`**, `midpoint_of_nonpos`: their result, whatever the guess.
-/

namespace SketchPreview

/-- The number `x` is the one that a walk holds where `d` is left of the square of its radius. -/
def IsMidpoint (d x : Int) : Prop := x * x - x < d ∧ d ≤ x * x + x

theorem mul_self_add_le {a b : Int} (ha : -1 ≤ a) (h : a < b) : a * a + a ≤ b * b - b := by
  rcases eq_or_lt_of_le (Int.add_one_le_of_lt h) with rfl | hb
  · linarith
  · have hprod : 0 ≤ (b - (a + 1)) * (b + a) := mul_nonneg (by omega) (by omega)
    linarith

namespace IsMidpoint

variable {d e x z : Int}

theorem pos (h : IsMidpoint d x) : 1 ≤ x := by
  obtain ⟨h₁, h₂⟩ := h
  linarith

theorem mono (hde : d ≤ e) (hx : IsMidpoint d x) (hz : IsMidpoint e z) : x ≤ z := by
  by_contra hlt
  have hz0 := hz.pos
  have h := mul_self_add_le (a := z) (b := x) (by omega) (by omega)
  linarith [hx.1, hz.2]

theorem unique (hx : IsMidpoint d x) (hz : IsMidpoint d z) : x = z :=
  le_antisymm (mono le_rfl hx hz) (mono le_rfl hz hx)

end IsMidpoint

/-! ## The corrections -/

theorem lowered_lt {d : Int} (hd : 0 < d) (x : Nat) :
    (lowered d x : Int) * lowered d x - lowered d x < d := by
  induction x with
  | zero => simpa [lowered] using hd
  | succ x ih =>
    rw [lowered]
    split
    · exact ih
    · next h =>
      push_cast at h ⊢
      linarith

/-- From a number that is not too great, raising ends at the midpoint. -/
theorem raised_spec {d : Int} (x : Nat) (hx : (x : Int) * x - x < d) :
    IsMidpoint d (raised d x) := by
  fun_induction raised d x with
  | case1 x h ih =>
    refine ih ?_
    push_cast at h ⊢
    linarith
  | case2 x h =>
    refine ⟨hx, ?_⟩
    push_cast at h
    linarith

/-- **The corrections find the midpoint from every guess.** -/
theorem isMidpoint_midpoint {d : Int} (hd : 0 < d) (guess : Nat) :
    IsMidpoint d (midpoint d guess) := raised_spec _ (lowered_lt hd guess)

theorem midpoint_of_nonpos {d : Int} (hd : d ≤ 0) (guess : Nat) : midpoint d guess = 0 := by
  have hlow : lowered d guess = 0 := by
    induction guess with
    | zero => rfl
    | succ x ih =>
      rw [lowered, if_pos (hd.trans (Int.natCast_nonneg _))]
      exact ih
  rw [midpoint, hlow, raised, if_neg]
  push_cast
  omega

end SketchPreview
