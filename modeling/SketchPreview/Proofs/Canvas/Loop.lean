import Mathlib.Data.Set.Card
import Mathlib.Order.Interval.Finset.Nat
import Mathlib.Order.Bounds.Defs
import SketchPreview.Proofs.Canvas.Clipped

/-!
# The loop of a line

A line is walked until its end is reached, without counting the steps. It comes there after as many
steps as the longer distance has, on the pixels nearest to the segment; and since whatever is left
of a cut segment ends on the canvas, that is never more than a side.

* `Segment.AtEnd`, `iterate_next`, `isLeast_atEnd`: the loop reaches the end, and when;
* `walk_of_le`: it stops by itself, however many steps are allowed;
* `Segment.ideal`, `place_eq_ideal`, `setOf_mem_points`: the pixels on the way;
* `Segment.IsOn`, `Canvas.isOn_cutTo`: whatever the cut computes, it ends on the canvas;
* **`Canvas.line_eq_ideal`**: lines on a canvas, and the length of all others.
-/

namespace SketchPreview

namespace Segment

variable {s : Segment}

/-! ## The end of the loop -/

/-- Whether a place of the walk is its end. -/
def AtEnd (s : Segment) (w : Walk) : Prop := w.x = s.x1 ∧ w.y = s.y1

instance (s : Segment) (w : Walk) : Decidable (s.AtEnd w) := inferInstanceAs (Decidable (_ ∧ _))

theorem iterate_next (s : Segment) {i : ℕ} (hi : i ≤ s.steps) : s.next^[i] s.start = s.place i := by
  induction i with
  | zero => exact s.place_zero.symm
  | succ i ih =>
    rw [Function.iterate_succ_apply', ih (Nat.le_of_succ_le hi)]
    exact s.next_place hi

/-- **The loop ends.** It comes to the end with its last step, and not before. -/
theorem isLeast_atEnd (s : Segment) : IsLeast {n | s.AtEnd (s.next^[n] s.start)} s.steps := by
  refine ⟨?_, fun n hn => ?_⟩
  · show s.AtEnd (s.next^[s.steps] s.start)
    rw [s.iterate_next le_rfl]
    exact s.place_steps
  · by_contra hlt
    have hlt : n < s.steps := not_le.1 hlt
    rw [Set.mem_ofPred_eq, s.iterate_next hlt.le] at hn
    exact s.place_ne_end hlt hn

theorem walk_of_atEnd {w : Walk} (h : s.AtEnd w) (fuel : ℕ) : s.walk fuel w = [(w.x, w.y)] := by
  cases fuel with
  | zero => rfl
  | succ fuel => exact if_pos h

theorem walk_place_of_le (s : Segment) {i k fuel : ℕ} (hi : i + k = s.steps) (hk : k ≤ fuel) :
    s.walk fuel (s.place i) = s.walk k (s.place i) := by
  induction k generalizing i fuel with
  | zero =>
    obtain rfl : i = s.steps := hi
    exact walk_of_atEnd s.place_steps fuel
  | succ k ih =>
    obtain ⟨fuel, rfl⟩ : ∃ n, fuel = n + 1 := ⟨fuel - 1, by omega⟩
    have hlt : i < s.steps := by omega
    rw [walk, walk, if_neg (s.place_ne_end hlt), if_neg (s.place_ne_end hlt), s.next_place hlt,
      ih (by omega) (Nat.le_of_succ_le_succ hk)]

theorem walk_of_le (s : Segment) {fuel : ℕ} (h : s.steps ≤ fuel) :
    s.walk fuel s.start = s.points := by
  rw [points, ← s.place_zero]
  exact s.walk_place_of_le (Nat.zero_add _) h

/-! ## The pixels on the way -/

/-- The pixel nearest to the segment after `i` steps along its longer axis; of two that are as near,
the one farther along the shorter axis. -/
def ideal (s : Segment) (i : ℕ) : ℤ × ℤ :=
  if s.height ≤ s.width then
    (s.x0 + (s.x1 - s.x0).sign * i,
      s.y0 + (s.y1 - s.y0).sign * ((2 * s.height * i + s.width) / (2 * s.width) : ℕ))
  else
    (s.x0 + (s.x1 - s.x0).sign * ((2 * s.width * i + s.height) / (2 * s.height) : ℕ),
      s.y0 + (s.y1 - s.y0).sign * i)

theorem toward_mul_eq_sign_mul {a b : ℤ} {k : ℕ} (hk : k ≤ (b - a).natAbs) :
    toward a b * k = (b - a).sign * k := by
  rcases lt_trichotomy a b with hlt | rfl | hgt
  · rw [toward, if_pos hlt, Int.sign_eq_one_of_pos (sub_pos.2 hlt)]
  · obtain rfl : k = 0 := by simpa using hk
    simp
  · rw [toward, if_neg hgt.le.not_gt, Int.sign_eq_neg_one_of_neg (sub_neg.2 hgt)]

theorem place_eq_ideal (s : Segment) {i : ℕ} (hi : i ≤ s.steps) :
    ((s.place i).x, (s.place i).y) = s.ideal i := by
  unfold place ideal
  split
  · next h =>
    rw [steps_of_le h] at hi
    have hrise := rise_le h hi
    rw [toward_mul_eq_sign_mul hi, toward_mul_eq_sign_mul hrise]
    rfl
  · next h =>
    have hle : s.width ≤ s.height := Nat.le_of_not_le h
    rw [steps_of_ge hle] at hi
    have hrise := rise_le hle hi
    rw [toward_mul_eq_sign_mul hi, toward_mul_eq_sign_mul hrise]
    rfl

/-- **The loop goes through the pixels nearest to the segment.** -/
theorem setOf_mem_points (s : Segment) : {p | p ∈ s.points} = s.ideal '' Set.Iic s.steps := by
  ext p
  rw [Set.mem_ofPred_eq, mem_points, Set.mem_image]
  refine exists_congr fun i => and_congr_right fun hi => ?_
  rw [s.place_eq_ideal hi]

theorem injOn_ideal (s : Segment) : Set.InjOn s.ideal (Set.Iic s.steps) := by
  intro i hi j hj hij
  rw [← s.place_eq_ideal hi, ← s.place_eq_ideal hj, Prod.mk.injEq] at hij
  obtain ⟨hx, hy⟩ := hij
  unfold place at hx hy
  by_cases h : s.height ≤ s.width
  · rw [if_pos h, if_pos h, add_right_inj] at hx
    exact_mod_cast mul_left_cancel₀ (toward_ne_zero _ _) hx
  · rw [if_neg h, if_neg h, add_right_inj] at hy
    exact_mod_cast mul_left_cancel₀ (toward_ne_zero _ _) hy

theorem ncard_ideal (s : Segment) : (s.ideal '' Set.Iic s.steps).ncard = s.steps + 1 := by
  rw [s.injOn_ideal.ncard_image, ← Finset.coe_Iic, Set.ncard_coe_finset, Nat.card_Iic]

theorem length_points (s : Segment) : s.points.length = s.steps + 1 := by
  rw [points_eq_map, List.length_map, List.length_range]

theorem ideal_ends (s : Segment) :
    s.ideal 0 = (s.x0, s.y0) ∧ s.ideal s.steps = (s.x1, s.y1) := by
  rw [← s.place_eq_ideal (Nat.zero_le _), ← s.place_eq_ideal le_rfl, place_zero, s.place_steps.1,
    s.place_steps.2]
  exact ⟨rfl, rfl⟩

/-- Whether both ends lie on a canvas. -/
def IsOn (s : Segment) (c : Canvas) : Prop := c.Holds s.x0 s.y0 ∧ c.Holds s.x1 s.y1

instance (s : Segment) (c : Canvas) : Decidable (s.IsOn c) := inferInstanceAs (Decidable (_ ∧ _))

theorem IsOn.holds_ideal {c : Canvas} (h : s.IsOn c) {i : ℕ} (hi : i ≤ s.steps) :
    c.Holds (s.ideal i).1 (s.ideal i).2 := by
  obtain ⟨⟨hx0, hx0', hy0, hy0'⟩, hx1, hx1', hy1, hy1'⟩ := h
  have hmem : s.ideal i ∈ s.points := mem_points.2 ⟨i, hi, s.place_eq_ideal hi⟩
  obtain ⟨hx, hy⟩ := spans_of_mem_points hmem
  rw [Set.mem_uIcc] at hx hy
  exact ⟨by omega, by omega, by omega, by omega⟩

/-- A walk on a canvas is no longer than a side. -/
theorem IsOn.steps_lt {c : Canvas} (h : s.IsOn c) : s.steps < max c.width c.height := by
  obtain ⟨⟨hx0, hx0', hy0, hy0'⟩, hx1, hx1', hy1, hy1'⟩ := h
  unfold steps
  omega

end Segment

/-! ## Lines -/

theorem nearestPixel_mem {last : ℤ} (h : 0 ≤ last) (v : Float) :
    0 ≤ nearestPixel last v ∧ nearestPixel last v ≤ last :=
  Binary64.toInt_mem le_rfl h _

namespace Canvas

open Segment

/-- Whatever the cut computes, be it no number at all, its ends are brought onto the canvas. -/
theorem isOn_cutTo {c : Canvas} (hw : 0 < c.width) (hh : 0 < c.height) (s : Segment)
    (clip : Clip) : (s.cutTo (c.width - 1) (c.height - 1) clip).IsOn c := by
  have hholds (v v' : Float) :
      c.Holds (nearestPixel (c.width - 1) v) (nearestPixel (c.height - 1) v') := by
    obtain ⟨hx0, hx1⟩ := nearestPixel_mem (show 0 ≤ (c.width : ℤ) - 1 by omega) v
    obtain ⟨hy0, hy1⟩ := nearestPixel_mem (show 0 ≤ (c.height : ℤ) - 1 by omega) v'
    exact ⟨hx0, by omega, hy0, by omega⟩
  exact ⟨hholds _ _, hholds _ _⟩

/-- **Lines are the pixels nearest to their segments.** With both ends on the canvas, the loop
reaches the end after as many steps as the longer distance has, and not before; it stops there by
itself; and it gives the value to one pixel for each step and one more, those nearest to the
segment, the ends among them. Of any other segment, what the cut leaves lies on the canvas, whatever
numbers it computes; so this loop ends as well, after no more pixels than the longer side has. -/
theorem line_eq_ideal (c : Canvas) :
    (∀ (s : Segment) (value : UInt8), s.IsOn c →
      IsLeast {n | s.AtEnd (s.next^[n] s.start)} s.steps ∧
      (∀ fuel, s.steps ≤ fuel →
        c.line s.x0 s.y0 s.x1 s.y1 value = c.paint (s.walk fuel s.start) value) ∧
      Painted (s.ideal '' Set.Iic s.steps) value c (c.line s.x0 s.y0 s.x1 s.y1 value) ∧
      (s.ideal '' Set.Iic s.steps).ncard = s.steps + 1 ∧
      (∀ p ∈ s.ideal '' Set.Iic s.steps, c.Holds p.1 p.2) ∧
      s.ideal 0 = (s.x0, s.y0) ∧ s.ideal s.steps = (s.x1, s.y1)) ∧
    (∀ (s : Segment) (clip : Clip), 0 < c.width → 0 < c.height →
      (s.cutTo (c.width - 1) (c.height - 1) clip).IsOn c) ∧
    ∀ s r : Segment, c.clipSegment? s = some r →
      r.IsOn c ∧
      (r = s ∨ ∃ clip, r = s.cutTo (c.width - 1) (c.height - 1) clip) ∧
      IsLeast {n | r.AtEnd (r.next^[n] r.start)} r.steps ∧
      r.points.length ≤ max c.width c.height := by
  refine ⟨fun s value hon => ?_, fun s clip hw hh => isOn_cutTo hw hh s clip,
    fun s r hclip => ?_⟩
  · have hline : c.line s.x0 s.y0 s.x1 s.y1 value = c.paint s.points value := by
      rw [line, clipSegment?_of_holds hon.1 hon.2]
    refine ⟨s.isLeast_atEnd, fun fuel hfuel => ?_, ?_, s.ncard_ideal, ?_, s.ideal_ends⟩
    · rw [hline, s.walk_of_le hfuel]
    · rw [hline, ← s.setOf_mem_points]
      exact c.painted_paint s.points value
    · rintro _ ⟨i, hi, rfl⟩
      exact hon.holds_ideal hi
  · obtain ⟨⟨hw, hh⟩, hleft⟩ := exists_of_clipSegment? hclip
    have hon : r.IsOn c := by
      rcases hleft with ⟨hboth, rfl⟩ | ⟨clip, -, rfl⟩
      · exact hboth
      · exact isOn_cutTo hw hh s clip
    refine ⟨hon, ?_, r.isLeast_atEnd, r.length_points.trans_le hon.steps_lt⟩
    exact hleft.imp And.right fun ⟨clip, _, heq⟩ => ⟨clip, heq⟩

/-- On a canvas of four by five, the line from `(3, 0)` to `(1, 4)` goes on to the next column at
the first step, half-way between two; and of the line from `(0, 0)` to `(3, 1)`, a canvas of three
by two keeps a segment of three pixels. -/
theorem line_eq_ideal_steep :
    (Segment.mk 3 0 1 4).IsOn (blank 4 5 255) ∧
      ((blank 4 5 255).line 3 0 1 4 0).get? 2 1 = some 0 ∧
      ((blank 4 5 255).line 3 0 1 4 0).get? 3 1 = some 255 ∧
      (blank 3 2 255).clipSegment? ⟨0, 0, 3, 1⟩ = some ⟨0, 0, 2, 1⟩ ∧
      (Segment.mk 0 0 2 1).points.length ≤ 3 :=
  have hon : (Segment.mk 3 0 1 4).IsOn (blank 4 5 255) := by decide
  have hclip : (blank 3 2 255).clipSegment? ⟨0, 0, 3, 1⟩ = some ⟨0, 0, 2, 1⟩ := by decide +kernel
  have hpainted := ((line_eq_ideal (blank 4 5 255)).1 ⟨3, 0, 1, 4⟩ 0 hon).2.2.1
  have hin : ((2, 1) : ℤ × ℤ) ∈ (Segment.mk 3 0 1 4).ideal '' Set.Iic 4 :=
    ⟨1, by decide, by decide⟩
  have hout : ((3, 1) : ℤ × ℤ) ∉ (Segment.mk 3 0 1 4).ideal '' Set.Iic 4 := by
    have hne : ∀ i ≤ 4, (Segment.mk 3 0 1 4).ideal i ≠ (3, 1) := by decide
    rintro ⟨i, hi, heq⟩
    exact hne i hi heq
  ⟨hon, hpainted.of_mem (by decide) hin, (hpainted.of_not_mem hout).trans (by decide), hclip,
    ((line_eq_ideal (blank 3 2 255)).2.2 _ _ hclip).2.2.2⟩

end Canvas

end SketchPreview
