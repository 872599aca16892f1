import Mathlib.Algebra.Order.Ring.Abs
import Mathlib.Order.Interval.Set.UnorderedInterval
import Mathlib.Tactic.Linarith
import Mathlib.Tactic.Ring
import SketchPreview.Canvas.Line

/-!
# The pixels of a segment

One axis of a segment is the longer one. The walk takes one step along it each time, and as many
steps along the other axis as bring it nearest to the segment.

* `Segment.rise`, `Segment.lag`: the steps along the shorter axis after some along the longer one,
  and the error term then;
* `Segment.place`, `next_place`, `points_eq_map`: the walk in closed form;
* `Segment.cross`, `two_mul_abs_cross_le`: no pixel of the walk is more than half a pixel off;
* `exists_mem_points_column`, `exists_mem_points_row`: the walk leaves no column and no row out;
* `exists_mem_points_near`, `abs_cross_le`, `exists_mem_points_of_ends`: two segments that are near
  each other.
-/

namespace SketchPreview.Segment

/-! ## The shorter axis -/

/-- The number of steps along the shorter axis after `i` steps along the longer one, where the
segment goes `short` along the one and `long` along the other. -/
def rise (short long i : ℕ) : ℕ := (2 * short * i + long) / (2 * long)

/-- The error term after `i` steps along the longer axis, seen along that axis. -/
def lag (short long i : ℕ) : ℤ := long - short - short * i + long * rise short long i

section Rise

variable {short long i : ℕ}

theorem rise_zero : rise short long 0 = 0 := by
  unfold rise
  rcases Nat.eq_zero_or_pos long with rfl | hpos
  · exact Nat.div_zero _
  · exact Nat.div_eq_of_lt (by omega)

theorem rise_eq {j : ℕ} (hlo : 2 * long * j ≤ 2 * short * i + long)
    (hhi : 2 * short * i + long < 2 * long * (j + 1)) : rise short long i = j :=
  Nat.div_eq_of_lt_le ((Nat.mul_comm ..).trans_le hlo) (hhi.trans_eq (Nat.mul_comm ..))

theorem rise_self (h : short ≤ long) : rise short long long = short := by
  rcases Nat.eq_zero_or_pos long with rfl | hpos
  · exact (Nat.div_zero _).trans (Nat.le_zero.1 h).symm
  · have hcomm : 2 * short * long = 2 * long * short := by ring
    refine rise_eq ?_ ?_
    · omega
    · rw [Nat.mul_add_one]
      omega

theorem rise_le (h : short ≤ long) (hi : i ≤ long) : rise short long i ≤ short := by
  refine le_of_le_of_eq ?_ (rise_self h)
  exact Nat.div_le_div_right (by gcongr)

/-- The steps along the shorter axis are nearest to the segment. -/
theorem rise_spec (short : ℕ) (hpos : 0 < long) (i : ℕ) :
    2 * long * rise short long i ≤ 2 * short * i + long ∧
      2 * short * i + long < 2 * long * (rise short long i + 1) :=
  ⟨Nat.mul_div_le _ _, Nat.lt_mul_div_succ _ (by omega)⟩

theorem lag_zero : lag short long 0 = long - short := by simp [lag, rise_zero]

theorem neg_le_two_mul_lag (hpos : 0 < long) (h : short ≤ long) (i : ℕ) :
    -(short : ℤ) ≤ 2 * lag short long i := by
  obtain ⟨-, hhi⟩ := rise_spec short hpos i
  unfold lag
  zify at hhi h
  linarith

theorem rise_succ (hpos : 0 < long) (h : short ≤ long) (i : ℕ) :
    rise short long (i + 1) =
      if 2 * lag short long i ≤ long then rise short long i + 1 else rise short long i := by
  obtain ⟨hlo, hhi⟩ := rise_spec short hpos i
  unfold lag
  split
  · next hstep =>
    refine rise_eq ?_ ?_
    · zify
      linarith
    · zify at hhi h ⊢
      linarith
  · next hstep =>
    refine rise_eq ?_ ?_
    · zify at hlo ⊢
      linarith
    · zify at hstep ⊢
      linarith

theorem lag_succ (hpos : 0 < long) (h : short ≤ long) (i : ℕ) :
    lag short long (i + 1) =
      lag short long i - short + if 2 * lag short long i ≤ long then (long : ℤ) else 0 := by
  rw [lag, rise_succ hpos h]
  split <;> rw [lag] <;> push_cast <;> ring

theorem two_mul_abs_le_long (h : short ≤ long) (i : ℕ) :
    2 * |(long : ℤ) * rise short long i - short * i| ≤ long := by
  rcases Nat.eq_zero_or_pos long with rfl | hpos
  · rw [Nat.le_zero.1 h]
    simp
  · obtain ⟨hlo, hhi⟩ := rise_spec short hpos i
    zify at hlo hhi
    rcases abs_cases ((long : ℤ) * rise short long i - short * i) with ⟨heq, -⟩ | ⟨heq, -⟩ <;>
      rw [heq] <;> linarith

theorem exists_rise_eq (h : short ≤ long) {k : ℕ} (hk : k ≤ short) :
    ∃ i ≤ long, rise short long i = k := by
  have hupto (i : ℕ) (hle : k ≤ rise short long i) : ∃ j ≤ i, rise short long j = k := by
    induction i with
    | zero => exact ⟨0, le_rfl, (Nat.le_zero.1 (hle.trans_eq rise_zero)).symm ▸ rise_zero⟩
    | succ i ih =>
      by_cases hle' : k ≤ rise short long i
      · obtain ⟨j, hj, heq⟩ := ih hle'
        exact ⟨j, hj.trans i.le_succ, heq⟩
      · rcases Nat.eq_zero_or_pos long with rfl | hpos
        · simp only [rise, mul_zero, Nat.div_zero] at hle hle'
          exact absurd hle hle'
        · refine ⟨i + 1, le_rfl, ?_⟩
          rw [rise_succ hpos h] at hle ⊢
          split <;> split at hle <;> omega
  exact hupto long (hk.trans_eq (rise_self h).symm)

end Rise

/-! ## One axis -/

/-- The direction from one integer to another. -/
def toward (a b : ℤ) : ℤ := if a < b then 1 else -1

section Toward

variable {a b : ℤ}

theorem ite_eq_add_toward (a b x : ℤ) : (if a < b then x + 1 else x - 1) = x + toward a b := by
  unfold toward
  split <;> rfl

theorem abs_toward (a b : ℤ) : |toward a b| = 1 := by
  unfold toward
  split <;> rfl

theorem toward_ne_zero (a b : ℤ) : toward a b ≠ 0 := by
  unfold toward
  split <;> decide

theorem toward_mul_natAbs (a b : ℤ) : toward a b * (b - a).natAbs = b - a := by
  unfold toward
  split <;> omega

theorem add_toward_mem {k : ℕ} (hk : k ≤ (b - a).natAbs) : a + toward a b * k ∈ Set.uIcc a b := by
  rw [Set.mem_uIcc]
  unfold toward
  split <;> omega

theorem eq_add_toward_of_mem {x : ℤ} (hx : x ∈ Set.uIcc a b) :
    a + toward a b * (x - a).natAbs = x ∧ (x - a).natAbs ≤ (b - a).natAbs := by
  rw [Set.mem_uIcc] at hx
  unfold toward
  split <;> omega

theorem abs_sub_add_abs_of_mem {x : ℤ} (hx : x ∈ Set.uIcc a b) :
    |b - a - (x - a)| + |x - a| = |b - a| := by
  rw [Set.mem_uIcc] at hx
  simp only [Int.abs_eq_natAbs]
  omega

end Toward

/-! ## The walk in closed form -/

/-- The distance between the columns of the ends. -/
def width (s : Segment) : ℕ := (s.x1 - s.x0).natAbs

/-- The distance between the rows of the ends. -/
def height (s : Segment) : ℕ := (s.y1 - s.y0).natAbs

/-- The place of the walk after `i` steps, with its error term. -/
def place (s : Segment) (i : ℕ) : Walk :=
  if s.height ≤ s.width then
    ⟨s.x0 + toward s.x0 s.x1 * i, s.y0 + toward s.y0 s.y1 * rise s.height s.width i,
      lag s.height s.width i⟩
  else
    ⟨s.x0 + toward s.x0 s.x1 * rise s.width s.height i, s.y0 + toward s.y0 s.y1 * i,
      -lag s.width s.height i⟩

theorem steps_of_le {s : Segment} (h : s.height ≤ s.width) : s.steps = s.width := max_eq_left h

theorem steps_of_ge {s : Segment} (h : s.width ≤ s.height) : s.steps = s.height := max_eq_right h

theorem place_zero (s : Segment) : s.place 0 = s.start := by
  unfold place
  split <;> simp [rise_zero, lag_zero, start, width, height]

theorem place_steps (s : Segment) : (s.place s.steps).x = s.x1 ∧ (s.place s.steps).y = s.y1 := by
  have hx : s.x0 + toward s.x0 s.x1 * s.width = s.x1 :=
    (congrArg _ (toward_mul_natAbs s.x0 s.x1)).trans (add_sub_cancel _ _)
  have hy : s.y0 + toward s.y0 s.y1 * s.height = s.y1 :=
    (congrArg _ (toward_mul_natAbs s.y0 s.y1)).trans (add_sub_cancel _ _)
  unfold place
  split
  · next h =>
    rw [steps_of_le h, rise_self h]
    exact ⟨hx, hy⟩
  · next h =>
    rw [steps_of_ge (Nat.le_of_not_le h), rise_self (Nat.le_of_not_le h)]
    exact ⟨hx, hy⟩

theorem place_ne_end (s : Segment) {i : ℕ} (hi : i < s.steps) :
    ¬((s.place i).x = s.x1 ∧ (s.place i).y = s.y1) := by
  have hlt {a b : ℤ} (hi : i < (b - a).natAbs) : a + toward a b * i ≠ b := by
    intro heq
    have hmul : toward a b * (i : ℤ) = toward a b * (b - a).natAbs := by
      rw [toward_mul_natAbs]
      omega
    have := mul_left_cancel₀ (toward_ne_zero a b) hmul
    omega
  unfold place
  rintro ⟨hx, hy⟩
  by_cases h : s.height ≤ s.width
  · rw [steps_of_le h] at hi
    rw [if_pos h] at hx
    exact hlt hi hx
  · rw [steps_of_ge (Nat.le_of_not_le h)] at hi
    rw [if_neg h] at hy
    exact hlt hi hy

theorem next_eq (s : Segment) (w : Walk) :
    s.next w =
      ⟨if -(s.height : ℤ) ≤ 2 * w.error then w.x + toward s.x0 s.x1 else w.x,
        if 2 * w.error ≤ s.width then w.y + toward s.y0 s.y1 else w.y,
        w.error + (if -(s.height : ℤ) ≤ 2 * w.error then -(s.height : ℤ) else 0) +
          if 2 * w.error ≤ s.width then (s.width : ℤ) else 0⟩ := by
  unfold next
  simp only [ite_eq_add_toward, width, height]
  split_ifs <;> simp only [*, ↓reduceIte, add_zero]

theorem next_place (s : Segment) {i : ℕ} (hi : i < s.steps) :
    s.next (s.place i) = s.place (i + 1) := by
  rw [next_eq]
  unfold place
  by_cases h : s.height ≤ s.width
  · have hpos : 0 < s.width := Nat.zero_lt_of_lt (steps_of_le h ▸ hi)
    simp only [if_pos h, if_pos (neg_le_two_mul_lag hpos h i), rise_succ hpos h,
      lag_succ hpos h, Walk.mk.injEq]
    refine ⟨?_, ?_, ?_⟩
    · push_cast
      ring
    · split
      · push_cast
        ring
      · rfl
    · ring
  · have hle : s.width ≤ s.height := Nat.le_of_not_le h
    have hpos : 0 < s.height := Nat.zero_lt_of_lt (steps_of_ge hle ▸ hi)
    have hx : -(s.height : ℤ) ≤ 2 * -lag s.width s.height i ↔
        2 * lag s.width s.height i ≤ s.height := by omega
    have hy : 2 * -lag s.width s.height i ≤ s.width := by
      have := neg_le_two_mul_lag hpos hle i
      omega
    simp only [if_neg h, hx, if_pos hy, rise_succ hpos hle, lag_succ hpos hle, Walk.mk.injEq]
    refine ⟨?_, ?_, ?_⟩
    · split
      · push_cast
        ring
      · rfl
    · push_cast
      ring
    · split <;> ring

theorem walk_place (s : Segment) (fuel : ℕ) {i : ℕ} (hi : i + fuel = s.steps) :
    s.walk fuel (s.place i) =
      (List.range' i (fuel + 1)).map fun i => ((s.place i).x, (s.place i).y) := by
  induction fuel generalizing i with
  | zero => rfl
  | succ fuel ih =>
    have hlt : i < s.steps := by omega
    rw [walk, if_neg (s.place_ne_end hlt), s.next_place hlt, ih (by omega)]
    rfl

/-- **The walk in closed form.** -/
theorem points_eq_map (s : Segment) :
    s.points = (List.range (s.steps + 1)).map fun i => ((s.place i).x, (s.place i).y) := by
  rw [points, ← s.place_zero, s.walk_place s.steps (Nat.zero_add _), List.range_eq_range']

theorem mem_points {s : Segment} {p : ℤ × ℤ} :
    p ∈ s.points ↔ ∃ i ≤ s.steps, ((s.place i).x, (s.place i).y) = p := by
  simp only [points_eq_map, List.mem_map, List.mem_range, Nat.lt_add_one_iff]

/-! ## How far off a pixel lies -/

/-- On which side of a segment a pixel lies, and how far off: along the shorter axis, and in units
of one pixel divided by the number of steps. -/
def cross (s : Segment) (p : ℤ × ℤ) : ℤ :=
  (s.x1 - s.x0) * (p.2 - s.y0) - (s.y1 - s.y0) * (p.1 - s.x0)

/-- Whether a pixel lies in the smallest rectangle that holds the ends. -/
def Spans (s : Segment) (p : ℤ × ℤ) : Prop :=
  p.1 ∈ Set.uIcc s.x0 s.x1 ∧ p.2 ∈ Set.uIcc s.y0 s.y1

theorem Spans.trans {s r : Segment} {p : ℤ × ℤ} (h0 : s.Spans (r.x0, r.y0))
    (h1 : s.Spans (r.x1, r.y1)) (hp : r.Spans p) : s.Spans p :=
  ⟨Set.uIcc_subset_uIcc h0.1 h1.1 hp.1, Set.uIcc_subset_uIcc h0.2 h1.2 hp.2⟩

theorem Spans.eq_start {s : Segment} {p : ℤ × ℤ} (hp : s.Spans p) (h : s.height ≤ s.width)
    (hzero : s.width = 0) : p = (s.x0, s.y0) := by
  have hx : (s.x1 - s.x0).natAbs = 0 := hzero
  have hy : (s.y1 - s.y0).natAbs = 0 := Nat.le_zero.1 (hzero ▸ h)
  obtain ⟨hp1, hp2⟩ := hp
  rw [Set.mem_uIcc] at hp1 hp2
  exact Prod.ext (by simp only; omega) (by simp only; omega)

theorem abs_cross_eq (s : Segment) (k l : ℤ) :
    |s.cross (s.x0 + toward s.x0 s.x1 * k, s.y0 + toward s.y0 s.y1 * l)| =
      |s.width * l - s.height * k| := by
  have hcross : s.cross (s.x0 + toward s.x0 s.x1 * k, s.y0 + toward s.y0 s.y1 * l) =
      toward s.x0 s.x1 * toward s.y0 s.y1 * (s.width * l - s.height * k) := by
    have hx : toward s.x0 s.x1 * s.width = s.x1 - s.x0 := toward_mul_natAbs ..
    have hy : toward s.y0 s.y1 * s.height = s.y1 - s.y0 := toward_mul_natAbs ..
    unfold cross
    rw [← hx, ← hy]
    ring
  rw [hcross, abs_mul, abs_mul, abs_toward, abs_toward, one_mul, one_mul]

theorem two_mul_abs_cross_le {s : Segment} {p : ℤ × ℤ} (hp : p ∈ s.points) :
    2 * |s.cross p| ≤ s.steps := by
  obtain ⟨i, -, rfl⟩ := mem_points.1 hp
  unfold place
  by_cases h : s.height ≤ s.width
  · rw [if_pos h, abs_cross_eq, steps_of_le h]
    exact two_mul_abs_le_long h i
  · have hle : s.width ≤ s.height := Nat.le_of_not_le h
    rw [if_neg h, abs_cross_eq, abs_sub_comm, steps_of_ge hle]
    exact two_mul_abs_le_long hle i

theorem spans_of_mem_points {s : Segment} {p : ℤ × ℤ} (hp : p ∈ s.points) : s.Spans p := by
  obtain ⟨i, hi, rfl⟩ := mem_points.1 hp
  unfold place
  by_cases h : s.height ≤ s.width
  · rw [steps_of_le h] at hi
    rw [if_pos h]
    exact ⟨add_toward_mem hi, add_toward_mem (rise_le h hi)⟩
  · have hle : s.width ≤ s.height := Nat.le_of_not_le h
    rw [steps_of_ge hle] at hi
    rw [if_neg h]
    exact ⟨add_toward_mem (rise_le hle hi), add_toward_mem hi⟩

theorem exists_mem_points_column {s : Segment} {x : ℤ} (hx : x ∈ Set.uIcc s.x0 s.x1) :
    ∃ y, (x, y) ∈ s.points := by
  obtain ⟨heq, hle⟩ := eq_add_toward_of_mem hx
  by_cases h : s.height ≤ s.width
  · refine ⟨_, mem_points.2 ⟨(x - s.x0).natAbs, (steps_of_le h).symm ▸ hle, Prod.ext ?_ rfl⟩⟩
    rwa [place, if_pos h]
  · have hle' : s.width ≤ s.height := Nat.le_of_not_le h
    obtain ⟨i, hi, hrise⟩ := exists_rise_eq hle' hle
    refine ⟨_, mem_points.2 ⟨i, (steps_of_ge hle').symm ▸ hi, Prod.ext ?_ rfl⟩⟩
    rwa [place, if_neg h, hrise]

theorem exists_mem_points_row {s : Segment} {y : ℤ} (hy : y ∈ Set.uIcc s.y0 s.y1) :
    ∃ x, (x, y) ∈ s.points := by
  obtain ⟨heq, hle⟩ := eq_add_toward_of_mem hy
  by_cases h : s.height ≤ s.width
  · obtain ⟨i, hi, hrise⟩ := exists_rise_eq h hle
    refine ⟨_, mem_points.2 ⟨i, (steps_of_le h).symm ▸ hi, Prod.ext rfl ?_⟩⟩
    rwa [place, if_pos h, hrise]
  · refine ⟨_, mem_points.2 ⟨(y - s.y0).natAbs, (steps_of_ge (Nat.le_of_not_le h)).symm ▸ hle,
      Prod.ext rfl ?_⟩⟩
    rwa [place, if_neg h]

/-! ## A segment near another one -/

theorem abs_width (s : Segment) : |s.x1 - s.x0| = s.width := Int.abs_eq_natAbs _

theorem abs_height (s : Segment) : |s.y1 - s.y0| = s.height := Int.abs_eq_natAbs _

theorem abs_width_le (s : Segment) : |s.x1 - s.x0| ≤ s.steps :=
  s.abs_width.trans_le (Int.ofNat_le.2 (le_max_left _ _))

theorem abs_height_le (s : Segment) : |s.y1 - s.y0| ≤ s.steps :=
  s.abs_height.trans_le (Int.ofNat_le.2 (le_max_right _ _))

theorem abs_le_one_of_mul {d n c c' : ℤ} {m : ℕ} (hd : |d| = m) (hpos : 0 < m)
    (hn : d * n = c - c') (hc : |c| ≤ m) (hc' : 2 * |c'| ≤ m) : |n| ≤ 1 := by
  by_contra hgt
  have hmul : (m : ℤ) * |n| ≤ |c| + |c'| := by
    rw [← hd, ← abs_mul, hn]
    exact abs_sub c c'
  have hle : (m : ℤ) * 2 ≤ m * |n| := Int.mul_le_mul_of_nonneg_left (by omega) (by omega)
  omega

theorem abs_row_sub_le {s : Segment} (h : s.height ≤ s.width) (hpos : 0 < s.width) {x y y' : ℤ}
    (hy : |s.cross (x, y)| ≤ s.steps) (hy' : 2 * |s.cross (x, y')| ≤ s.steps) : |y - y'| ≤ 1 := by
  rw [steps_of_le h] at hy hy'
  refine abs_le_one_of_mul s.abs_width hpos ?_ hy hy'
  unfold cross
  ring

theorem abs_column_sub_le {s : Segment} (h : ¬s.height ≤ s.width) {x x' y : ℤ}
    (hx : |s.cross (x, y)| ≤ s.steps) (hx' : 2 * |s.cross (x', y)| ≤ s.steps) : |x - x'| ≤ 1 := by
  rw [steps_of_ge (Nat.le_of_not_le h)] at hx hx'
  refine abs_le_one_of_mul ((abs_neg _).trans s.abs_height) (by omega) ?_ hx hx'
  unfold cross
  ring

/-- **Off by at most one pixel.** Within its rectangle, a pixel that is at most one pixel off lies
on the walk or next to a pixel of it. -/
theorem exists_mem_points_near {s : Segment} {p : ℤ × ℤ} (hspan : s.Spans p)
    (hp : |s.cross p| ≤ s.steps) : ∃ q ∈ s.points, |p.1 - q.1| + |p.2 - q.2| ≤ 1 := by
  by_cases h : s.height ≤ s.width
  · obtain ⟨y, hy⟩ := exists_mem_points_column hspan.1
    refine ⟨(p.1, y), hy, ?_⟩
    rw [sub_self, abs_zero, zero_add]
    rcases Nat.eq_zero_or_pos s.width with hzero | hpos
    · have heq : p = (p.1, y) :=
        (hspan.eq_start h hzero).trans ((spans_of_mem_points hy).eq_start h hzero).symm
      rw [congrArg Prod.snd heq, sub_self, abs_zero]
      exact zero_le_one
    · exact abs_row_sub_le h hpos hp (two_mul_abs_cross_le hy)
  · obtain ⟨x, hx⟩ := exists_mem_points_row hspan.2
    refine ⟨(x, p.2), hx, ?_⟩
    rw [sub_self, abs_zero, add_zero]
    exact abs_column_sub_le h hp (two_mul_abs_cross_le hx)

theorem abs_le_of_between {a u c c0 c1 d e : ℤ} {m n : ℕ} (ha : |a| = n) (hpos : 0 < n)
    (hu : |a - u| + |u| = |a|) (hc0 : 2 * |c0| ≤ m) (hc1 : 2 * |c1| ≤ m) (hd : |d| ≤ m)
    (he : 2 * |e| ≤ n) (hc : a * c = (a - u) * c0 + u * c1 + d * e) : |c| ≤ m := by
  have hsum : (n : ℤ) * |c| ≤ |a - u| * |c0| + |u| * |c1| + |d| * |e| := by
    rw [← ha, ← abs_mul, ← abs_mul, ← abs_mul, ← abs_mul, hc]
    exact (abs_add_le _ _).trans (add_le_add_left (abs_add_le _ _) _)
  have h0 : |a - u| * (2 * |c0|) ≤ |a - u| * m := by gcongr
  have h1 : |u| * (2 * |c1|) ≤ |u| * m := by gcongr
  have h2 : |d| * (2 * |e|) ≤ m * n := by gcongr
  have hmul : (n : ℤ) * |c| ≤ n * m := by
    rw [ha] at hu
    have hparts : |a - u| * (m : ℤ) + |u| * m = n * m := by rw [← add_mul, hu]
    linarith
  exact le_of_mul_le_mul_left hmul (by exact_mod_cast hpos)

theorem abs_cross_le {s r : Segment} (h0 : 2 * |s.cross (r.x0, r.y0)| ≤ s.steps)
    (h1 : 2 * |s.cross (r.x1, r.y1)| ≤ s.steps) {p : ℤ × ℤ} (hp : p ∈ r.points) :
    |s.cross p| ≤ s.steps := by
  have he := two_mul_abs_cross_le hp
  have hspan := spans_of_mem_points hp
  by_cases h : r.height ≤ r.width
  · rw [steps_of_le h] at he
    rcases Nat.eq_zero_or_pos r.width with hzero | hpos
    · rw [hspan.eq_start h hzero]
      have := abs_nonneg (s.cross (r.x0, r.y0))
      omega
    · refine abs_le_of_between r.abs_width hpos (abs_sub_add_abs_of_mem hspan.1) h0 h1
        s.abs_width_le he ?_
      unfold cross
      ring
  · have hle : r.width ≤ r.height := Nat.le_of_not_le h
    rw [steps_of_ge hle] at he
    refine abs_le_of_between r.abs_height (by omega) (abs_sub_add_abs_of_mem hspan.2) h0 h1
      s.abs_height_le he ?_
    unfold cross
    ring

/-- A pixel of the walk of a segment has one next to it on the walk of a segment whose ends are at
most half a pixel off, if that one comes to its place along the longer axis. -/
theorem exists_mem_points_of_ends {s r : Segment} (h0 : 2 * |s.cross (r.x0, r.y0)| ≤ s.steps)
    (h1 : 2 * |s.cross (r.x1, r.y1)| ≤ s.steps) (hpos : 0 < s.steps) {q : ℤ × ℤ}
    (hq : q ∈ s.points) (hx : s.height ≤ s.width → q.1 ∈ Set.uIcc r.x0 r.x1)
    (hy : ¬s.height ≤ s.width → q.2 ∈ Set.uIcc r.y0 r.y1) :
    ∃ p ∈ r.points, |p.1 - q.1| + |p.2 - q.2| ≤ 1 := by
  by_cases h : s.height ≤ s.width
  · obtain ⟨y, hmem⟩ := exists_mem_points_column (hx h)
    refine ⟨(q.1, y), hmem, ?_⟩
    rw [sub_self, abs_zero, zero_add]
    exact abs_row_sub_le h (steps_of_le h ▸ hpos) (abs_cross_le h0 h1 hmem)
      (two_mul_abs_cross_le hq)
  · obtain ⟨x, hmem⟩ := exists_mem_points_row (hy h)
    refine ⟨(x, q.2), hmem, ?_⟩
    rw [sub_self, abs_zero, add_zero]
    exact abs_column_sub_le h (abs_cross_le h0 h1 hmem) (two_mul_abs_cross_le hq)

end SketchPreview.Segment
