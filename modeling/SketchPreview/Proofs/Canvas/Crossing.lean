import Mathlib.Tactic.FieldSimp
import SketchPreview.Proofs.Canvas.Bresenham
import SketchPreview.Proofs.Canvas.Clip

/-!
# The ends of a cut segment

The ends of what is left of a segment are brought to the nearest pixels. One coordinate of such an
end is an integer already, but for the slack of the cut, and that one does not move. So the pixel is
at most half a pixel off the segment.

* `abs_nearestPixel_sub_le`: rounding to a pixel;
* `abs_pixel_sub_le`: how far the cut moves a coordinate;
* `Segment.Near`, `Segment.Crossing.near`: the ends are at most half a pixel off;
* `Segment.Shows`, `exists_mem_points_cutTo`: nothing between the ends is lost.
-/

namespace SketchPreview

open Rounding

/-! ## The nearest pixel -/

theorem Binary64.abs_roundAway_sub_le (m : ℕ) (e : ℤ) :
    |(Binary64.roundAway m e : ℚ) - m * 2 ^ e| ≤ 1 / 2 := by
  unfold Binary64.roundAway
  split
  · next h =>
    have hpow : (2 : ℚ) ^ e = (2 ^ e.toNat : ℕ) := by
      rw [Nat.cast_pow, ← zpow_natCast, Int.toNat_of_nonneg h, Nat.cast_ofNat]
    rw [hpow, Nat.cast_mul, Nat.pow_eq, sub_self, abs_zero]
    norm_num
  · next h =>
    obtain ⟨k, rfl⟩ : ∃ k : ℕ, e = -k := ⟨(-e).toNat, by omega⟩
    have hk : (- -(k : ℤ)).toNat = k := by omega
    rw [hk]
    simp only [Nat.pow_eq]
    generalize hq : (2 * m + 2 ^ k) / 2 ^ (k + 1) = q
    have hlo : 2 ^ (k + 1) * q ≤ 2 * m + 2 ^ k := hq ▸ Nat.mul_div_le _ _
    have hhi : 2 * m + 2 ^ k < 2 ^ (k + 1) * (q + 1) := hq ▸ Nat.lt_mul_div_succ _ (by positivity)
    have hlo' : (2 : ℚ) ^ (k + 1) * q ≤ 2 * m + 2 ^ k := by exact_mod_cast hlo
    have hhi' : (2 : ℚ) * m + 2 ^ k < 2 ^ (k + 1) * (q + 1) := by exact_mod_cast hhi
    have hpos : (0 : ℚ) < 2 ^ k := by positivity
    rw [zpow_neg, zpow_natCast, ← div_eq_mul_inv]
    generalize hy : (m : ℚ) / 2 ^ k = y
    rw [div_eq_iff hpos.ne'] at hy
    rw [pow_succ, hy] at hlo' hhi'
    have hle : (q : ℚ) ≤ y + 1 / 2 := by
      refine le_of_mul_le_mul_left ?_ hpos
      linarith
    have hlt : y + 1 / 2 < q + 1 := by
      refine lt_of_mul_lt_mul_left ?_ hpos.le
      linarith
    rw [abs_le]
    constructor <;> linarith

theorem abs_clamp_sub_le {z last : ℤ} {x : ℚ} (h0 : 0 ≤ last) (hz : |(z : ℚ) - x| ≤ 1 / 2)
    (hlo : -(1 / 2) ≤ x) (hhi : x ≤ last + 1 / 2) :
    |((max 0 (min last z) : ℤ) : ℚ) - x| ≤ 1 / 2 := by
  rw [abs_le] at hz ⊢
  rcases lt_or_ge z 0 with hneg | hpos
  · have heq : max 0 (min last z) = 0 := by omega
    have hz1 : (z : ℚ) ≤ -1 := by exact_mod_cast Int.le_sub_one_of_lt hneg
    rw [heq, Int.cast_zero]
    constructor <;> linarith
  · rcases lt_or_ge last z with hgt | hle
    · have heq : max 0 (min last z) = last := by omega
      have hz1 : (last : ℚ) + 1 ≤ z := by exact_mod_cast hgt
      rw [heq]
      constructor <;> linarith
    · have heq : max 0 (min last z) = z := by omega
      rwa [heq]

theorem abs_nearestPixel_sub_le {last : ℤ} (h0 : 0 ≤ last) {v : Float} (hv : IsFinite v)
    (hlo : -(1 / 2) ≤ toRat v) (hhi : toRat v ≤ last + 1 / 2) :
    |(nearestPixel last v : ℚ) - toRat v| ≤ 1 / 2 := by
  obtain ⟨negative, m, e, hof, hvalue⟩ := exists_ofFloat_eq hv
  have hround := Binary64.abs_roundAway_sub_le m e
  have hpixel : nearestPixel last v =
      max 0 (min last
        (if negative then -(Binary64.roundAway m e : ℤ) else Binary64.roundAway m e)) := by
    rw [nearestPixel, hof]
    rfl
  rw [hpixel]
  refine abs_clamp_sub_le h0 ?_ hlo hhi
  rw [show toRat v = _ from hvalue]
  cases negative
  · simpa using hround
  · rw [abs_sub_comm] at hround
    simpa [neg_add_eq_sub] using hround

/-! ## The pixels at the ends -/

theorem abs_coordinate_sub_le {a b : ℤ} (ha : |a| < 2 ^ 13) (hb : |b| < 2 ^ 13) {t : Float}
    (ht : IsFinite t) (h0 : 0 ≤ toRat t) (h1 : toRat t ≤ 1) :
    IsFinite (along a b t) ∧ |toRat (along a b t) - between a b (toRat t)| ≤ 1 / 2 ^ 38 := by
  have haq : |(a : ℚ)| < 2 ^ 13 := by exact_mod_cast ha
  have hbq : |(b : ℚ)| < 2 ^ 13 := by exact_mod_cast hb
  rw [abs_lt] at ha hb haq hbq
  have hra := represents_ofInt (n := a) (abs_lt.2 ⟨by omega, by omega⟩)
  have hrb := represents_ofInt (n := b) (abs_lt.2 ⟨by omega, by omega⟩)
  have hd := represents_sub hrb hra (abs_lt.2 ⟨by omega, by omega⟩)
  have hdq : |((b - a : ℤ) : ℚ)| < 2 ^ 14 := by
    rw [Int.cast_sub, abs_lt]
    constructor <;> linarith
  unfold along
  generalize Float.ofInt b - Float.ofInt a = d at *
  have hsize : |toRat t * toRat d| < 2 ^ 14 := by
    rw [hd.toRat_eq, abs_mul, abs_of_nonneg h0]
    exact (mul_le_of_le_one_left (abs_nonneg _) h1).trans_lt hdq
  obtain ⟨hmf, hmn, -⟩ := isRounded_mul ht hd.isFinite hsize
  rw [hd.toRat_eq] at hmn
  -- the point lies between the two integers
  have hpoint : |between a b (toRat t)| ≤ 2 ^ 13 := by
    rw [between_eq, abs_le]
    constructor <;> nlinarith
  unfold between at hpoint ⊢
  rw [abs_le] at hmn hpoint
  have hsum : |toRat (Float.ofInt a) + toRat (t * d)| < 2 ^ 14 := by
    rw [hra.toRat_eq, abs_lt]
    norm_num at hmn hpoint ⊢
    constructor <;> linarith
  obtain ⟨hsf, hsn, -⟩ := isRounded_add hra.isFinite hmf hsum
  refine ⟨hsf, ?_⟩
  rw [hra.toRat_eq, abs_le] at hsn
  rw [abs_le]
  norm_num at hmn hsn ⊢
  constructor <;> linarith

/-- A cut moves a coordinate on the canvas by hardly more than half a pixel. -/
theorem abs_pixel_sub_le {a b last : ℤ} (hlast : 0 ≤ last) (ha : |a| < 2 ^ 13) (hb : |b| < 2 ^ 13)
    {t : Float} (ht : IsFinite t) (h0 : 0 ≤ toRat t) (h1 : toRat t ≤ 1)
    (hlo : -slack ≤ between a b (toRat t)) (hhi : between a b (toRat t) ≤ last + slack) :
    |(nearestPixel last (along a b t) : ℚ) - between a b (toRat t)| ≤ 1 / 2 + 1 / 2 ^ 38 := by
  obtain ⟨hfinite, hnear⟩ := abs_coordinate_sub_le ha hb ht h0 h1
  rw [abs_le] at hnear
  norm_num [slack] at hnear hlo hhi
  have hpixel := abs_nearestPixel_sub_le hlast hfinite (by linarith) (by linarith)
  rw [abs_le] at hpixel ⊢
  norm_num at hpixel ⊢
  constructor <;> linarith

theorem pixel_between {a b n : ℤ} {τ : ℚ} (h0 : 0 ≤ τ) (h1 : τ ≤ 1)
    (hn : |(n : ℚ) - between a b τ| ≤ 1 / 2 + 1 / 2 ^ 38) : n ∈ Set.uIcc a b := by
  have hmin : ((min a b : ℤ) : ℚ) ≤ between a b τ := by
    have hl : ((min a b : ℤ) : ℚ) ≤ a := by exact_mod_cast min_le_left a b
    have hr : ((min a b : ℤ) : ℚ) ≤ b := by exact_mod_cast min_le_right a b
    rw [between_eq]
    nlinarith
  have hmax : between a b τ ≤ ((max a b : ℤ) : ℚ) := by
    have hl : (a : ℚ) ≤ (max a b : ℤ) := by exact_mod_cast le_max_left a b
    have hr : (b : ℚ) ≤ (max a b : ℤ) := by exact_mod_cast le_max_right a b
    rw [between_eq]
    nlinarith
  rw [abs_le] at hn
  norm_num at hn
  constructor
  · have hlt : ((min a b : ℤ) : ℚ) < n + 1 := by linarith
    exact Int.lt_add_one_iff.1 (by exact_mod_cast hlt)
  · have hlt : (n : ℚ) < (max a b : ℤ) + 1 := by linarith
    exact Int.lt_add_one_iff.1 (by exact_mod_cast hlt)

theorem eq_of_near {m n : ℤ} {x : ℚ} (hm : |(m : ℚ) - x| ≤ 1 / 2 + 1 / 2 ^ 38)
    (hn : |x - n| ≤ slack) : m = n := by
  have hlt : |(m : ℚ) - n| < 1 := by
    calc |(m : ℚ) - n| ≤ |(m : ℚ) - x| + |x - n| := abs_sub_le _ _ _
      _ ≤ 1 / 2 + 1 / 2 ^ 38 + slack := add_le_add hm hn
      _ < 1 := by norm_num [slack]
  have hint : |m - n| < 1 := by exact_mod_cast hlt
  exact sub_eq_zero.1 (Int.abs_lt_one_iff.1 hint)

theorem two_mul_abs_le {d e c : ℤ} {u v : ℚ} (hd : |d| < 2 ^ 14) (he : |e| < 2 ^ 14)
    (hv : |v| ≤ 1 / 2 + 1 / 2 ^ 38) (hu : |u| ≤ slack) (hc : (c : ℚ) = d * v - e * u) :
    2 * |c| ≤ |d| := by
  have hdq : |(d : ℚ)| ≤ 2 ^ 14 := by exact_mod_cast hd.le
  have heq : |(e : ℚ)| ≤ 2 ^ 14 := by exact_mod_cast he.le
  have hle : |(c : ℚ)| ≤ |(d : ℚ)| * |v| + |(e : ℚ)| * |u| := by
    rw [hc, ← abs_mul, ← abs_mul]
    exact abs_sub _ _
  have h1 : |(d : ℚ)| * |v| ≤ |(d : ℚ)| * (1 / 2) + 2 ^ 14 * (1 / 2 ^ 38) := by
    calc |(d : ℚ)| * |v| ≤ |(d : ℚ)| * (1 / 2 + 1 / 2 ^ 38) := by gcongr
      _ = |(d : ℚ)| * (1 / 2) + |(d : ℚ)| * (1 / 2 ^ 38) := mul_add ..
      _ ≤ _ := by gcongr
  have h2 : |(e : ℚ)| * |u| ≤ 2 ^ 14 * slack := by gcongr
  have hlt : 2 * |(c : ℚ)| < |(d : ℚ)| + 1 := by
    norm_num [slack] at h1 h2
    linarith
  exact Int.lt_add_one_iff.1 (by exact_mod_cast hlt)

namespace Segment

variable {s : Segment}

/-- Whether a pixel is at most half a pixel off a segment, between its ends. -/
structure Near (s : Segment) (p : ℤ × ℤ) : Prop where
  spans : s.Spans p
  cross : 2 * |s.cross p| ≤ s.steps

theorem near_start (s : Segment) : s.Near (s.x0, s.y0) where
  spans := ⟨Set.left_mem_uIcc, Set.left_mem_uIcc⟩
  cross := by simp [Segment.cross]

theorem near_end (s : Segment) : s.Near (s.x1, s.y1) where
  spans := ⟨Set.right_mem_uIcc, Set.right_mem_uIcc⟩
  cross := by simp [Segment.cross, mul_comm]

theorem cross_eq_sub (s : Segment) (p : ℤ × ℤ) (τ : ℚ) :
    ((s.cross p : ℤ) : ℚ) = (s.x1 - s.x0 : ℤ) * (p.2 - between s.y0 s.y1 τ) -
      (s.y1 - s.y0 : ℤ) * (p.1 - between s.x0 s.x1 τ) := by
  unfold Segment.cross between
  push_cast
  ring

theorem Crossing.abs_pixelAt_sub_le {right bottom : ℤ} (hright : 0 ≤ right) (hbottom : 0 ≤ bottom)
    (hs : s.IsModerate right bottom) {t : Float} (ht : IsFinite t)
    (h : s.Crossing right bottom (toRat t)) :
    |((s.pixelAt right bottom t).1 : ℚ) - between s.x0 s.x1 (toRat t)| ≤ 1 / 2 + 1 / 2 ^ 38 ∧
      |((s.pixelAt right bottom t).2 : ℚ) - between s.y0 s.y1 (toRat t)| ≤ 1 / 2 + 1 / 2 ^ 38 :=
  ⟨abs_pixel_sub_le hright hs.columns.start hs.columns.stop ht h.nonneg h.le_one h.left_le
      h.le_right,
    abs_pixel_sub_le hbottom hs.rows.start hs.rows.stop ht h.nonneg h.le_one h.top_le h.le_bottom⟩

/-- **The ends of a cut are next to the segment.** -/
theorem Crossing.near {right bottom : ℤ} (hright : 0 ≤ right) (hbottom : 0 ≤ bottom)
    (hs : s.IsModerate right bottom) {t : Float} (ht : IsFinite t)
    (h : s.Crossing right bottom (toRat t)) : s.Near (s.pixelAt right bottom t) := by
  obtain ⟨-, hdx⟩ := hs.columns.represents_length
  obtain ⟨-, hdy⟩ := hs.rows.represents_length
  obtain ⟨hx, hy⟩ := h.abs_pixelAt_sub_le hright hbottom hs ht
  have hcross := s.cross_eq_sub (s.pixelAt right bottom t) (toRat t)
  refine ⟨⟨pixel_between h.nonneg h.le_one hx, pixel_between h.nonneg h.le_one hy⟩, ?_⟩
  rcases h.onGrid with ⟨n, hn⟩ | ⟨n, hn⟩
  · -- the column does not move
    have hpixel := eq_of_near hx hn
    rw [abs_sub_comm, ← hpixel] at hn
    exact (two_mul_abs_le hdx hdy hy hn hcross).trans s.abs_width_le
  · -- the row does not move
    have hpixel := eq_of_near hy hn
    rw [abs_sub_comm, ← hpixel] at hn
    have hcross' : ((-s.cross (s.pixelAt right bottom t) : ℤ) : ℚ) = _ :=
      (Int.cast_neg _).trans ((congrArg _ hcross).trans (neg_sub _ _))
    have hle := two_mul_abs_le hdy hdx hx hn hcross'
    rw [abs_neg] at hle
    exact hle.trans s.abs_height_le

theorem near_cutTo {right bottom : ℤ} (hright : 0 ≤ right) (hbottom : 0 ≤ bottom)
    (hs : s.IsModerate right bottom) {clip : Clip} (h : s.clip? right bottom = some clip) :
    s.Near ((s.cutTo right bottom clip).x0, (s.cutTo right bottom clip).y0) ∧
      s.Near ((s.cutTo right bottom clip).x1, (s.cutTo right bottom clip).y1) := by
  obtain ⟨hsound, hlow, hhigh⟩ := crossing_of_clip? hs h
  exact ⟨hlow.near hright hbottom hs hsound.low_finite,
    hhigh.near hright hbottom hs hsound.high_finite⟩

/-! ## Pixels of the walk between the ends -/

theorem mem_uIcc_of_between {a b m n x : ℤ} {low τ high : ℚ} (hlo : low ≤ τ) (hhi : τ ≤ high)
    (hm : |(m : ℚ) - between a b low| ≤ 1 / 2 + 1 / 2 ^ 38)
    (hn : |(n : ℚ) - between a b high| ≤ 1 / 2 + 1 / 2 ^ 38) (hx : between a b τ = x) :
    x ∈ Set.uIcc m n := by
  have hle {k l : ℤ} (h : (k : ℚ) < l + 1) : k ≤ l := Int.lt_add_one_iff.1 (by exact_mod_cast h)
  rw [abs_le] at hm hn
  norm_num at hm hn
  unfold between at hm hn hx
  rw [Set.mem_uIcc]
  rcases le_total a b with hab | hab
  · have hd : (0 : ℚ) ≤ (b - a : ℤ) := by exact_mod_cast Int.sub_nonneg_of_le hab
    have h1 := mul_le_mul_of_nonneg_right hlo hd
    have h2 := mul_le_mul_of_nonneg_right hhi hd
    exact .inl ⟨hle (by linarith), hle (by linarith)⟩
  · have hd : ((b - a : ℤ) : ℚ) ≤ 0 := by exact_mod_cast Int.sub_nonpos_of_le hab
    have h1 := mul_le_mul_of_nonpos_right hlo hd
    have h2 := mul_le_mul_of_nonpos_right hhi hd
    exact .inr ⟨hle (by linarith), hle (by linarith)⟩

theorem exists_fraction {a b c d x y : ℤ} (hpos : 0 < (b - a).natAbs) (hx : x ∈ Set.uIcc a b)
    (hc : 2 * |(b - a) * (y - c) - (d - c) * (x - a)| ≤ (b - a).natAbs) :
    ∃ τ : ℚ, 0 ≤ τ ∧ τ ≤ 1 ∧ between a b τ = x ∧ |between c d τ - y| ≤ 1 / 2 := by
  obtain ⟨hplace, hle⟩ := eq_add_toward_of_mem hx
  have hlength := toward_mul_natAbs a b
  generalize (x - a).natAbs = k at hplace hle
  generalize (b - a).natAbs = m at *
  have hmq : (0 : ℚ) < m := by exact_mod_cast hpos
  have hkq : (k : ℚ) ≤ m := by exact_mod_cast hle
  refine ⟨k / m, by positivity, (div_le_one hmq).2 hkq, ?_, ?_⟩
  · rw [between, ← hlength, ← hplace]
    push_cast
    field_simp
  · have hcross : (((b - a) * (y - c) - (d - c) * (x - a) : ℤ) : ℚ) =
        -(toward a b * m * (between c d (k / m) - y)) := by
      rw [← hlength, ← hplace, between]
      push_cast
      field_simp
      ring
    have hcq : 2 * |(((b - a) * (y - c) - (d - c) * (x - a) : ℤ) : ℚ)| ≤ m := by exact_mod_cast hc
    have htoward : |(toward a b : ℚ)| = 1 := by exact_mod_cast abs_toward a b
    rw [hcross, abs_neg, abs_mul, abs_mul, htoward, one_mul, Nat.abs_cast] at hcq
    refine le_of_mul_le_mul_left ?_ hmq
    linarith

/-- Whether a pixel is at most half a pixel away from the point at a fraction of a segment, and not
at all along the longer axis. -/
structure Shows (s : Segment) (τ : ℚ) (q : ℤ × ℤ) : Prop where
  nonneg : 0 ≤ τ
  le_one : τ ≤ 1
  column_le : |between s.x0 s.x1 τ - q.1| ≤ 1 / 2
  row_le : |between s.y0 s.y1 τ - q.2| ≤ 1 / 2
  column_eq : s.height ≤ s.width → between s.x0 s.x1 τ = q.1
  row_eq : ¬s.height ≤ s.width → between s.y0 s.y1 τ = q.2

theorem exists_shows (hpos : 0 < s.steps) {q : ℤ × ℤ} (hq : q ∈ s.points) : ∃ τ, s.Shows τ q := by
  obtain ⟨hspan1, hspan2⟩ := spans_of_mem_points hq
  have hcross := two_mul_abs_cross_le hq
  unfold Segment.cross at hcross
  by_cases h : s.height ≤ s.width
  · rw [steps_of_le h] at hpos hcross
    obtain ⟨τ, h0, h1, heq, hle⟩ := exists_fraction hpos hspan1 hcross
    exact ⟨τ, h0, h1, by norm_num [heq], hle, fun _ => heq, fun hn => absurd h hn⟩
  · rw [steps_of_ge (Nat.le_of_not_le h)] at hpos hcross
    rw [abs_sub_comm] at hcross
    obtain ⟨τ, h0, h1, heq, hle⟩ := exists_fraction hpos hspan2 hcross
    exact ⟨τ, h0, h1, hle, by norm_num [heq], fun hn => absurd hn h, fun _ => heq⟩

theorem Shows.mem_uIcc {right bottom : ℤ} (hright : 0 ≤ right) (hbottom : 0 ≤ bottom)
    (hs : s.IsModerate right bottom) {clip : Clip} (h : s.clip? right bottom = some clip) {τ : ℚ}
    {q : ℤ × ℤ} (hq : s.Shows τ q) (hlo : toRat clip.low ≤ τ) (hhi : τ ≤ toRat clip.high) :
    (s.height ≤ s.width →
        q.1 ∈ Set.uIcc (s.cutTo right bottom clip).x0 (s.cutTo right bottom clip).x1) ∧
      (¬s.height ≤ s.width →
        q.2 ∈ Set.uIcc (s.cutTo right bottom clip).y0 (s.cutTo right bottom clip).y1) := by
  obtain ⟨hsound, hlow, hhigh⟩ := crossing_of_clip? hs h
  obtain ⟨hx0, hy0⟩ := hlow.abs_pixelAt_sub_le hright hbottom hs hsound.low_finite
  obtain ⟨hx1, hy1⟩ := hhigh.abs_pixelAt_sub_le hright hbottom hs hsound.high_finite
  exact ⟨fun h => mem_uIcc_of_between hlo hhi hx0 hx1 (hq.column_eq h),
    fun h => mem_uIcc_of_between hlo hhi hy0 hy1 (hq.row_eq h)⟩

/-- A pixel that is not at the sides is shown for a part of a segment that is left. -/
theorem Shows.exists_clip? {right bottom : ℤ} (hs : s.IsModerate right bottom) {τ : ℚ} {q : ℤ × ℤ}
    (hq : s.Shows τ q) (hleft : 0 < q.1) (hright : q.1 < right) (htop : 0 < q.2)
    (hbottom : q.2 < bottom) :
    ∃ clip, s.clip? right bottom = some clip ∧ toRat clip.low ≤ τ ∧ τ ≤ toRat clip.high := by
  obtain ⟨hxl, hxu⟩ := abs_le.1 hq.column_le
  obtain ⟨hyl, hyu⟩ := abs_le.1 hq.row_le
  have hleft' : (1 : ℚ) ≤ q.1 := by exact_mod_cast hleft
  have hright' : (q.1 : ℚ) + 1 ≤ right := by exact_mod_cast hright
  have htop' : (1 : ℚ) ≤ q.2 := by exact_mod_cast htop
  have hbottom' : (q.2 : ℚ) + 1 ≤ bottom := by exact_mod_cast hbottom
  have hslack : slack < 1 / 2 := by norm_num [slack]
  exact Segment.exists_clip? hs hq.nonneg hq.le_one (by linarith) (by linarith) (by linarith)
    (by linarith)

/-- **Nothing of the walk is lost.** The walk between the ends of a cut comes next to each pixel of
the uncut walk that is not at the sides. -/
theorem exists_mem_points_cutTo {right bottom : ℤ} (hs : s.IsModerate right bottom)
    (hpos : 0 < s.steps) {q : ℤ × ℤ} (hq : q ∈ s.points) (hleft : 0 < q.1) (hright : q.1 < right)
    (htop : 0 < q.2) (hbottom : q.2 < bottom) :
    ∃ clip, s.clip? right bottom = some clip ∧
      ∃ p ∈ (s.cutTo right bottom clip).points, |p.1 - q.1| + |p.2 - q.2| ≤ 1 := by
  have hright0 : 0 ≤ right := by omega
  have hbottom0 : 0 ≤ bottom := by omega
  obtain ⟨τ, hτ⟩ := exists_shows hpos hq
  obtain ⟨clip, hclip, hlo, hhi⟩ := hτ.exists_clip? hs hleft hright htop hbottom
  obtain ⟨hcolumn, hrow⟩ := hτ.mem_uIcc hright0 hbottom0 hs hclip hlo hhi
  obtain ⟨hend0, hend1⟩ := near_cutTo hright0 hbottom0 hs hclip
  exact ⟨clip, hclip,
    exists_mem_points_of_ends hend0.cross hend1.cross hpos hq hcolumn hrow⟩

end Segment

end SketchPreview
