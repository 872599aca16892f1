import SketchPreview.Proofs.Rounding.Number
import SketchPreview.Canvas.Line

/-!
# The cut of a segment

A segment is cut at the four sides of the canvas, one after the other. Each cut takes away what lies
beyond its side; the places of the cuts are quotients of integers and only a little off. What is
left ends on the sides or where the segment does.

* `slack`: how far the place of a cut may be off;
* `Clip.Sound`, `Clip.IsCut`, `Clip.isCut_of_cut?`: one cut;
* `Clip.cutAxis?`, `Clip.IsAxisCut`: the two cuts along one axis;
* `Segment.clip?`, `crossing_of_clip?`, `exists_clip?`: the cuts along both axes.
-/

namespace SketchPreview

open Rounding

/-! ## One cut -/

/-- How far the place of a cut may be off. -/
def slack : ℚ := 1 / 2 ^ 25

namespace Clip

/-- Whether something of a segment is left, between its ends. -/
structure Sound (clip : Clip) : Prop where
  low_finite : IsFinite clip.low
  high_finite : IsFinite clip.high
  nonneg : 0 ≤ toRat clip.low
  le : toRat clip.low ≤ toRat clip.high
  le_one : toRat clip.high ≤ 1

/-- Whether a clip is another one after a cut at the side where `τ * p` reaches `q`: an end that has
moved lies on that side, and what is left lies within it. -/
structure IsCut (p q : ℤ) (before after : Clip) : Prop where
  low_le : toRat before.low ≤ toRat after.low
  le_high : toRat after.high ≤ toRat before.high
  low_eq_or : after.low = before.low ∨ |toRat after.low * p - q| ≤ slack
  high_eq_or : after.high = before.high ∨ |toRat after.high * p - q| ≤ slack
  within {τ : ℚ} : toRat after.low ≤ τ → τ ≤ toRat after.high → τ * p ≤ q + slack

theorem le_toRat_ite {a b : Float} (ha : IsFinite a) (hb : IsFinite b) :
    IsFinite (if a < b then b else a) ∧
      toRat a ≤ toRat (if a < b then b else a) ∧ toRat b ≤ toRat (if a < b then b else a) := by
  split
  · next h => exact ⟨hb, ((lt_iff ha hb).1 h).le, le_rfl⟩
  · next h => exact ⟨ha, le_rfl, not_lt.1 fun hlt => h ((lt_iff ha hb).2 hlt)⟩

theorem toRat_ite_le {a b : Float} (ha : IsFinite a) (hb : IsFinite b) :
    IsFinite (if a < b then a else b) ∧
      toRat (if a < b then a else b) ≤ toRat a ∧ toRat (if a < b then a else b) ≤ toRat b := by
  split
  · next h => exact ⟨ha, le_rfl, ((lt_iff ha hb).1 h).le⟩
  · next h => exact ⟨hb, not_lt.1 fun hlt => h ((lt_iff ha hb).2 hlt), le_rfl⟩

theorem abs_quotient_mul_sub_le {p q : Float} {P Q : ℤ} (hp : Represents p P) (hq : Represents q Q)
    (hP : |P| < 2 ^ 14) (hQ : |Q| < 2 ^ 14) (hP0 : P ≠ 0) :
    IsFinite (q / p) ∧ |toRat (q / p) * P - Q| ≤ slack := by
  have hPq : (P : ℚ) ≠ 0 := Int.cast_ne_zero.2 hP0
  have hPlt : |(P : ℚ)| ≤ 2 ^ 14 := by exact_mod_cast hP.le
  have hPpos : 0 < |(P : ℚ)| := abs_pos.2 hPq
  have hQlt : |(Q : ℚ)| < 2 ^ 14 := by exact_mod_cast hQ
  have hone : 1 ≤ |(P : ℚ)| := by exact_mod_cast Int.one_le_abs hP0
  have hsize : |toRat q / toRat p| < 2 ^ 14 := by
    rw [hq.toRat_eq, hp.toRat_eq, abs_div]
    exact (div_le_self (abs_nonneg _) hone).trans_lt hQlt
  obtain ⟨hfinite, hnear, -⟩ := isRounded_div hq.isFinite hp.isFinite (hp.toRat_eq ▸ hPq) hsize
  refine ⟨hfinite, ?_⟩
  rw [hq.toRat_eq, hp.toRat_eq] at hnear
  calc |toRat (q / p) * P - Q| = |toRat (q / p) - Q / P| * |(P : ℚ)| := by
        rw [← abs_mul, sub_mul, div_mul_cancel₀ _ hPq]
    _ ≤ 1 / 2 ^ 39 * 2 ^ 14 := by gcongr
    _ = slack := by norm_num [slack]

section Side

variable {clip : Clip} {P Q : ℤ} {t : Float}

theorem isCut_parallel (hQ : 0 ≤ Q) : IsCut 0 Q clip clip where
  low_le := le_rfl
  le_high := le_rfl
  low_eq_or := .inl rfl
  high_eq_or := .inl rfl
  within _ _ := by
    have hQq : (0 : ℚ) ≤ Q := by exact_mod_cast hQ
    have hslack : (0 : ℚ) ≤ slack := by norm_num [slack]
    rw [Int.cast_zero, mul_zero]
    linarith

theorem isCut_low (hc : clip.Sound) (ht : IsFinite t) (hedge : |toRat t * P - Q| ≤ slack)
    (hP : P < 0) (hleft : ¬clip.high < if clip.low < t then t else clip.low) :
    (Clip.mk (if clip.low < t then t else clip.low) clip.high).Sound ∧
      IsCut P Q clip ⟨if clip.low < t then t else clip.low, clip.high⟩ := by
  obtain ⟨hlow, hle, hle'⟩ := le_toRat_ite hc.low_finite ht
  have hleft' := not_lt.1 fun hlt => hleft ((lt_iff hc.high_finite hlow).2 hlt)
  have hPq : (P : ℚ) ≤ 0 := by exact_mod_cast hP.le
  refine ⟨⟨hlow, hc.high_finite, hc.nonneg.trans hle, hleft', hc.le_one⟩, hle, le_rfl, ?_, .inl rfl,
    fun {τ} hτ _ => ?_⟩
  · simp only
    split
    · exact .inr hedge
    · exact .inl rfl
  · have hmul : τ * P ≤ toRat t * P := mul_le_mul_of_nonpos_right (hle'.trans hτ) hPq
    linarith [(abs_le.1 hedge).2]

theorem isCut_high (hc : clip.Sound) (ht : IsFinite t) (hedge : |toRat t * P - Q| ≤ slack)
    (hP : 0 ≤ P) (hleft : ¬(if t < clip.high then t else clip.high) < clip.low) :
    (Clip.mk clip.low (if t < clip.high then t else clip.high)).Sound ∧
      IsCut P Q clip ⟨clip.low, if t < clip.high then t else clip.high⟩ := by
  obtain ⟨hhigh, hle, hle'⟩ := toRat_ite_le ht hc.high_finite
  have hleft' := not_lt.1 fun hlt => hleft ((lt_iff hhigh hc.low_finite).2 hlt)
  have hPq : (0 : ℚ) ≤ P := by exact_mod_cast hP
  refine ⟨⟨hc.low_finite, hhigh, hc.nonneg, hleft', hle'.trans hc.le_one⟩, le_rfl, hle', .inl rfl,
    ?_, fun {τ} _ hτ => ?_⟩
  · simp only
    split
    · exact .inr hedge
    · exact .inl rfl
  · have hmul : τ * P ≤ toRat t * P := mul_le_mul_of_nonneg_right (hτ.trans hle) hPq
    linarith [(abs_le.1 hedge).2]

end Side

/-- **One cut.** What is left of a sound clip is sound, and lies within the side. -/
theorem isCut_of_cut? {clip clip' : Clip} (hc : clip.Sound) {p q : Float} {P Q : ℤ}
    (hp : Represents p P) (hq : Represents q Q) (hP : |P| < 2 ^ 14) (hQ : |Q| < 2 ^ 14)
    (h : clip.cut? p q = some clip') : clip'.Sound ∧ IsCut P Q clip clip' := by
  unfold cut? at h
  by_cases hzero : P = 0
  · rw [if_pos (hp.beq_zero_iff.2 hzero), Option.ite_none_left_eq_some, hq.lt_zero_iff,
      Option.some_inj] at h
    obtain ⟨hneg, rfl⟩ := h
    exact ⟨hc, hzero ▸ isCut_parallel (not_lt.1 hneg)⟩
  · obtain ⟨hfinite, hedge⟩ := abs_quotient_mul_sub_le hp hq hP hQ hzero
    rw [if_neg fun heq => hzero (hp.beq_zero_iff.1 heq)] at h
    simp only at h
    by_cases hneg : P < 0
    · rw [if_pos (hp.lt_zero_iff.2 hneg), Option.ite_none_left_eq_some, Option.some_inj] at h
      obtain ⟨hleft, rfl⟩ := h
      exact isCut_low hc hfinite hedge hneg hleft
    · rw [if_neg fun hlt => hneg (hp.lt_zero_iff.1 hlt), Option.ite_none_left_eq_some,
        Option.some_inj] at h
      obtain ⟨hleft, rfl⟩ := h
      exact isCut_high hc hfinite hedge (not_lt.1 hneg) hleft

theorem exists_cut? {clip : Clip} (hc : clip.Sound) {p q : Float} {P Q : ℤ} (hp : Represents p P)
    (hq : Represents q Q) (hP : |P| < 2 ^ 14) (hQ : |Q| < 2 ^ 14) {τ : ℚ}
    (hlo : toRat clip.low ≤ τ) (hhi : τ ≤ toRat clip.high) (hτ : τ * P + slack < Q) :
    ∃ clip', clip.cut? p q = some clip' ∧ toRat clip'.low ≤ τ ∧ τ ≤ toRat clip'.high := by
  unfold cut?
  by_cases hzero : P = 0
  · have hQ0 : 0 ≤ Q := by
      have hslack : (0 : ℚ) ≤ slack := by norm_num [slack]
      rw [hzero, Int.cast_zero, mul_zero, zero_add] at hτ
      exact_mod_cast hslack.trans hτ.le
    rw [if_pos (hp.beq_zero_iff.2 hzero), if_neg fun hneg => (hq.lt_zero_iff.1 hneg).not_ge hQ0]
    exact ⟨clip, rfl, hlo, hhi⟩
  · obtain ⟨hfinite, hedge⟩ := abs_quotient_mul_sub_le hp hq hP hQ hzero
    rw [abs_le] at hedge
    rw [if_neg fun heq => hzero (hp.beq_zero_iff.1 heq)]
    simp only
    generalize q / p = t at *
    by_cases hneg : P < 0
    · have hPq : (P : ℚ) < 0 := by exact_mod_cast hneg
      have ht : toRat t ≤ τ := (lt_of_mul_lt_mul_of_nonpos_right (by linarith) hPq.le).le
      have hlow : toRat (if clip.low < t then t else clip.low) ≤ τ := by split <;> assumption
      rw [if_pos (hp.lt_zero_iff.2 hneg), if_neg]
      · exact ⟨_, rfl, hlow, hhi⟩
      · rw [lt_iff hc.high_finite (le_toRat_ite hc.low_finite hfinite).1]
        exact not_lt.2 (hlow.trans hhi)
    · have hPq : (0 : ℚ) ≤ P := by exact_mod_cast not_lt.1 hneg
      have ht : τ ≤ toRat t := (lt_of_mul_lt_mul_right (by linarith) hPq).le
      have hhigh : τ ≤ toRat (if t < clip.high then t else clip.high) := by split <;> assumption
      rw [if_neg fun hlt => hneg (hp.lt_zero_iff.1 hlt), if_neg]
      · exact ⟨_, rfl, hlo, hhigh⟩
      · rw [lt_iff (toRat_ite_le hfinite hc.high_finite).1 hc.low_finite]
        exact not_lt.2 (hlo.trans hhigh)

theorem sound_whole : (Clip.mk 0.0 1.0).Sound where
  low_finite := isFinite_zero
  high_finite := isFinite_one
  nonneg := toRat_zero.ge
  le := by rw [toRat_zero, toRat_one]; exact zero_le_one
  le_one := toRat_one.le

end Clip

/-! ## One axis -/

/-- The number at a fraction of the way from one integer to another. -/
def between (a b : ℤ) (τ : ℚ) : ℚ := a + τ * (b - a : ℤ)

theorem between_zero (a b : ℤ) : between a b 0 = a := by simp [between]

theorem between_one (a b : ℤ) : between a b 1 = b := by simp [between]

theorem between_eq (a b : ℤ) (τ : ℚ) : between a b τ = (1 - τ) * a + τ * b := by
  unfold between
  push_cast
  ring

/-- A coordinate at a fraction of the way from one integer to another, as it is computed. -/
def along (a b : ℤ) (t : Float) : Float := Float.ofInt a + t * (Float.ofInt b - Float.ofInt a)

namespace Clip

/-- The cuts at the first and the last row or column, for a segment that goes from `a` to `b`. -/
def cutAxis? (clip : Clip) (a b last : ℤ) : Option Clip :=
  (clip.cut? (-(Float.ofInt b - Float.ofInt a)) (Float.ofInt a)).bind fun clip =>
    clip.cut? (Float.ofInt b - Float.ofInt a) (Float.ofInt last - Float.ofInt a)

/-- Whether a clip is another one after the cuts along one axis: an end that has moved has an
integer as this coordinate, but for the slack, and what is left lies between the sides. -/
structure IsAxisCut (a b last : ℤ) (before after : Clip) : Prop where
  low_le : toRat before.low ≤ toRat after.low
  le_high : toRat after.high ≤ toRat before.high
  low_eq_or : after.low = before.low ∨ ∃ n : ℤ, |between a b (toRat after.low) - n| ≤ slack
  high_eq_or : after.high = before.high ∨ ∃ n : ℤ, |between a b (toRat after.high) - n| ≤ slack
  within {τ : ℚ} : toRat after.low ≤ τ → τ ≤ toRat after.high →
    -slack ≤ between a b τ ∧ between a b τ ≤ last + slack

section Axis

variable {a b last : ℤ}

theorem abs_between_sub_zero (a b : ℤ) (τ : ℚ) :
    |between a b τ - (0 : ℤ)| = |τ * (-(b - a) : ℤ) - a| := by
  rw [← abs_neg, between]
  congr 1
  push_cast
  ring

theorem abs_between_sub (a b last : ℤ) (τ : ℚ) :
    |between a b τ - last| = |τ * (b - a : ℤ) - (last - a : ℤ)| := by
  rw [between]
  congr 1
  push_cast
  ring

theorem IsAxisCut.of_isCut {before middle after : Clip} (h1 : IsCut (-(b - a)) a before middle)
    (h2 : IsCut (b - a) (last - a) middle after) : IsAxisCut a b last before after where
  low_le := h1.low_le.trans h2.low_le
  le_high := h2.le_high.trans h1.le_high
  low_eq_or := by
    rcases h2.low_eq_or with heq | hedge
    · rw [heq]
      exact h1.low_eq_or.imp_right fun hedge => ⟨0, by rwa [abs_between_sub_zero]⟩
    · exact .inr ⟨last, by rwa [abs_between_sub]⟩
  high_eq_or := by
    rcases h2.high_eq_or with heq | hedge
    · rw [heq]
      exact h1.high_eq_or.imp_right fun hedge => ⟨0, by rwa [abs_between_sub_zero]⟩
    · exact .inr ⟨last, by rwa [abs_between_sub]⟩
  within {τ} hlo hhi := by
    have w1 := h1.within (h2.low_le.trans hlo) (hhi.trans h2.le_high)
    have w2 := h2.within hlo hhi
    unfold between
    push_cast at w1 w2 ⊢
    constructor <;> linarith

/-- Integers that a canvas can have as coordinates. -/
structure IsAxis (a b last : ℤ) : Prop where
  start : |a| < 2 ^ 13
  stop : |b| < 2 ^ 13
  last : |last| < 2 ^ 13

variable (h : IsAxis a b last)

include h

theorem IsAxis.represents_start : Represents (Float.ofInt a) a ∧ |a| < 2 ^ 14 := by
  have ha : |a| < 2 ^ 14 := h.start.trans (by decide)
  exact ⟨represents_ofInt ha, ha⟩

theorem IsAxis.represents_length :
    Represents (Float.ofInt b - Float.ofInt a) (b - a : ℤ) ∧ |b - a| < 2 ^ 14 := by
  have hsize : |b - a| < 2 ^ 14 := by
    have ha := abs_lt.1 h.start
    have hb := abs_lt.1 h.stop
    exact abs_lt.2 ⟨by omega, by omega⟩
  have hb : |b| < 2 ^ 14 := h.stop.trans (by decide)
  exact ⟨represents_sub (represents_ofInt hb) h.represents_start.1 hsize, hsize⟩

theorem IsAxis.represents_neg_length :
    Represents (-(Float.ofInt b - Float.ofInt a)) (-(b - a) : ℤ) ∧ |-(b - a)| < 2 ^ 14 := by
  obtain ⟨hrep, hsize⟩ := h.represents_length
  refine ⟨?_, (abs_neg _).trans_lt hsize⟩
  rw [Int.cast_neg]
  exact hrep.neg

theorem IsAxis.represents_rest :
    Represents (Float.ofInt last - Float.ofInt a) (last - a : ℤ) ∧ |last - a| < 2 ^ 14 := by
  have hsize : |last - a| < 2 ^ 14 := by
    have ha := abs_lt.1 h.start
    have hl := abs_lt.1 h.last
    exact abs_lt.2 ⟨by omega, by omega⟩
  have hl : |last| < 2 ^ 14 := h.last.trans (by decide)
  exact ⟨represents_sub (represents_ofInt hl) h.represents_start.1 hsize, hsize⟩

/-- **The cut along an axis.** -/
theorem isAxisCut_of_cutAxis? {clip clip' : Clip} (hc : clip.Sound)
    (hcut : clip.cutAxis? a b last = some clip') : clip'.Sound ∧ IsAxisCut a b last clip clip' := by
  obtain ⟨middle, hcut1, hcut2⟩ := Option.bind_eq_some_iff.1 hcut
  obtain ⟨hp1, hP1⟩ := h.represents_neg_length
  obtain ⟨hq1, hQ1⟩ := h.represents_start
  obtain ⟨hp2, hP2⟩ := h.represents_length
  obtain ⟨hq2, hQ2⟩ := h.represents_rest
  obtain ⟨hmiddle, h1⟩ := isCut_of_cut? hc hp1 hq1 hP1 hQ1 hcut1
  obtain ⟨hc', h2⟩ := isCut_of_cut? hmiddle hp2 hq2 hP2 hQ2 hcut2
  exact ⟨hc', .of_isCut h1 h2⟩

theorem exists_cutAxis? {clip : Clip} (hc : clip.Sound) {τ : ℚ} (hlo : toRat clip.low ≤ τ)
    (hhi : τ ≤ toRat clip.high) (h0 : slack < between a b τ) (h1 : between a b τ + slack < last) :
    ∃ clip', clip.cutAxis? a b last = some clip' ∧
      toRat clip'.low ≤ τ ∧ τ ≤ toRat clip'.high := by
  obtain ⟨hp1, hP1⟩ := h.represents_neg_length
  obtain ⟨hq1, hQ1⟩ := h.represents_start
  obtain ⟨hp2, hP2⟩ := h.represents_length
  obtain ⟨hq2, hQ2⟩ := h.represents_rest
  unfold between at h0 h1
  obtain ⟨middle, hcut1, hlo1, hhi1⟩ := exists_cut? hc hp1 hq1 hP1 hQ1 hlo hhi (by
    push_cast at h0 ⊢
    linarith)
  obtain ⟨hmiddle, -⟩ := isCut_of_cut? hc hp1 hq1 hP1 hQ1 hcut1
  obtain ⟨clip', hcut2, hlo2, hhi2⟩ := exists_cut? hmiddle hp2 hq2 hP2 hQ2 hlo1 hhi1 (by
    push_cast at h1 ⊢
    linarith)
  exact ⟨clip', Option.bind_eq_some_iff.2 ⟨middle, hcut1, hcut2⟩, hlo2, hhi2⟩

end Axis

end Clip

/-! ## Both axes -/

namespace Segment

/-- What is left of a segment between the sides of a canvas, as fractions of it. -/
def clip? (s : Segment) (right bottom : ℤ) : Option Clip :=
  ((Clip.mk 0.0 1.0).cutAxis? s.x0 s.x1 right).bind fun clip => clip.cutAxis? s.y0 s.y1 bottom

/-- The pixel that the cut makes of a fraction of a segment. -/
def pixelAt (s : Segment) (right bottom : ℤ) (t : Float) : ℤ × ℤ :=
  (nearestPixel right (along s.x0 s.x1 t), nearestPixel bottom (along s.y0 s.y1 t))

/-- The segment between the pixels at the ends of a clip. -/
def cutTo (s : Segment) (right bottom : ℤ) (clip : Clip) : Segment where
  x0 := (s.pixelAt right bottom clip.low).1
  y0 := (s.pixelAt right bottom clip.low).2
  x1 := (s.pixelAt right bottom clip.high).1
  y1 := (s.pixelAt right bottom clip.high).2

/-- Whether the point at a fraction of a segment has an integer as a coordinate, but for the slack
of a cut. -/
def OnGrid (s : Segment) (τ : ℚ) : Prop :=
  (∃ n : ℤ, |between s.x0 s.x1 τ - n| ≤ slack) ∨ ∃ n : ℤ, |between s.y0 s.y1 τ - n| ≤ slack

/-- Whether the point at a fraction of a segment lies between the sides of a canvas, and on one of
them or at an end. -/
structure Crossing (s : Segment) (right bottom : ℤ) (τ : ℚ) : Prop where
  nonneg : 0 ≤ τ
  le_one : τ ≤ 1
  left_le : -slack ≤ between s.x0 s.x1 τ
  le_right : between s.x0 s.x1 τ ≤ right + slack
  top_le : -slack ≤ between s.y0 s.y1 τ
  le_bottom : between s.y0 s.y1 τ ≤ bottom + slack
  onGrid : s.OnGrid τ

/-- Whether the ends of a segment and the sides are no farther out than canvases can reach. -/
structure IsModerate (s : Segment) (right bottom : ℤ) : Prop where
  columns : Clip.IsAxis s.x0 s.x1 right
  rows : Clip.IsAxis s.y0 s.y1 bottom

variable {s : Segment} {right bottom : ℤ}

theorem onGrid_ends (s : Segment) : s.OnGrid 0 ∧ s.OnGrid 1 := by
  constructor
  · exact .inl ⟨s.x0, by rw [between_zero]; norm_num [slack]⟩
  · exact .inl ⟨s.x1, by rw [between_one]; norm_num [slack]⟩

/-- **The cut along both axes.** What is left ends between the sides, and on one of them or where
the segment does. -/
theorem crossing_of_clip? (hs : s.IsModerate right bottom) {clip : Clip}
    (h : s.clip? right bottom = some clip) :
    clip.Sound ∧ s.Crossing right bottom (toRat clip.low) ∧
      s.Crossing right bottom (toRat clip.high) := by
  obtain ⟨middle, hcut1, hcut2⟩ := Option.bind_eq_some_iff.1 h
  obtain ⟨hmiddle, h1⟩ := Clip.isAxisCut_of_cutAxis? hs.columns Clip.sound_whole hcut1
  obtain ⟨hsound, h2⟩ := Clip.isAxisCut_of_cutAxis? hs.rows hmiddle hcut2
  have hwithin {τ : ℚ} (hlo : toRat clip.low ≤ τ) (hhi : τ ≤ toRat clip.high)
      (hgrid : s.OnGrid τ) : s.Crossing right bottom τ := by
    obtain ⟨hleft, hright⟩ := h1.within (h2.low_le.trans hlo) (hhi.trans h2.le_high)
    obtain ⟨htop, hbottom⟩ := h2.within hlo hhi
    exact ⟨hsound.nonneg.trans hlo, hhi.trans hsound.le_one, hleft, hright, htop, hbottom, hgrid⟩
  refine ⟨hsound, hwithin le_rfl hsound.le ?_, hwithin hsound.le le_rfl ?_⟩
  · rcases h2.low_eq_or with heq | hedge
    · rw [heq]
      rcases h1.low_eq_or with heq | hedge
      · rw [heq, toRat_zero]
        exact s.onGrid_ends.1
      · exact .inl hedge
    · exact .inr hedge
  · rcases h2.high_eq_or with heq | hedge
    · rw [heq]
      rcases h1.high_eq_or with heq | hedge
      · rw [heq, toRat_one]
        exact s.onGrid_ends.2
      · exact .inl hedge
    · exact .inr hedge

/-- Whatever of a segment lies between the sides is left. -/
theorem exists_clip? (hs : s.IsModerate right bottom) {τ : ℚ} (h0 : 0 ≤ τ) (h1 : τ ≤ 1)
    (hleft : slack < between s.x0 s.x1 τ) (hright : between s.x0 s.x1 τ + slack < right)
    (htop : slack < between s.y0 s.y1 τ) (hbottom : between s.y0 s.y1 τ + slack < bottom) :
    ∃ clip, s.clip? right bottom = some clip ∧ toRat clip.low ≤ τ ∧ τ ≤ toRat clip.high := by
  obtain ⟨middle, hcut1, hlo1, hhi1⟩ := Clip.exists_cutAxis? hs.columns Clip.sound_whole
    (toRat_zero.trans_le h0) (h1.trans_eq toRat_one.symm) hleft hright
  obtain ⟨hmiddle, -⟩ := Clip.isAxisCut_of_cutAxis? hs.columns Clip.sound_whole hcut1
  obtain ⟨clip, hcut2, hlo2, hhi2⟩ := Clip.exists_cutAxis? hs.rows hmiddle hlo1 hhi1 htop hbottom
  exact ⟨clip, Option.bind_eq_some_iff.2 ⟨middle, hcut1, hcut2⟩, hlo2, hhi2⟩

end Segment

namespace Canvas

theorem clipSegment?_eq {c : Canvas} (hc : ¬(c.width = 0 ∨ c.height = 0)) (s : Segment) :
    c.clipSegment? s =
      if c.Holds s.x0 s.y0 ∧ c.Holds s.x1 s.y1 then some s
      else (s.clip? (c.width - 1) (c.height - 1)).map (s.cutTo (c.width - 1) (c.height - 1)) := by
  rw [clipSegment?, if_neg hc]
  congr 1
  simp only [Segment.clip?, Clip.cutAxis?, Option.bind_assoc]
  rfl

end Canvas

end SketchPreview
