import SketchPreview.Proofs.Rounding.Arithmetic

/-!
# Binary64 numbers as rational ones

What holds of unpacked numbers holds of binary64 numbers, which are packed. Integers of moderate
size and their differences are exact, all other results are rounded, and comparison is exact.

* `IsFinite`, `toRat`: the rational number that a finite one is;
* `IsRounded`: a finite number is a rational one after rounding;
* `isRounded_add`, `isRounded_sub`, `isRounded_mul`, `isRounded_div`, `lt_iff`, `beq_iff`;
* `Represents`, `represents_ofNat`, `represents_ofScientific`, `represents_ofInt`, `represents_sub`:
  exact numbers.
-/

namespace SketchPreview.Rounding

open Float.Model Float.Model.UnpackedFloat

/-- Whether a number is neither infinite nor not a number. -/
def IsFinite (v : Float) : Prop := IsCanonical v.toModel.unpack

/-- The rational number that a finite one is. -/
def toRat (v : Float) : ℚ := value v.toModel.unpack

/-- Whether a number is a rational one of moderate size after rounding. -/
structure IsRounded (v : Float) (x : ℚ) : Prop where
  isFinite : IsFinite v
  near : |toRat v - x| ≤ 1 / 2 ^ 39
  eq_of_int {n : ℤ} : x = n → toRat v = n

theorem Rounds.isRounded {u : UnpackedFloat} {v : Float} {x : ℚ} (h : Rounds u x)
    (hsize : |x| < 2 ^ 14) (hv : v.toModel.unpack = (Float.Model.pack u).unpack) :
    IsRounded v x := by
  have hu : v.toModel.unpack = u := hv.trans (unpack_pack h.canonical)
  subst hu
  exact ⟨h.canonical, h.near hsize, h.eq_of_int⟩

theorem lt_two_pow_53 {x : ℚ} (h : |x| < 2 ^ 14) : |x| < 2 ^ 53 := h.trans (by norm_num)

/-! ## Arithmetic and comparison -/

section Float

variable {a b : Float}

theorem isRounded_add (ha : IsFinite a) (hb : IsFinite b) (hsize : |toRat a + toRat b| < 2 ^ 14) :
    IsRounded (a + b) (toRat a + toRat b) :=
  (rounds_add ha hb (lt_two_pow_53 hsize)).isRounded hsize rfl

theorem unpack_neg (ha : IsFinite a) : (-a).toModel.unpack = a.toModel.unpack.neg :=
  unpack_pack (IsCanonical.neg ha)

theorem IsFinite.neg (ha : IsFinite a) : IsFinite (-a) := by
  unfold IsFinite
  rw [unpack_neg ha]
  exact IsCanonical.neg ha

theorem toRat_neg (ha : IsFinite a) : toRat (-a) = -toRat a := by
  unfold toRat
  rw [unpack_neg ha, value_neg]

theorem isRounded_sub (ha : IsFinite a) (hb : IsFinite b) (hsize : |toRat a - toRat b| < 2 ^ 14) :
    IsRounded (a - b) (toRat a - toRat b) := by
  have hvalue : value a.toModel.unpack + value b.toModel.unpack.neg = toRat a - toRat b := by
    rw [value_neg, ← sub_eq_add_neg]
    rfl
  have hadd := rounds_add ha (IsCanonical.neg hb) (hvalue ▸ lt_two_pow_53 hsize)
  rw [hvalue, ← sub_eq_add] at hadd
  exact hadd.isRounded hsize rfl

theorem isRounded_mul (ha : IsFinite a) (hb : IsFinite b) (hsize : |toRat a * toRat b| < 2 ^ 14) :
    IsRounded (a * b) (toRat a * toRat b) :=
  (rounds_mul ha hb (lt_two_pow_53 hsize)).isRounded hsize rfl

theorem isRounded_div (ha : IsFinite a) (hb : IsFinite b) (hne : toRat b ≠ 0)
    (hsize : |toRat a / toRat b| < 2 ^ 14) : IsRounded (a / b) (toRat a / toRat b) :=
  (rounds_div ha hb hne (lt_two_pow_53 hsize)).isRounded hsize rfl

theorem lt_iff (ha : IsFinite a) (hb : IsFinite b) : a < b ↔ toRat a < toRat b := by
  have hlt : a < b ↔ a.toModel.unpack.compare b.toModel.unpack = some .lt :=
    decide_eq_true_iff.trans beq_iff_eq
  rw [hlt, compare_eq ha hb, Option.some_inj, compare_lt_iff_lt]
  rfl

theorem beq_iff (ha : IsFinite a) (hb : IsFinite b) : (a == b) = true ↔ toRat a = toRat b := by
  have hbeq : (a == b) = (a.toModel.unpack.compare b.toModel.unpack == some .eq) := rfl
  rw [hbeq, beq_iff_eq, compare_eq ha hb, Option.some_inj, compare_eq_iff_eq]
  rfl

end Float

/-! ## Zero, one and the integers -/

theorem unpack_one :
    (1.0 : Float).toModel.unpack = .finite .positive (2 ^ 52) (-52) (by decide) := rfl

theorem isFinite_zero : IsFinite 0.0 := trivial

theorem toRat_zero : toRat 0.0 = 0 := rfl

theorem isFinite_one : IsFinite 1.0 := by
  unfold IsFinite
  rw [unpack_one]
  exact ⟨by decide, by decide, by decide, .inl le_rfl⟩

theorem toRat_one : toRat 1.0 = 1 := by
  unfold toRat
  rw [unpack_one, value_positive]
  norm_num

/-- Whether a number is exactly a rational one. -/
structure Represents (v : Float) (x : ℚ) : Prop where
  isFinite : IsFinite v
  toRat_eq : toRat v = x

theorem Rounds.represents {u : UnpackedFloat} {v : Float} {n : ℤ} (h : Rounds u n)
    (hv : v.toModel.unpack = (Float.Model.pack u).unpack) : Represents v n := by
  have hu : v.toModel.unpack = u := hv.trans (unpack_pack h.canonical)
  subst hu
  exact ⟨h.canonical, h.eq_of_int rfl⟩

theorem abs_natCast_lt {n : ℕ} (hn : n < 2 ^ 53) : |((n : ℤ) : ℚ)| < 2 ^ 53 := by
  rw [Int.cast_natCast, Nat.abs_cast]
  exact_mod_cast hn

theorem represents_toFloat {n : ℕ} (hn : n < 2 ^ 53) : Represents n.toUInt64.toFloat n := by
  have hnat : n.toUInt64.toNat = n := Nat.mod_eq_of_lt (hn.trans (by decide))
  have hrounds : Rounds (UnpackedFloat.normalize Format.binary64 (n : ℤ) 0 .positive)
      (((n : ℤ) : ℚ) * 2 ^ (0 : ℤ)) := by
    refine rounds_normalize _ ?_
    rw [zpow_zero, mul_one]
    exact abs_natCast_lt hn
  rw [zpow_zero, mul_one] at hrounds
  refine Int.cast_natCast (R := ℚ) n ▸ hrounds.represents ?_
  show (Float.Model.pack
    (UnpackedFloat.normalize Format.binary64 (n.toUInt64.toNat : ℤ) 0 .positive)).unpack = _
  rw [hnat]

theorem represents_ofNat {n : ℕ} (hn : n < 2 ^ 53) : Represents (Float.ofNat n) n := by
  have hmul : Float.ofNat n = n.toUInt64.toFloat * 1.0 := by
    have hsmall : n < 2 ^ 53 ∧ 0 ≤ 22 := ⟨hn, by decide⟩
    exact dif_pos hsmall
  obtain ⟨hfinite, hvalue⟩ := represents_toFloat hn
  have hproduct : value n.toUInt64.toFloat.toModel.unpack * value (1.0 : Float).toModel.unpack =
      (n : ℤ) := by
    rw [← toRat, ← toRat, hvalue, toRat_one, mul_one, Int.cast_natCast]
  have hrounds := rounds_mul hfinite isFinite_one (hproduct ▸ abs_natCast_lt hn)
  rw [hproduct] at hrounds
  rw [hmul]
  exact Int.cast_natCast (R := ℚ) n ▸ hrounds.represents rfl

/-- A literal without a point is exact, as long as it is of moderate size. -/
theorem represents_ofScientific {n : ℕ} (hn : n < 2 ^ 53) :
    Represents (Float.ofScientific n true 0) n := by
  have hdiv : Float.ofScientific n true 0 = n.toUInt64.toFloat / 1.0 := by
    have hsmall : n < 2 ^ 53 ∧ 0 ≤ 22 := ⟨hn, by decide⟩
    exact dif_pos hsmall
  obtain ⟨hfinite, hvalue⟩ := represents_toFloat hn
  have hquotient : value n.toUInt64.toFloat.toModel.unpack / value (1.0 : Float).toModel.unpack =
      (n : ℤ) := by
    rw [← toRat, ← toRat, hvalue, toRat_one, div_one, Int.cast_natCast]
  have hone : value (1.0 : Float).toModel.unpack ≠ 0 := by
    rw [← toRat, toRat_one]
    exact one_ne_zero
  have hrounds := rounds_div hfinite isFinite_one hone (hquotient ▸ abs_natCast_lt hn)
  rw [hquotient] at hrounds
  rw [hdiv]
  exact Int.cast_natCast (R := ℚ) n ▸ hrounds.represents rfl

theorem Represents.neg {a : Float} {x : ℚ} (ha : Represents a x) : Represents (-a) (-x) :=
  ⟨ha.isFinite.neg, (toRat_neg ha.isFinite).trans (congrArg _ ha.toRat_eq)⟩

theorem represents_ofInt {n : ℤ} (hn : |n| < 2 ^ 14) : Represents (Float.ofInt n) n := by
  cases n with
  | ofNat n =>
    have hsmall : n < 2 ^ 53 := (by simpa using hn : n < 2 ^ 14).trans (by decide)
    exact represents_ofNat hsmall
  | negSucc n =>
    have hlow := (abs_lt.1 hn).1
    have hsmall : n + 1 < 2 ^ 53 := by omega
    have hneg := (represents_ofNat hsmall).neg
    rwa [← Int.cast_negSucc] at hneg

theorem represents_sub {a b : Float} {m n : ℤ} (ha : Represents a m) (hb : Represents b n)
    (hsize : |m - n| < 2 ^ 14) : Represents (a - b) (m - n : ℤ) := by
  have hvalue : toRat a - toRat b = (m - n : ℤ) := by rw [ha.toRat_eq, hb.toRat_eq, Int.cast_sub]
  have hrounded := isRounded_sub ha.isFinite hb.isFinite (by
    rw [hvalue]
    exact_mod_cast hsize)
  exact ⟨hrounded.isFinite, hrounded.eq_of_int hvalue⟩

theorem Represents.lt_zero_iff {p : Float} {P : ℤ} (hp : Represents p P) : p < 0.0 ↔ P < 0 := by
  rw [lt_iff hp.isFinite isFinite_zero, hp.toRat_eq, toRat_zero, Int.cast_lt_zero]

theorem Represents.beq_zero_iff {p : Float} {P : ℤ} (hp : Represents p P) :
    (p == 0.0) = true ↔ P = 0 := by
  rw [beq_iff hp.isFinite isFinite_zero, hp.toRat_eq, toRat_zero, Int.cast_eq_zero]

end SketchPreview.Rounding
