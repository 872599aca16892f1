import SketchPreview.Proofs.Rounding.Value

/-!
# Rounding a mantissa

A result is rounded by shifting its mantissa to the right until 53 bits are left, where a round bit
and a sticky bit tell of what was shifted out, then by one step up or none, and then by shifting
once more if that step made a 54th bit.

* `Brackets`: a mantissa is the integer part of a number, and the bits tell whether it is the
  number;
* `Brackets.shiftRight`, `Brackets.abs_rounded_lt`: shifting keeps that, and rounding is less than
  one off;
* `Rounds`: an unpacked number is a rational number of moderate size, rounded;
* `rounds_roundWithAccuracy`.
-/

namespace SketchPreview.Rounding

open Float.Model Float.Model.UnpackedFloat

/-- Whether a mantissa is the integer part of a number. The two are equal if no residual bit is
set. -/
def Brackets (em : ExtendedMantissa) (y : ℚ) : Prop :=
  em.roundBit = false ∧ em.stickyBit = false ∧ y = em.mantissa ∨
    (em.mantissa : ℚ) < y ∧ y < em.mantissa + 1

namespace Brackets

variable {em : ExtendedMantissa} {y : ℚ}

theorem le (h : Brackets em y) : (em.mantissa : ℚ) ≤ y := by
  rcases h with ⟨-, -, h⟩ | ⟨h, -⟩ <;> linarith

theorem lt (h : Brackets em y) : y < em.mantissa + 1 := by
  rcases h with ⟨-, -, h⟩ | ⟨-, h⟩ <;> linarith

theorem shiftRightOne (h : Brackets em y) : Brackets em.shiftRightOne (y / 2) := by
  obtain ⟨m, r, s⟩ := em
  have hm : (m : ℚ) = 2 * (m / 2 : ℕ) + (m % 2 : ℕ) := by
    exact_mod_cast (Nat.div_add_mod m 2).symm
  rcases Nat.mod_two_eq_zero_or_one m with hpar | hpar
  · rw [hpar, Nat.cast_zero, add_zero] at hm
    rcases h with ⟨rfl, rfl, hy⟩ | ⟨hlo, hhi⟩
    · refine .inl ⟨by simp [ExtendedMantissa.shiftRightOne, hpar], rfl, ?_⟩
      show y / 2 = (m / 2 : ℕ)
      rw [hy, hm]
      ring
    · refine .inr ⟨?_, ?_⟩ <;> simp only [ExtendedMantissa.shiftRightOne] at * <;> linarith
  · rw [hpar, Nat.cast_one] at hm
    have hlo : (m : ℚ) ≤ y := h.le
    have hhi : y < m + 1 := h.lt
    refine .inr ⟨?_, ?_⟩ <;> simp only [ExtendedMantissa.shiftRightOne] <;> linarith

theorem shiftRight (h : Brackets em y) (k : ℕ) : Brackets (em >>> k) (y / 2 ^ k) := by
  induction k with
  | zero =>
    rw [pow_zero, div_one]
    exact h
  | succ k ih =>
    have hstep := ih.shiftRightOne
    rwa [div_div, ← pow_succ] at hstep

theorem le_rounded (em : ExtendedMantissa) : em.mantissa ≤ em.roundedMantissa := by
  obtain ⟨m, r, s⟩ := em
  cases r <;> cases s <;>
    simp [ExtendedMantissa.roundedMantissa, ExtendedMantissa.accuracy, Accuracy.roundToNearestEven]

theorem rounded_le (em : ExtendedMantissa) : em.roundedMantissa ≤ em.mantissa + 1 := by
  obtain ⟨m, r, s⟩ := em
  cases r <;> cases s <;>
    simp [ExtendedMantissa.roundedMantissa, ExtendedMantissa.accuracy, Accuracy.roundToNearestEven]
  omega

theorem rounded_eq {n : ℕ} (h : Brackets em n) : em.roundedMantissa = n := by
  obtain ⟨m, r, s⟩ := em
  rcases h with ⟨rfl, rfl, hn⟩ | ⟨hlo, hhi⟩
  · exact (Nat.cast_inj.1 hn).symm
  · have hlo' : m < n := by exact_mod_cast hlo
    have hhi' : n < m + 1 := by exact_mod_cast hhi
    omega

theorem abs_rounded_lt (h : Brackets em y) : |(em.roundedMantissa : ℚ) - y| < 1 := by
  have hlo : (em.mantissa : ℚ) ≤ em.roundedMantissa := by exact_mod_cast le_rounded em
  have hhi : (em.roundedMantissa : ℚ) ≤ em.mantissa + 1 := by exact_mod_cast rounded_le em
  rcases h with ⟨hr, hs, hy⟩ | ⟨hlt, hlt'⟩
  · have heq : em.roundedMantissa = em.mantissa := rounded_eq (.inl ⟨hr, hs, rfl⟩)
    rw [heq, hy, sub_self, abs_zero]
    exact one_pos
  · rw [abs_lt]
    constructor <;> linarith

end Brackets

/-! ## The last shift -/

/-- The end of rounding: one more shift if the mantissa has 54 bits. -/
def settled (s : Sign) (r : ℕ) (t : ℤ) : UnpackedFloat :=
  let shifted := shiftToTargetExponent Format.binary64 r t .exact
  if h : shifted.1.mantissa = 0 then .zero s
  else .finite s shifted.1.mantissa shifted.2 (Nat.pos_of_ne_zero h)

theorem targetExponent_eq (m : ℕ) (e : ℤ) :
    Format.binary64.targetExponent (totalExponent m e) = max (m.log2 + e - 52) (-1074) := by
  show max ((m.log2 : ℤ) + 1 + e - 53) (-1074) = _
  congr 1
  ring

theorem settled_of_zero (s : Sign) {r : ℕ} {t : ℤ}
    (hzero : (shiftToTargetExponent Format.binary64 r t .exact).1.mantissa = 0) :
    settled s r t = .zero s :=
  dif_pos hzero

theorem settled_of_pos (s : Sign) {r : ℕ} {t e : ℤ} {em : ExtendedMantissa}
    (hshift : shiftToTargetExponent Format.binary64 r t .exact = (em, e)) (hpos : 0 < em.mantissa) :
    settled s r t = .finite s em.mantissa e hpos := by
  have hne : ¬(shiftToTargetExponent Format.binary64 r t .exact).1.mantissa = 0 := by
    rw [hshift]
    exact hpos.ne'
  refine (dif_neg hne).trans ?_
  rw [finite.injEq, hshift]
  exact ⟨rfl, rfl, rfl⟩

theorem settled_spec (s : Sign) {r : ℕ} {t : ℤ} (hr : r ≤ 2 ^ 53) (hform : 2 ^ 52 ≤ r ∨ t = -1074)
    (ht : -1074 ≤ t) (ht' : t ≤ 970) :
    IsCanonical (settled s r t) ∧ value (settled s r t) = sign s * (r * 2 ^ t) := by
  rcases hr.lt_or_eq with hlt | rfl
  · have hshift : shiftToTargetExponent Format.binary64 r t .exact = (⟨r, false, false⟩, t) := by
      have hlog : r.log2 ≤ 52 := by
        rcases Nat.eq_zero_or_pos r with rfl | hpos
        · decide
        · exact Nat.le_of_lt_succ ((Nat.log2_lt hpos.ne').2 hlt)
      have hamount : (max ((r.log2 : ℤ) + t - 52) (-1074) - t).toNat = 0 := by omega
      rw [shiftToTargetExponent, targetExponent_eq, shiftToExponent, hamount]
      exact Prod.ext rfl (add_zero t)
    rcases Nat.eq_zero_or_pos r with rfl | hpos
    · rw [settled_of_zero s (by rw [hshift])]
      exact ⟨trivial, by simp⟩
    · rw [settled_of_pos s hshift hpos]
      exact ⟨⟨hlt, ht, by omega, hform⟩, mul_assoc _ _ _⟩
  · have hshift : shiftToTargetExponent Format.binary64 (2 ^ 53) t .exact =
        (⟨2 ^ 52, false, false⟩, t + 1) := by
      have hamount : (max (((2 ^ 53 : ℕ).log2 : ℤ) + t - 52) (-1074) - t).toNat = 1 := by
        rw [Nat.log2_two_pow]
        omega
      rw [shiftToTargetExponent, targetExponent_eq, shiftToExponent, hamount]
      rfl
    rw [settled_of_pos s hshift (by decide)]
    refine ⟨⟨by decide, by omega, by omega, .inl le_rfl⟩, ?_⟩
    show sign s * ((2 ^ 52 : ℕ) : ℚ) * 2 ^ (t + 1) = _
    rw [zpow_add_one₀ two_ne_zero]
    push_cast
    ring

/-! ## Rounding -/

/-- Whether an unpacked number is a rational number of moderate size after rounding: it is equal for
an integer, and below `2 ^ 14` it is as near as 53 bits allow there. -/
structure Rounds (u : UnpackedFloat) (x : ℚ) : Prop where
  canonical : IsCanonical u
  near : |x| < 2 ^ 14 → |value u - x| ≤ 1 / 2 ^ 39
  eq_of_int {n : ℤ} : x = n → value u = n

theorem mantissa_ofMantissaAndAccuracy (m : ℕ) (a : Accuracy) :
    (ExtendedMantissa.ofMantissaAndAccuracy m a).mantissa = m := by
  rcases a with _ | o
  · rfl
  · cases o <;> rfl

theorem two_pow_mul_zpow (k : ℕ) {e t : ℤ} (h : e + k = t) : (2 : ℚ) ^ t = 2 ^ k * 2 ^ e := by
  rw [← h, zpow_add₀ two_ne_zero, zpow_natCast, mul_comm]

theorem exponent_le {m p : ℕ} {e : ℤ} (he : e ≤ max (m.log2 + e - 52) (-1074))
    (hsize : (m : ℚ) * 2 ^ e < 2 ^ p) : max (m.log2 + e - 52) (-1074) ≤ p - 53 := by
  by_contra hgt
  have hm : m ≠ 0 := by
    rintro rfl
    rw [Nat.log2_zero] at he hgt
    omega
  have hpow : ((2 ^ m.log2 : ℕ) : ℚ) ≤ m := by exact_mod_cast Nat.log2_self_le hm
  have hle : (2 : ℚ) ^ (p : ℤ) ≤ 2 ^ ((m.log2 : ℤ) + e) := by
    gcongr
    · norm_num
    · omega
  rw [zpow_add₀ two_ne_zero, zpow_natCast] at hle
  push_cast at hpow
  have hmul : (2 : ℚ) ^ m.log2 * 2 ^ e ≤ m * 2 ^ e := by gcongr
  rw [zpow_natCast] at hle
  exact absurd (hle.trans hmul) (not_le.2 hsize)

section Shift

variable {em : ExtendedMantissa} {m k : ℕ} {y : ℚ}

theorem mantissa_lt_of_log2_le (hem : Brackets em (y / 2 ^ k)) (hlt : y < m + 1)
    (hlog : m.log2 ≤ 52 + k) : em.mantissa < 2 ^ 53 := by
  have hbits : m + 1 ≤ 2 ^ 53 * 2 ^ k := by
    rw [← pow_add]
    exact Nat.lt_log2_self.trans_le (Nat.pow_le_pow_right two_pos (by omega))
  have hbits' : (m : ℚ) + 1 ≤ 2 ^ 53 * 2 ^ k := by exact_mod_cast hbits
  have hmantissa : (em.mantissa : ℚ) < 2 ^ 53 :=
    hem.le.trans_lt ((div_lt_iff₀ (by positivity)).2 (hlt.trans_le hbits'))
  exact_mod_cast hmantissa

theorem le_mantissa_of_log2_eq (hem : Brackets em (y / 2 ^ k)) (hle : m ≤ y)
    (hlog : m.log2 = 52 + k) : 2 ^ 52 ≤ em.mantissa := by
  have hm : m ≠ 0 := by
    rintro rfl
    rw [Nat.log2_zero] at hlog
    omega
  have hbits : 2 ^ 52 * 2 ^ k ≤ m := by
    rw [← pow_add, ← hlog]
    exact Nat.log2_self_le hm
  have hbits' : (2 ^ 52 * 2 ^ k : ℚ) ≤ m := by exact_mod_cast hbits
  have hmantissa : (2 ^ 52 : ℚ) < em.mantissa + 1 :=
    ((le_div_iff₀ (by positivity)).2 (hbits'.trans hle)).trans_lt hem.lt
  exact Nat.le_of_lt_succ (by exact_mod_cast hmantissa)

theorem eq_natCast_of_mul_two_zpow {z : ℚ} {n : ℕ} {t : ℤ} (ht : t ≤ 0) (h : z * 2 ^ t = n) :
    z = (n * 2 ^ (-t).toNat : ℕ) := by
  have hpow : ((2 ^ (-t).toNat : ℕ) : ℚ) * 2 ^ t = 1 := by
    rw [Nat.cast_pow, ← zpow_natCast, Int.toNat_of_nonneg (by omega), Nat.cast_ofNat,
      ← zpow_add₀ two_ne_zero, neg_add_cancel, zpow_zero]
  have hpos : (0 : ℚ) < 2 ^ t := by positivity
  refine mul_right_cancel₀ hpos.ne' ?_
  rw [h, Nat.cast_mul, mul_assoc, hpow, mul_one]

end Shift

/-- **A result is rounded to a canonical number next to it.** The exponent must be low enough for
the mantissa to have 53 bits, or the least one. -/
theorem rounds_roundWithAccuracy (s : Sign) {m : ℕ} {e : ℤ} {a : Accuracy} {y : ℚ}
    (hy : Brackets (.ofMantissaAndAccuracy m a) y) (he : e ≤ max (m.log2 + e - 52) (-1074))
    (hsize : y * 2 ^ e < 2 ^ 53) :
    Rounds (roundWithAccuracy Format.binary64 s m e a) (sign s * (y * 2 ^ e)) := by
  obtain ⟨t, ht⟩ : ∃ t : ℤ, max (m.log2 + e - 52) (-1074) = t := ⟨_, rfl⟩
  obtain ⟨k, hk⟩ : ∃ k : ℕ, e + k = t := ⟨(t - e).toNat, by omega⟩
  have hshift : shiftToTargetExponent Format.binary64 m e a =
      (ExtendedMantissa.ofMantissaAndAccuracy m a >>> k, t) := by
    have hamount : (t - e).toNat = k := by omega
    rw [shiftToTargetExponent, targetExponent_eq, ht, shiftToExponent, hamount, hk]
  have hround : roundWithAccuracy Format.binary64 s m e a =
      settled s (ExtendedMantissa.ofMantissaAndAccuracy m a >>> k).roundedMantissa t := by
    rw [roundWithAccuracy, hshift]
    rfl
  have hle := mantissa_ofMantissaAndAccuracy m a ▸ hy.le
  have hlt := mantissa_ofMantissaAndAccuracy m a ▸ hy.lt
  have hem := hy.shiftRight k
  generalize ExtendedMantissa.ofMantissaAndAccuracy m a >>> k = em at hround hem
  have hvalue : y / 2 ^ k * 2 ^ t = y * 2 ^ e := by
    rw [two_pow_mul_zpow k hk, ← mul_assoc, div_mul_cancel₀ y (by positivity)]
  have htop {p : ℕ} (hp : y * 2 ^ e < 2 ^ p) : t ≤ p - 53 := by
    rw [← ht]
    refine exponent_le he (lt_of_le_of_lt ?_ hp)
    gcongr
  have hexponent : t ≤ 0 := htop hsize
  have hy0 : 0 ≤ y := (Nat.cast_nonneg m).trans hle
  have hhigh : em.mantissa < 2 ^ 53 := mantissa_lt_of_log2_le hem hlt (by omega)
  have hlow : 2 ^ 52 ≤ em.mantissa ∨ t = -1074 :=
    or_iff_not_imp_right.2 fun hne => le_mantissa_of_log2_eq hem hle (by omega)
  obtain ⟨hcanonical, hsettled⟩ := settled_spec s ((Brackets.rounded_le em).trans hhigh)
    (hlow.imp_left fun h => h.trans (Brackets.le_rounded em)) (by omega) (by omega : t ≤ 970)
  rw [hround]
  refine ⟨hcanonical, fun hnear => ?_, fun {n} hn => ?_⟩
  · rw [abs_mul, abs_sign, one_mul, abs_of_nonneg (by positivity)] at hnear
    rw [hsettled, ← hvalue, ← mul_sub, ← sub_mul, abs_mul, abs_sign, one_mul, abs_mul,
      abs_of_pos (by positivity : (0 : ℚ) < 2 ^ t)]
    calc |(em.roundedMantissa : ℚ) - y / 2 ^ k| * 2 ^ t ≤ 1 * 2 ^ (-39 : ℤ) := by
          gcongr
          · exact hem.abs_rounded_lt.le
          · norm_num
          · exact htop hnear
      _ = 1 / 2 ^ 39 := by norm_num
  · have habs : y * 2 ^ e = n.natAbs := by
      have h : |sign s * (y * 2 ^ e)| = |(n : ℚ)| := by rw [hn]
      rwa [abs_mul, abs_sign, one_mul, abs_of_nonneg (by positivity), ← Int.cast_abs,
        Int.abs_eq_natAbs, Int.cast_natCast] at h
    have hint := eq_natCast_of_mul_two_zpow (by omega) (hvalue.trans habs)
    have hexact : (em.roundedMantissa : ℚ) = y / 2 ^ k := by
      rw [hint, Brackets.rounded_eq (hint ▸ hem)]
    rw [hsettled, hexact, hvalue, hn]

end SketchPreview.Rounding
