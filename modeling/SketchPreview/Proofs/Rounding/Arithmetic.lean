import SketchPreview.Proofs.Rounding.Mantissa

/-!
# Arithmetic on unpacked numbers

Sum, product and quotient are worked out on mantissas and exponents and then rounded. For canonical
numbers the result is the rational sum, product or quotient after rounding, if that is of moderate
size.

* `rounds_normalize`: an integer mantissa with a sign;
* `rounds_add`, `rounds_mul`, `rounds_div`;
* `sub_eq_add`: a difference is a sum.
-/

namespace SketchPreview.Rounding

open Float.Model Float.Model.UnpackedFloat

namespace Rounds

variable {u v : UnpackedFloat}

protected theorem refl (h : IsCanonical u) : Rounds u (value u) where
  canonical := h
  near := by simp
  eq_of_int := id

theorem zero (s : Sign) : Rounds (.zero s) 0 := .refl trivial

end Rounds

/-! ## Sums -/

theorem brackets_exact (m : ℕ) : Brackets (.ofMantissaAndAccuracy m .exact) m :=
  .inl ⟨rfl, rfl, rfl⟩

theorem log2_shiftLeft {m : ℕ} (hm : 0 < m) (k : ℕ) : (m <<< k).log2 = m.log2 + k := by
  have hpos : m <<< k ≠ 0 := by
    rw [Nat.shiftLeft_eq]
    positivity
  obtain ⟨hle, hlt⟩ := (Nat.log2_eq_iff hm.ne').1 rfl
  rw [Nat.log2_eq_iff hpos, Nat.shiftLeft_eq, add_right_comm, pow_add, pow_add]
  exact ⟨Nat.mul_le_mul_right _ hle, Nat.mul_lt_mul_of_pos_right hlt (by positivity)⟩

theorem rounds_round (s : Sign) {m : ℕ} {e : ℤ} (hm : 0 < m) (hsize : (m : ℚ) * 2 ^ e < 2 ^ 53) :
    Rounds (UnpackedFloat.round Format.binary64 s m e) (sign s * (m * 2 ^ e)) := by
  obtain ⟨k, hk⟩ : ∃ k : ℕ, (e - max (m.log2 + e - 52) (-1074)).toNat = k := ⟨_, rfl⟩
  have hround : UnpackedFloat.round Format.binary64 s m e =
      roundWithAccuracy Format.binary64 s (m <<< k) (e - k) .exact := by
    rw [UnpackedFloat.round, targetExponent_eq, decreaseExponent, hk]
  have hvalue : ((m <<< k : ℕ) : ℚ) * 2 ^ (e - k) = m * 2 ^ e := by
    rw [two_pow_mul_zpow k (sub_add_cancel e k), Nat.shiftLeft_eq, Nat.cast_mul, Nat.cast_pow,
      Nat.cast_ofNat, mul_assoc]
  rw [hround, ← hvalue]
  refine rounds_roundWithAccuracy s (brackets_exact _) ?_ (hvalue ▸ hsize)
  rw [log2_shiftLeft hm]
  omega

theorem rounds_normalize {n e : ℤ} (s : Sign) (hsize : |(n : ℚ) * 2 ^ e| < 2 ^ 53) :
    Rounds (UnpackedFloat.normalize Format.binary64 n e s) (n * 2 ^ e) := by
  rcases lt_trichotomy n 0 with h | rfl | h
  · have hn : ((-n).toNat : ℚ) = -n := by exact_mod_cast Int.toNat_of_nonneg (by omega : 0 ≤ -n)
    have hround : UnpackedFloat.normalize Format.binary64 n e s =
        UnpackedFloat.round Format.binary64 .negative (-n).toNat e := by
      rw [UnpackedFloat.normalize, compare_lt_iff_lt.2 h]
    have hvalue : (n : ℚ) * 2 ^ e = sign .negative * ((-n).toNat * 2 ^ e) := by
      rw [hn, sign]
      ring
    rw [hround, hvalue]
    refine rounds_round _ (by omega) ?_
    rw [hn, neg_mul]
    exact (neg_le_abs _).trans_lt hsize
  · rw [Int.cast_zero, zero_mul]
    exact .zero s
  · have hn : (n.toNat : ℚ) = n := by exact_mod_cast Int.toNat_of_nonneg h.le
    have hround : UnpackedFloat.normalize Format.binary64 n e s =
        UnpackedFloat.round Format.binary64 .positive n.toNat e := by
      rw [UnpackedFloat.normalize, compare_gt_iff_gt.2 h]
    have hvalue : (n : ℚ) * 2 ^ e = sign .positive * (n.toNat * 2 ^ e) := by
      rw [hn, sign, one_mul]
    rw [hround, hvalue]
    refine rounds_round _ (by omega) ?_
    rw [hn]
    exact (le_abs_self _).trans_lt hsize

theorem decreaseExponent_eq {m : ℕ} {e t : ℤ} {k : ℕ} (h : t + k = e) :
    decreaseExponent m e t = (m * 2 ^ k, t) := by
  have hamount : (e - t).toNat = k := by omega
  rw [decreaseExponent, hamount, Nat.shiftLeft_eq, ← h, add_sub_cancel_right]

theorem add_finite (s t : Sign) {m m' : ℕ} (e e' : ℤ) (hm : 0 < m) (hm' : 0 < m') :
    UnpackedFloat.add Format.binary64 (.finite s m e hm) (.finite t m' e' hm') =
      UnpackedFloat.normalize Format.binary64
        (s.apply (decreaseExponent m e (min e e')).1 +
          t.apply (decreaseExponent m' e' (min e e')).1)
        (min e e') .positive := rfl

theorem rounds_add {u v : UnpackedFloat} (hu : IsCanonical u) (hv : IsCanonical v)
    (hsize : |value u + value v| < 2 ^ 53) :
    Rounds (UnpackedFloat.add Format.binary64 u v) (value u + value v) := by
  obtain ⟨s, rfl⟩ | ⟨s, m, e, hm, rfl⟩ := hu.eq_zero_or_finite <;>
    obtain ⟨t, rfl⟩ | ⟨t, m', e', hm', rfl⟩ := hv.eq_zero_or_finite
  · show Rounds (if s == t then .zero s else .zero .positive) (0 + 0)
    rw [add_zero]
    split
    · exact .zero s
    · exact .zero .positive
  · rw [value_zero, zero_add]
    exact .refl hv
  · rw [value_zero, add_zero]
    exact .refl hu
  · -- both mantissas are shifted to the smaller exponent
    obtain ⟨k, hk⟩ : ∃ k : ℕ, min e e' + k = e := ⟨(e - min e e').toNat, by omega⟩
    obtain ⟨k', hk'⟩ : ∃ k' : ℕ, min e e' + k' = e' := ⟨(e' - min e e').toNat, by omega⟩
    have hadd : UnpackedFloat.add Format.binary64 (.finite s m e hm) (.finite t m' e' hm') =
        UnpackedFloat.normalize Format.binary64
          (s.apply (m * 2 ^ k : ℕ) + t.apply (m' * 2 ^ k' : ℕ)) (min e e') .positive := by
      rw [add_finite, decreaseExponent_eq hk, decreaseExponent_eq hk']
    have hvalue : value (.finite s m e hm) + value (.finite t m' e' hm') =
        ((s.apply (m * 2 ^ k : ℕ) + t.apply (m' * 2 ^ k' : ℕ) : ℤ) : ℚ) * 2 ^ min e e' := by
      rw [value_finite, value_finite, two_pow_mul_zpow k hk, two_pow_mul_zpow k' hk', Int.cast_add,
        cast_apply, cast_apply]
      push_cast
      ring
    rw [hadd, hvalue]
    exact rounds_normalize _ (hvalue ▸ hsize)

theorem apply_neg (s : Sign) (n : ℤ) : (-s).apply n = -s.apply n := by
  cases s
  · exact (neg_neg n).symm
  · rfl

theorem sub_finite (s t : Sign) {m m' : ℕ} (e e' : ℤ) (hm : 0 < m) (hm' : 0 < m') :
    UnpackedFloat.sub Format.binary64 (.finite s m e hm) (.finite t m' e' hm') =
      UnpackedFloat.normalize Format.binary64
        (s.apply (decreaseExponent m e (min e e')).1 -
          t.apply (decreaseExponent m' e' (min e e')).1)
        (min e e') .positive := rfl

theorem sub_eq_add (u v : UnpackedFloat) :
    UnpackedFloat.sub Format.binary64 u v = UnpackedFloat.add Format.binary64 u v.neg := by
  cases u <;> cases v <;> try rfl
  rw [sub_finite, Int.sub_eq_add_neg, ← apply_neg]
  rfl

/-! ## Products -/

theorem le_log2 {m k : ℕ} (h : 2 ^ k ≤ m) : k ≤ m.log2 :=
  (Nat.le_log2 (by have := Nat.two_pow_pos k; omega)).2 h

theorem exponent_mul_le {m m' : ℕ} {e e' : ℤ} (hm : 0 < m) (hm' : 0 < m')
    (hform : 2 ^ 52 ≤ m ∨ e = -1074) (hform' : 2 ^ 52 ≤ m' ∨ e' = -1074) :
    e + e' ≤ max ((m * m').log2 + (e + e') - 52) (-1074) := by
  by_cases h : 2 ^ 52 ≤ m * m'
  · have := le_log2 h
    omega
  · have := hform.resolve_left fun hc => h (hc.trans (Nat.le_mul_of_pos_right m hm'))
    have := hform'.resolve_left fun hc => h (hc.trans (Nat.le_mul_of_pos_left m' hm))
    omega

theorem rounds_mul {u v : UnpackedFloat} (hu : IsCanonical u) (hv : IsCanonical v)
    (hsize : |value u * value v| < 2 ^ 53) :
    Rounds (UnpackedFloat.mul Format.binary64 u v) (value u * value v) := by
  obtain ⟨s, rfl⟩ | ⟨s, m, e, hm, rfl⟩ := hu.eq_zero_or_finite <;>
    obtain ⟨t, rfl⟩ | ⟨t, m', e', hm', rfl⟩ := hv.eq_zero_or_finite
  · rw [value_zero, zero_mul]
    exact .zero _
  · rw [value_zero, zero_mul]
    exact .zero _
  · rw [value_zero, mul_zero]
    exact .zero _
  · have hvalue : value (.finite s m e hm) * value (.finite t m' e' hm') =
        sign (s * t) * (((m * m' : ℕ) : ℚ) * 2 ^ (e + e')) := by
      rw [value_finite, value_finite, sign_mul, zpow_add₀ two_ne_zero]
      push_cast
      ring
    rw [hvalue] at hsize ⊢
    refine rounds_roundWithAccuracy _ (brackets_exact _)
      (exponent_mul_le hm hm' hu.2.2.2 hv.2.2.2) ?_
    rw [abs_mul, abs_sign, one_mul] at hsize
    exact (le_abs_self _).trans_lt hsize

/-! ## Quotients -/

theorem div_sign (s t : Sign) : sign s / sign t = sign s * sign t := by
  cases t
  · show sign s / -1 = sign s * -1
    rw [div_neg, div_one, mul_neg, mul_one]
  · exact (div_one _).trans (mul_one _).symm

theorem brackets_div (m : ℕ) {m' : ℕ} (hm' : 0 < m') :
    Brackets (.ofMantissaAndAccuracy (m / m') (accuracyOfFraction (m % m') m')) (m / m') := by
  have hpos : (0 : ℚ) < m' := by exact_mod_cast hm'
  have hdiv : (m : ℚ) = m' * (m / m' : ℕ) + (m % m' : ℕ) := by
    exact_mod_cast (Nat.div_add_mod m m').symm
  by_cases h : m % m' = 0
  · rw [accuracyOfFraction, if_pos h]
    refine .inl ⟨rfl, rfl, ?_⟩
    rw [hdiv, h, Nat.cast_zero, add_zero, mul_div_cancel_left₀ _ hpos.ne']
    rfl
  · have hrest : (0 : ℚ) < (m % m' : ℕ) := by exact_mod_cast Nat.pos_of_ne_zero h
    have hlt : ((m % m' : ℕ) : ℚ) < m' := by exact_mod_cast Nat.mod_lt m hm'
    right
    rw [mantissa_ofMantissaAndAccuracy, lt_div_iff₀ hpos, div_lt_iff₀ hpos]
    constructor <;> linarith

theorem le_quotient {m m' k : ℕ} (hm : 0 < m) (hm' : 0 < m') (h : m'.log2 + 53 ≤ m.log2 + k) :
    2 ^ 52 ≤ m * 2 ^ k / m' := by
  rw [Nat.le_div_iff_mul_le hm']
  calc 2 ^ 52 * m' ≤ 2 ^ 52 * 2 ^ (m'.log2 + 1) := Nat.mul_le_mul_left _ Nat.lt_log2_self.le
    _ = 2 ^ (m'.log2 + 53) := by rw [← pow_add]; ring_nf
    _ ≤ 2 ^ (m.log2 + k) := Nat.pow_le_pow_right two_pos h
    _ = 2 ^ m.log2 * 2 ^ k := pow_add ..
    _ ≤ m * 2 ^ k := Nat.mul_le_mul_right _ (Nat.log2_self_le hm.ne')

/-- The exponent of a quotient: low enough for 53 bits, or the least one, and not above the
difference of the two exponents. -/
def quotientExponent (m m' : ℕ) (e e' : ℤ) : ℤ :=
  min (e - e') (max (m.log2 + e - (m'.log2 + e') - 53) (-1074))

theorem divCore_eq {m m' k : ℕ} {e e' : ℤ} (hk : quotientExponent m m' e e' + k = e - e') :
    divCore Format.binary64 m e m' e' =
      (m * 2 ^ k / m', quotientExponent m m' e e', accuracyOfFraction (m * 2 ^ k % m') m') := by
  have htarget : min (e - e') (Format.binary64.targetExponent
      (totalExponent m e - totalExponent m' e')) = quotientExponent m m' e e' := by
    show min (e - e') (max ((m.log2 + 1 + e) - (m'.log2 + 1 + e') - 53) (-1074)) = _
    unfold quotientExponent
    omega
  have hamount : (e - e' - quotientExponent m m' e e').toNat = k := by omega
  simp only [divCore, htarget, hamount, Nat.shiftLeft_eq]

theorem div_finite (s t : Sign) {m m' : ℕ} (e e' : ℤ) (hm : 0 < m) (hm' : 0 < m') :
    UnpackedFloat.div Format.binary64 (.finite s m e hm) (.finite t m' e' hm') =
      roundWithAccuracy Format.binary64 (s / t) (divCore Format.binary64 m e m' e').1
        (divCore Format.binary64 m e m' e').2.1 (divCore Format.binary64 m e m' e').2.2 := rfl

theorem rounds_div {u v : UnpackedFloat} (hu : IsCanonical u) (hv : IsCanonical v)
    (hne : value v ≠ 0) (hsize : |value u / value v| < 2 ^ 53) :
    Rounds (UnpackedFloat.div Format.binary64 u v) (value u / value v) := by
  obtain ⟨t, rfl⟩ | ⟨t, m', e', hm', rfl⟩ := hv.eq_zero_or_finite
  · exact absurd rfl hne
  obtain ⟨s, rfl⟩ | ⟨s, m, e, hm, rfl⟩ := hu.eq_zero_or_finite
  · rw [value_zero, zero_div]
    exact .zero _
  obtain ⟨k, hk⟩ : ∃ k : ℕ, quotientExponent m m' e e' + k = e - e' :=
    ⟨(e - e' - quotientExponent m m' e e').toNat, by unfold quotientExponent; omega⟩
  have hdiv : UnpackedFloat.div Format.binary64 (.finite s m e hm) (.finite t m' e' hm') =
      roundWithAccuracy Format.binary64 (s / t) (m * 2 ^ k / m') (quotientExponent m m' e e')
        (accuracyOfFraction (m * 2 ^ k % m') m') := by
    rw [div_finite, divCore_eq hk]
  have hbits : quotientExponent m m' e e' ≤
      max ((m * 2 ^ k / m').log2 + quotientExponent m m' e e' - 52) (-1074) := by
    by_cases hlow : quotientExponent m m' e e' ≤ -1074
    · omega
    · have hlog : m'.log2 + 53 ≤ m.log2 + k := by
        unfold quotientExponent at hk hlow
        omega
      have := le_log2 (le_quotient hm hm' hlog)
      omega
  generalize quotientExponent m m' e e' = x at *
  have hvalue : value (.finite s m e hm) / value (.finite t m' e' hm') =
      sign (s / t) * (((m * 2 ^ k : ℕ) : ℚ) / m' * 2 ^ x) := by
    have hpow : (2 : ℚ) ^ e / 2 ^ e' = 2 ^ k * 2 ^ x := by
      rw [← zpow_sub₀ two_ne_zero, ← two_pow_mul_zpow k hk]
    rw [value_finite, value_finite, sign_div, mul_div_mul_comm, hpow, mul_div_mul_comm, div_sign]
    push_cast
    ring
  rw [hdiv]
  rw [hvalue] at hsize ⊢
  refine rounds_roundWithAccuracy _ (brackets_div _ hm') hbits ?_
  rw [abs_mul, abs_sign, one_mul] at hsize
  exact (le_abs_self _).trans_lt hsize

end SketchPreview.Rounding
