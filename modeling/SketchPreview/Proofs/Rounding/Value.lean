import Mathlib.Algebra.Order.Field.Power
import Mathlib.Data.Rat.Cast.Order
import Mathlib.Tactic.Linarith
import Mathlib.Tactic.Positivity
import Mathlib.Tactic.Ring
import SketchPreview.Decimal.Binary64

/-!
# The rational value of a binary64 number

Arithmetic on binary64 numbers unpacks them into sign, mantissa and exponent, works on these, and
packs the result. A finite number has one *canonical* unpacked form, and that survives packing.

* `sign`, `value`, `IsCanonical`: the rational number of an unpacked one;
* `compare_eq`: canonical numbers compare as their values do;
* `unpack_pack`: packing keeps canonical numbers;
* `exists_ofFloat_eq`: the parts of a number tell its value.
-/

namespace SketchPreview.Rounding

open Float.Model Float.Model.UnpackedFloat

/-- The factor that a sign stands for. -/
def sign : Sign → ℚ
  | .negative => -1
  | .positive => 1

/-- The rational number of an unpacked one, zero unless that is finite. -/
def value : UnpackedFloat → ℚ
  | .finite s m e _ => sign s * m * 2 ^ e
  | _ => 0

/-- Whether an unpacked number is finite and has the form that can be packed: 53 bits of mantissa,
or fewer at the least exponent. -/
def IsCanonical : UnpackedFloat → Prop
  | .zero _ => True
  | .finite _ m e _ => m < 2 ^ 53 ∧ -1074 ≤ e ∧ e ≤ 971 ∧ (2 ^ 52 ≤ m ∨ e = -1074)
  | _ => False

theorem abs_sign (s : Sign) : |sign s| = 1 := by cases s <;> norm_num [sign]

theorem sign_neg (s : Sign) : sign (-s) = -sign s := by
  cases s
  · exact (neg_neg 1).symm
  · rfl

theorem sign_mul (s t : Sign) : sign (s * t) = sign s * sign t := by
  cases s <;> cases t <;> norm_num [sign]

theorem sign_div (s t : Sign) : sign (s / t) = sign s * sign t :=
  (congrArg sign (by cases s <;> cases t <;> rfl)).trans (sign_mul s t)

theorem cast_apply (s : Sign) (n : ℤ) : ((s.apply n : ℤ) : ℚ) = sign s * n := by
  cases s <;> simp [sign, Sign.apply]

theorem IsCanonical.eq_zero_or_finite {u : UnpackedFloat} (h : IsCanonical u) :
    (∃ s, u = .zero s) ∨ ∃ s m e hm, u = .finite s m e hm := by
  cases u with
  | infinity s => cases h
  | notANumber => cases h
  | zero s => exact .inl ⟨s, rfl⟩
  | finite s m e hm => exact .inr ⟨s, m, e, hm, rfl⟩

@[simp] theorem value_zero (s : Sign) : value (.zero s) = 0 := rfl

theorem value_finite (s : Sign) (m : ℕ) (e : ℤ) (hm : 0 < m) :
    value (.finite s m e hm) = sign s * m * 2 ^ e := rfl

theorem value_negative (m : ℕ) (e : ℤ) (hm : 0 < m) :
    value (.finite .negative m e hm) = -(m * 2 ^ e) := by
  rw [value_finite, sign, neg_one_mul, neg_mul]

theorem value_positive (m : ℕ) (e : ℤ) (hm : 0 < m) :
    value (.finite .positive m e hm) = m * 2 ^ e := by
  rw [value_finite, sign, one_mul]

theorem value_neg (u : UnpackedFloat) : value u.neg = -value u := by
  cases u with
  | infinity s => exact neg_zero.symm
  | notANumber => exact neg_zero.symm
  | zero s => exact neg_zero.symm
  | finite s m e hm =>
    show value (.finite (-s) m e hm) = _
    rw [value_finite, value_finite, sign_neg, neg_mul, neg_mul]

theorem IsCanonical.neg {u : UnpackedFloat} (h : IsCanonical u) : IsCanonical u.neg := by
  cases u <;> exact h

/-! ## Order -/

theorem mul_two_zpow_lt {m m' : ℕ} {e e' : ℤ} (hm : m < 2 ^ 53) (he : -1074 ≤ e) (hlt : e < e')
    (hform : 2 ^ 52 ≤ m' ∨ e' = -1074) : (m : ℚ) * 2 ^ e < m' * 2 ^ e' := by
  have hm' : 2 ^ 52 ≤ m' := hform.resolve_right (by omega)
  have hmq : (m : ℚ) < 2 ^ 53 := by exact_mod_cast hm
  have hmq' : (2 ^ 52 : ℚ) ≤ m' := by exact_mod_cast hm'
  calc (m : ℚ) * 2 ^ e < 2 ^ 53 * 2 ^ e := by gcongr
    _ = 2 ^ 52 * 2 ^ (e + 1) := by rw [zpow_add_one₀ (by norm_num)]; ring
    _ ≤ m' * 2 ^ e' := by
      gcongr
      · norm_num
      · omega

theorem compare_then_compare {m m' : ℕ} {e e' : ℤ} (hm : m < 2 ^ 53) (he : -1074 ≤ e)
    (hform : 2 ^ 52 ≤ m ∨ e = -1074) (hm' : m' < 2 ^ 53) (he' : -1074 ≤ e')
    (hform' : 2 ^ 52 ≤ m' ∨ e' = -1074) :
    (compare e e').then (compare m m') = compare ((m : ℚ) * 2 ^ e) (m' * 2 ^ e') := by
  rcases lt_trichotomy e e' with h | rfl | h
  · rw [compare_lt_iff_lt.2 h, compare_lt_iff_lt.2 (mul_two_zpow_lt hm he h hform')]
    rfl
  · rw [compare_eq_iff_eq.2 rfl, Ordering.eq_then]
    have hpos : (0 : ℚ) < 2 ^ e := by positivity
    rcases lt_trichotomy m m' with h | rfl | h
    · rw [compare_lt_iff_lt.2 h, eq_comm, compare_lt_iff_lt]
      have : (m : ℚ) < m' := by exact_mod_cast h
      gcongr
    · rw [compare_eq_iff_eq.2 rfl, compare_eq_iff_eq.2 rfl]
    · rw [compare_gt_iff_gt.2 h, eq_comm, compare_gt_iff_gt]
      have : (m' : ℚ) < m := by exact_mod_cast h
      show (m' : ℚ) * 2 ^ e < m * 2 ^ e
      gcongr
  · rw [compare_gt_iff_gt.2 h, compare_gt_iff_gt.2 (mul_two_zpow_lt hm' he' h hform)]
    rfl

theorem compare_neg_neg (a b : ℚ) : compare (-a) (-b) = (compare a b).swap := by
  rw [← Std.OrientedCmp.eq_swap, ← cmp_eq_compare, ← cmp_eq_compare]
  exact StrictAnti.cmp_map_eq (fun _ _ h => neg_lt_neg h) a b

/-- **Canonical numbers compare as their values do.** -/
theorem compare_eq {u v : UnpackedFloat} (hu : IsCanonical u) (hv : IsCanonical v) :
    u.compare v = some (compare (value u) (value v)) := by
  have hsize {m : ℕ} {e : ℤ} (hm : 0 < m) : (0 : ℚ) < m * 2 ^ e := by positivity
  have lt {a b : ℚ} (h : a < b) : some Ordering.lt = some (compare a b) :=
    congrArg some (compare_lt_iff_lt.2 h).symm
  have gt {a b : ℚ} (h : b < a) : some Ordering.gt = some (compare a b) :=
    congrArg some (compare_gt_iff_gt.2 h).symm
  obtain ⟨s, rfl⟩ | ⟨s, m, e, hm, rfl⟩ := hu.eq_zero_or_finite <;>
    obtain ⟨t, rfl⟩ | ⟨t, m', e', hm', rfl⟩ := hv.eq_zero_or_finite
  · exact congrArg some (compare_eq_iff_eq.2 rfl).symm
  · cases t
    · rw [value_negative]
      exact gt (neg_lt_zero.2 (hsize hm'))
    · rw [value_positive]
      exact lt (hsize hm')
  · cases s
    · rw [value_negative]
      exact lt (neg_lt_zero.2 (hsize hm))
    · rw [value_positive]
      exact gt (hsize hm)
  · have key := compare_then_compare hu.1 hu.2.1 hu.2.2.2 hv.1 hv.2.1 hv.2.2.2
    cases s <;> cases t
    · rw [value_negative, value_negative, compare_neg_neg, ← key]
      rfl
    · rw [value_negative, value_positive]
      exact lt ((neg_lt_zero.2 (hsize hm)).trans (hsize hm'))
    · rw [value_positive, value_negative]
      exact gt ((neg_lt_zero.2 (hsize hm')).trans (hsize hm))
    · rw [value_positive, value_positive, ← key]
      rfl

/-! ## Unpacking -/

section Unpack

variable {b : BitVec 64}

theorem unpackSign_eq (b : BitVec 64) : @unpackSign Format.binary64 b = b.extractLsb' 63 1 := rfl

theorem not_isCanonical_unpack (hones : @unpackExponent Format.binary64 b = -1#11) :
    ¬IsCanonical (UnpackedFloat.unpack Format.binary64 b) := by
  have hunpack : UnpackedFloat.unpack Format.binary64 b =
    if @unpackMantissa Format.binary64 b = 0#52 then
      .infinity (Sign.ofBitVec (@unpackSign Format.binary64 b))
    else .notANumber := if_pos hones
  rw [hunpack]
  split <;> exact id

theorem unpack_of_zero (hzeros : @unpackExponent Format.binary64 b = 0#11)
    (hmantissa : @unpackMantissa Format.binary64 b = 0#52) :
    UnpackedFloat.unpack Format.binary64 b =
      .zero (Sign.ofBitVec (@unpackSign Format.binary64 b)) :=
  (if_neg (hzeros ▸ by decide)).trans ((if_pos hzeros).trans (dif_pos hmantissa))

theorem exists_unpack_of_subnormal (hzeros : @unpackExponent Format.binary64 b = 0#11)
    (hmantissa : ¬@unpackMantissa Format.binary64 b = 0#52) :
    ∃ hm, UnpackedFloat.unpack Format.binary64 b =
      .finite (Sign.ofBitVec (@unpackSign Format.binary64 b))
        (@unpackMantissa Format.binary64 b).toNat
        ((@unpackExponent Format.binary64 b).toNat - (1023 + 52) + 1) hm :=
  ⟨_, (if_neg (hzeros ▸ by decide)).trans ((if_pos hzeros).trans (dif_neg hmantissa))⟩

theorem exists_unpack_of_normal (hones : ¬@unpackExponent Format.binary64 b = -1#11)
    (hzeros : ¬@unpackExponent Format.binary64 b = 0#11) :
    ∃ hm, UnpackedFloat.unpack Format.binary64 b =
      .finite (Sign.ofBitVec (@unpackSign Format.binary64 b))
        (1#1 ++ @unpackMantissa Format.binary64 b).toNat
        ((@unpackExponent Format.binary64 b).toNat - (1023 + 52)) hm :=
  ⟨_, (if_neg hones).trans (if_neg hzeros)⟩

end Unpack

/-! ## Packing -/

theorem ofBitVec_unpackSign (s : Sign) (e : BitVec 11) (m : BitVec 52) :
    Sign.ofBitVec (unpackSign (packComponents Format.binary64 s e m)) = s := by
  have hbit : unpackSign (packComponents Format.binary64 s e m) = s.toBitVec := by
    rw [unpackSign_eq, packComponents, BitVec.extractLsb'_append_eq_of_le (by decide),
      BitVec.extractLsb'_append_eq_of_le (by decide)]
    simp
  rw [hbit]
  cases s <;> rfl

theorem toNat_one_append {m : ℕ} (h : 2 ^ 52 ≤ m) (h' : m < 2 ^ 53) :
    (1#1 ++ BitVec.ofNat 52 m).toNat = m := by
  have hlow : m % 2 ^ 52 < 2 ^ 52 := Nat.mod_lt _ (by decide)
  rw [BitVec.toNat_append, BitVec.toNat_ofNat, BitVec.toNat_ofNat,
    ← Nat.shiftLeft_add_eq_or_of_lt hlow]
  omega

theorem unpack_pack_normal (s : Sign) {m : ℕ} {e : ℤ} (hm : 0 < m) (hlow : 2 ^ 52 ≤ m)
    (hhigh : m < 2 ^ 53) (he : -1074 ≤ e) (he' : e ≤ 971) :
    (Float.Model.pack (.finite s m e hm)).unpack = .finite s m e hm := by
  have hlog : m.log2 = 52 := (Nat.log2_eq_iff hm.ne').2 ⟨hlow, hhigh⟩
  have hexp : (BitVec.ofNat 11 (e + 1023 + 52).toNat).toNat = (e + 1075).toNat := by
    rw [BitVec.toNat_ofNat, Nat.mod_eq_of_lt (by omega)]
    omega
  have hones : BitVec.ofNat 11 (e + 1023 + 52).toNat ≠ -1#11 := fun hc => by
    have hnat : (e + 1075).toNat = 2047 := hexp ▸ congrArg BitVec.toNat hc
    omega
  have hzeros : BitVec.ofNat 11 (e + 1023 + 52).toNat ≠ 0#11 := fun hc => by
    have hnat : (e + 1075).toNat = 0 := hexp ▸ congrArg BitVec.toNat hc
    omega
  have hpack : UnpackedFloat.pack Format.binary64 (.finite s m e hm) =
      packComponents Format.binary64 s (BitVec.ofNat 11 (e + 1023 + 52).toNat)
        (BitVec.ofNat 52 m) := by
    have hfinite : ¬2 ^ 11 ≤ (e + 1023 + 52).toNat + 1 := by omega
    have hbits : m.log2 + 1 = 53 := by rw [hlog]
    exact (if_neg hfinite).trans (if_pos hbits)
  show UnpackedFloat.unpack Format.binary64
    (UnpackedFloat.pack Format.binary64 (.finite s m e hm)) = _
  obtain ⟨hpos, hunpack⟩ := exists_unpack_of_normal
    (b := packComponents Format.binary64 s (BitVec.ofNat 11 (e + 1023 + 52).toNat)
      (BitVec.ofNat 52 m))
    (by rwa [unpackExponent_packComponents]) (by rwa [unpackExponent_packComponents])
  rw [hpack, hunpack, finite.injEq, ofBitVec_unpackSign, unpackMantissa_packComponents,
    unpackExponent_packComponents, toNat_one_append hlow hhigh, hexp]
  exact ⟨rfl, rfl, by omega⟩

theorem unpack_pack_subnormal (s : Sign) {m : ℕ} (hm : 0 < m) (hhigh : m < 2 ^ 52) :
    (Float.Model.pack (.finite s m (-1074) hm)).unpack = .finite s m (-1074) hm := by
  have hlog : m.log2 < 52 := (Nat.log2_lt hm.ne').2 hhigh
  have hnat : (BitVec.ofNat 52 m).toNat = m := by
    rw [BitVec.toNat_ofNat, Nat.mod_eq_of_lt hhigh]
  have hzeros : BitVec.ofNat 52 m ≠ 0#52 := fun hc => hm.ne' (hnat ▸ congrArg BitVec.toNat hc)
  have hpack : UnpackedFloat.pack Format.binary64 (.finite s m (-1074) hm) =
      packComponents Format.binary64 s 0#11 (BitVec.ofNat 52 m) := by
    have hfinite : ¬2 ^ 11 ≤ ((-1074 : ℤ) + 1023 + 52).toNat + 1 := by decide
    have hbits : ¬m.log2 + 1 = 53 := by omega
    exact (@if_neg _ _ hfinite _ (packedInfinity Format.binary64 s) _).trans (if_neg hbits)
  show UnpackedFloat.unpack Format.binary64
    (UnpackedFloat.pack Format.binary64 (.finite s m (-1074) hm)) = _
  obtain ⟨hpos, hunpack⟩ := exists_unpack_of_subnormal
    (b := packComponents Format.binary64 s 0#11 (BitVec.ofNat 52 m))
    unpackExponent_packComponents (by rwa [unpackMantissa_packComponents])
  rw [hpack, hunpack, finite.injEq, ofBitVec_unpackSign, unpackMantissa_packComponents,
    unpackExponent_packComponents, hnat]
  exact ⟨rfl, rfl, rfl⟩

theorem unpack_pack {u : UnpackedFloat} (h : IsCanonical u) : (Float.Model.pack u).unpack = u := by
  obtain ⟨s, rfl⟩ | ⟨s, m, e, hm, rfl⟩ := h.eq_zero_or_finite
  · cases s <;> rfl
  · obtain ⟨hhigh, he, he', hform⟩ := h
    by_cases hlow : 2 ^ 52 ≤ m
    · exact unpack_pack_normal s hm hlow hhigh he he'
    · obtain rfl := hform.resolve_left hlow
      exact unpack_pack_subnormal s hm (by omega)

/-! ## The parts of a number -/

theorem toNat_unpackMantissa (b : BitVec 64) :
    (@unpackMantissa Format.binary64 b).toNat = b.toNat % Nat.pow 2 52 := by
  simp [unpackMantissa, Nat.shiftRight_eq_div_pow]

theorem toNat_unpackExponent (b : BitVec 64) :
    (@unpackExponent Format.binary64 b).toNat = b.toNat / Nat.pow 2 52 % Nat.pow 2 11 := by
  simp [unpackExponent, Nat.shiftRight_eq_div_pow]

theorem sign_unpackSign (b : BitVec 64) :
    sign (Sign.ofBitVec (@unpackSign Format.binary64 b)) =
      if Nat.pow 2 63 ≤ b.toNat then -1 else 1 := by
  have hb := b.isLt
  have hnat : (@unpackSign Format.binary64 b).toNat = b.toNat / Nat.pow 2 63 := by
    rw [unpackSign_eq, BitVec.extractLsb'_toNat, Nat.shiftRight_eq_div_pow]
    exact Nat.mod_eq_of_lt (Nat.div_lt_of_lt_mul hb)
  have hzero : @unpackSign Format.binary64 b = 0#1 ↔ ¬Nat.pow 2 63 ≤ b.toNat := by
    rw [← BitVec.toNat_inj, hnat]
    show b.toNat / Nat.pow 2 63 = 0 ↔ _
    rw [Nat.div_eq_zero_iff]
    simp only [Nat.pow_eq]
    omega
  unfold Sign.ofBitVec
  by_cases h : Nat.pow 2 63 ≤ b.toNat
  · rw [if_neg (fun hc => hzero.1 hc h), if_pos h]
    rfl
  · rw [if_pos (hzero.2 h), if_neg h]
    rfl

theorem exists_ofFloat_eq {v : Float} (h : IsCanonical v.toModel.unpack) :
    ∃ negative m e, Binary64.ofFloat v = .finite negative m e ∧
      value v.toModel.unpack = (if negative then -1 else 1) * m * 2 ^ e := by
  have hsign := sign_unpackSign v.toBits.toBitVec
  have hmantissa := toNat_unpackMantissa v.toBits.toBitVec
  have hexponent := toNat_unpackExponent v.toBits.toBitVec
  have hunpack : v.toModel.unpack = UnpackedFloat.unpack Format.binary64 v.toBits.toBitVec := rfl
  have hbits : v.toBits.toBitVec.toNat = v.toBits.toNat := rfl
  rw [hbits] at hsign hmantissa hexponent
  rw [hunpack] at h ⊢
  unfold Binary64.ofFloat
  simp only
  rw [← hmantissa, ← hexponent]
  by_cases hones : @unpackExponent Format.binary64 v.toBits.toBitVec = -1#11
  · exact absurd h (not_isCanonical_unpack hones)
  have hones' : ¬(@unpackExponent Format.binary64 v.toBits.toBitVec).toNat = 2047 := fun hc =>
    hones (BitVec.eq_of_toNat_eq hc)
  rw [if_neg hones']
  by_cases hzeros : @unpackExponent Format.binary64 v.toBits.toBitVec = 0#11
  · have hzeros' : (@unpackExponent Format.binary64 v.toBits.toBitVec).toNat = 0 :=
      congrArg BitVec.toNat hzeros
    rw [if_pos hzeros']
    refine ⟨_, _, _, rfl, ?_⟩
    by_cases hm : @unpackMantissa Format.binary64 v.toBits.toBitVec = 0#52
    · rw [unpack_of_zero hzeros hm, hm]
      simp
    · obtain ⟨hpos, hfinite⟩ := exists_unpack_of_subnormal hzeros hm
      rw [hfinite, value_finite, hsign, hzeros']
      simp only [decide_eq_true_eq]
      rfl
  · have hzeros' : ¬(@unpackExponent Format.binary64 v.toBits.toBitVec).toNat = 0 := fun hc =>
      hzeros (BitVec.eq_of_toNat_eq hc)
    rw [if_neg hzeros']
    refine ⟨_, _, _, rfl, ?_⟩
    obtain ⟨hpos, hfinite⟩ := exists_unpack_of_normal hones hzeros
    rw [hfinite, value_finite, hsign, BitVec.toNat_append,
      ← Nat.shiftLeft_add_eq_or_of_lt (BitVec.isLt _)]
    simp only [decide_eq_true_eq]
    rfl

end SketchPreview.Rounding
