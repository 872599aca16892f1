import SketchPreview.Call.Extract
import SketchPreview.Proofs.Expr.Pieces
import SketchPreview.Proofs.Rounding.Number

/-!
# Coordinates written in digits

A coordinate that is written as a run of digits goes through a binary64 number before it is cut to
32 bits. Numbers of 32 bits are exact there, so it arrives as it is written.

* `IsDigits`: a run of digits;
* `lex_digits`, `evaluate_digits`: it is one token, and its value;
* `isNaN_of_isFinite`, `truncate_of_eq`, `toCoordinate_of_represents`: cutting exact values;
* **`number_of_isDigits`**.
-/

namespace SketchPreview

open Text Rounding

/-- A run of digits that is not empty. -/
def IsDigits (s : List Char) : Prop := s ≠ [] ∧ ∀ c ∈ s, c.isDigit = true

instance : DecidablePred IsDigits := fun s =>
  decidable_of_iff ((!s.isEmpty && s.all Char.isDigit) = true) (by simp [IsDigits])

/-! ## The value of digits -/

namespace Expr

theorem lex_digits {s : List Char} (h : IsDigits s) :
    lex s = [.number (Float.ofScientific (readNat s) true 0)] := by
  obtain ⟨hne, hdigits⟩ := h
  have hliteral : Decimal.ofLiteral? s = some (Float.ofScientific (readNat s) true 0) := by
    rw [Decimal.ofLiteral?, List.takeWhile_eq_self_iff.2 hdigits,
      List.dropWhile_eq_nil_iff.2 hdigits]
    exact if_neg hne
  obtain ⟨c, rest, rfl⟩ := List.exists_cons_of_ne_nil hne
  obtain ⟨hc, hrest⟩ := List.forall_mem_cons.1 hdigits
  have hrun : IsRun isNumberChar rest [] :=
    ⟨fun a ha => isNumberChar_of_isDigit (hrest a ha), by simp⟩
  exact (Pieces.of_piece (.number hc hrun hliteral)).lex_eq

theorem evaluate_digits {s : List Char} (h : IsDigits s) (symbols : SymbolTable)
    (size : Dimensions) :
    evaluate s symbols size = .ok (Float.ofScientific (readNat s) true 0) := by
  rw [evaluate, lex_digits h]
  rfl

end Expr

/-! ## Cutting exact values -/

theorem isNaN_of_isFinite {v : Float} (h : IsFinite v) : v.isNaN = false := by
  show v.toModel.unpack.isNaN = false
  obtain ⟨s, hu⟩ | ⟨s, m, e, hm, hu⟩ := IsCanonical.eq_zero_or_finite h <;>
    rw [hu] <;> rfl

theorem truncate_of_eq {m n : ℕ} {e : ℤ} (h : (m : ℚ) * 2 ^ e = n) : Binary64.truncate m e = n := by
  unfold Binary64.truncate
  split
  · next he =>
    obtain ⟨k, rfl⟩ := Int.eq_ofNat_of_zero_le he
    rw [Int.toNat_natCast]
    exact_mod_cast h
  · next he =>
    have hm : m = n * 2 ^ (-e).toNat := by
      exact_mod_cast eq_natCast_of_mul_two_zpow (by omega) h
    rw [hm]
    exact Nat.mul_div_cancel n (Nat.two_pow_pos _)

theorem toCoordinate_of_represents {v : Float} {n : ℕ} (h : Represents v n)
    (hn : (n : ℤ) ≤ max32) : Call.toCoordinate v = Int32.ofNat n := by
  obtain ⟨negative, m, e, hparts, hvalue⟩ := exists_ofFloat_eq h.isFinite
  have hsum : (if negative then -1 else 1) * m * 2 ^ e = (n : ℚ) :=
    hvalue.symm.trans h.toRat_eq
  have hint : (Binary64.ofFloat v).toInt Binary64.truncate min32 max32 = n := by
    rw [hparts, Binary64.toInt]
    cases negative with
    | false =>
      rw [if_neg Bool.false_ne_true, one_mul] at hsum
      rw [truncate_of_eq hsum]
      show max min32 (min max32 (n : ℤ)) = n
      unfold min32 max32 at *
      omega
    | true =>
      -- the only number with this sign that is not negative is zero
      have hsize : (0 : ℚ) ≤ m * 2 ^ e := by positivity
      have hn0 : (0 : ℚ) ≤ n := Nat.cast_nonneg n
      rw [if_pos rfl, neg_mul, neg_mul, one_mul] at hsum
      have hzero : n = 0 := by
        have hle : (n : ℚ) ≤ 0 := by linarith
        exact_mod_cast le_antisymm hle hn0
      subst hzero
      have hm : (m : ℚ) * 2 ^ e = (0 : ℕ) := by
        rw [Nat.cast_zero] at hsum ⊢
        linarith
      rw [truncate_of_eq hm]
      rfl
  rw [Call.toCoordinate, hint, Int32.ofInt_eq_ofNat]

/-- **A coordinate in digits** is the number that it writes. -/
theorem Call.Scope.number_of_isDigits (scope : Scope) (v : Verb) {args : List (List Char)}
    {index : Nat} {s : List Char} (hs : args[index]? = some s) (h : IsDigits s)
    (hmax : (readNat s : ℤ) ≤ max32) :
    scope.number v args index = .ok (Int32.ofNat (readNat s)) := by
  have hrepresents : Represents (Float.ofScientific (readNat s) true 0) (readNat s) :=
    represents_ofScientific (by unfold max32 at hmax; omega)
  rw [Scope.number, hs]
  simp only [Expr.evaluate_digits h, isNaN_of_isFinite hrepresents.isFinite, Bool.false_eq_true,
    if_false, toCoordinate_of_represents hrepresents hmax]

end SketchPreview
