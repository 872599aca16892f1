/-!
# Saturating arithmetic

Coordinates are integers held to 32 or 64 bits. A sum or product that leaves the range becomes
the nearest bound, so a shape that reaches too far is cut there and never wraps around.

* `clamp32`, `clamp64`: the nearest number of the range;
* `add64`, `sub64`, `mul64`, `neg64`, `abs64`: arithmetic followed by `clamp64`;
* `Fits64`: the numbers that `clamp64` leaves alone.
-/

namespace SketchPreview

/-- The smallest 32-bit number. -/
def min32 : Int := -2147483648

/-- The greatest 32-bit number. -/
def max32 : Int := 2147483647

/-- The smallest 64-bit number. -/
def min64 : Int := -9223372036854775808

/-- The greatest 64-bit number. -/
def max64 : Int := 9223372036854775807

/-- The 32-bit number nearest to `n`. -/
def clamp32 (n : Int) : Int := max min32 (min n max32)

/-- The 64-bit number nearest to `n`. -/
def clamp64 (n : Int) : Int := max min64 (min n max64)

/-- Whether `n` is a 32-bit number. -/
def Fits32 (n : Int) : Prop := min32 ≤ n ∧ n ≤ max32

/-- Whether `n` is a 64-bit number. -/
def Fits64 (n : Int) : Prop := min64 ≤ n ∧ n ≤ max64

instance (n : Int) : Decidable (Fits32 n) := inferInstanceAs (Decidable (_ ∧ _))

instance (n : Int) : Decidable (Fits64 n) := inferInstanceAs (Decidable (_ ∧ _))

/-- The saturating sum. -/
def add64 (x y : Int) : Int := clamp64 (x + y)

/-- The saturating difference. -/
def sub64 (x y : Int) : Int := clamp64 (x - y)

/-- The saturating product. -/
def mul64 (x y : Int) : Int := clamp64 (x * y)

/-- The saturating negation. -/
def neg64 (x : Int) : Int := clamp64 (-x)

/-- The saturating absolute value. -/
def abs64 (x : Int) : Int := clamp64 x.natAbs

/-- The 32-bit integer nearest to `n`. -/
def nearestInt32 (n : Int) : Int32 := Int32.ofInt (clamp32 n)

theorem fits32_clamp32 (n : Int) : Fits32 (clamp32 n) := by
  simp only [Fits32, clamp32, min32, max32]; omega

theorem fits64_clamp64 (n : Int) : Fits64 (clamp64 n) := by
  simp only [Fits64, clamp64, min64, max64]; omega

theorem clamp32_of_fits {n : Int} (h : Fits32 n) : clamp32 n = n := by
  simp only [Fits32, clamp32, min32, max32] at *; omega

theorem clamp64_of_fits {n : Int} (h : Fits64 n) : clamp64 n = n := by
  simp only [Fits64, clamp64, min64, max64] at *; omega

theorem clamp64_mono {m n : Int} (h : m ≤ n) : clamp64 m ≤ clamp64 n := by
  simp only [clamp64, min64, max64]; omega

theorem fits32_toInt (n : Int32) : Fits32 n.toInt := ⟨n.le_toInt, n.toInt_le⟩

theorem toInt_nearestInt32 (n : Int) : (nearestInt32 n).toInt = clamp32 n := by
  have h := fits32_clamp32 n
  simp only [Fits32, min32, max32] at h
  exact Int32.toInt_ofInt_of_le (by simpa using h.1) (by have := h.2; omega)

end SketchPreview
