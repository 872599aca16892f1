/-!
# Binary floating point numbers as exact values

A binary64 number that is neither infinite nor `NaN` is `± mantissa * 2 ^ exponent` for a natural
mantissa and an integer exponent. Reading these parts off the bits makes truncation, rounding and
printing exact integer arithmetic.

* `Binary64`, `Binary64.ofFloat`: the parts of a number;
* `truncate`, `roundAway`: the integer below it in size, and the nearest one (a half goes away from
  zero);
* `toInt`: an integer held to a range, as both are used.
-/

namespace SketchPreview

/-- The parts of a binary64 number. -/
inductive Binary64 where
  | nan
  | infinite (negative : Bool)
  | finite (negative : Bool) (mantissa : Nat) (exponent : Int)
  deriving DecidableEq, Repr

namespace Binary64

/-- The parts of a number: sign bit, eleven bits of exponent and fifty-two of mantissa. -/
def ofFloat (v : Float) : Binary64 :=
  let bits := v.toBits.toNat
  let negative := decide (Nat.pow 2 63 ≤ bits)
  let exponent : Nat := bits / Nat.pow 2 52 % Nat.pow 2 11
  let fraction : Nat := bits % Nat.pow 2 52
  if exponent = 2047 then if fraction = 0 then infinite negative else nan
  else if exponent = 0 then finite negative fraction (-1074)
  else finite negative (Nat.pow 2 52 + fraction) ((exponent : Int) - 1075)

/-- The integer part of `mantissa * 2 ^ exponent`. -/
def truncate (mantissa : Nat) (exponent : Int) : Nat :=
  if 0 ≤ exponent then mantissa * Nat.pow 2 exponent.toNat
  else mantissa / Nat.pow 2 (-exponent).toNat

/-- The integer nearest to `mantissa * 2 ^ exponent`; a half is rounded up. -/
def roundAway (mantissa : Nat) (exponent : Int) : Nat :=
  if 0 ≤ exponent then mantissa * Nat.pow 2 exponent.toNat
  else (2 * mantissa + Nat.pow 2 (-exponent).toNat) / Nat.pow 2 ((-exponent).toNat + 1)

/-- Whether a number is an integer. -/
def isInteger : Binary64 → Bool
  | nan => false
  | infinite _ => false
  | finite _ mantissa exponent => 0 ≤ exponent || mantissa % Nat.pow 2 (-exponent).toNat == 0

/-- The integer that `magnitude` makes of the size of a number, with its sign, held to the range
from `low` to `high`. Not a number counts as zero. -/
def toInt (magnitude : Nat → Int → Nat) (low high : Int) : Binary64 → Int
  | nan => 0
  | infinite negative => if negative then low else high
  | finite negative mantissa exponent =>
    let size : Int := magnitude mantissa exponent
    max low (min high (if negative then -size else size))

theorem toInt_mem {magnitude : Nat → Int → Nat} {low high : Int} (h₀ : low ≤ 0) (h₁ : 0 ≤ high)
    (v : Binary64) : low ≤ v.toInt magnitude low high ∧ v.toInt magnitude low high ≤ high := by
  cases v with
  | nan => exact ⟨h₀, h₁⟩
  | infinite negative => cases negative <;> simp [toInt] <;> omega
  | finite negative mantissa exponent => simp only [toInt]; omega

end Binary64

end SketchPreview
