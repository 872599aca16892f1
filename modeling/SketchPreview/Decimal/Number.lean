import SketchPreview.Decimal.Binary64
import SketchPreview.Decimal.Shortest
import SketchPreview.Text.Word

/-!
# Numbers in a sketch

* `ofLiteral?`: the value of a literal, digits with at most one point among them;
* `positional`: a number in digits, without an exponent however great or small it is;
* `display`: a number as a sketch prints it, where an integer of moderate size has no point.
-/

namespace SketchPreview.Decimal

open Text

/-- The value of a literal: digits with at most one point among or after them. -/
def ofLiteral? (s : List Char) : Option Float :=
  let whole := s.takeWhile Char.isDigit
  match s.dropWhile Char.isDigit with
  | [] => if whole = [] then none else some (Float.ofScientific (readNat whole) true 0)
  | c :: fraction =>
    if c = '.' ∧ fraction.all Char.isDigit ∧ ¬(whole = [] ∧ fraction = []) then
      some (Float.ofScientific (readNat (whole ++ fraction)) true fraction.length)
    else none

/-- The digits of `n * 10 ^ k` with a point where one is needed. -/
def placePoint (n : Nat) (k : Int) : List Char :=
  let digits := Nat.toDigits 10 n
  if 0 ≤ k then digits ++ List.replicate k.toNat '0'
  else
    let places := (-k).toNat
    if places < digits.length then
      digits.take (digits.length - places) ++ '.' :: digits.drop (digits.length - places)
    else '0' :: '.' :: (List.replicate (places - digits.length) '0' ++ digits)

/-- The shortest decimal of a number in positional notation. -/
def positional (v : Float) : String :=
  match Binary64.ofFloat v with
  | .nan => "NaN"
  | .infinite negative => if negative then "-inf" else "inf"
  | .finite negative mantissa exponent =>
    let size :=
      if mantissa = 0 then ['0']
      else
        let shortest := shortest mantissa exponent
        placePoint shortest.1 shortest.2
    String.ofList (if negative then '-' :: size else size)

/-- The size from which on integers are written like other numbers. -/
def integerBound : Int := 1000000000000000

/-- A number as a sketch prints it. An integer below `10 ^ 15` in size is written without its sign
of zero. -/
def display (v : Float) : String :=
  let parts := Binary64.ofFloat v
  if parts.isInteger && v.abs < 1e15 then
    toString (parts.toInt Binary64.truncate (-integerBound) integerBound)
  else positional v

end SketchPreview.Decimal
