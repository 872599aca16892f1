import SketchPreview.Text.Word

/-!
# Numbers as they are written

A number of a JSON document is a whole part, perhaps a fraction and perhaps an exponent. Those who
read its value take as many of its digits as fit into 64 bits, and multiply them by a power of ten
in binary64; the number is out of range if the product is.

* `Numeral`: a number in its written parts;
* `Numeral.read?`: the number at the front of a text;
* `Numeral.scientific`: the digits that count and the power of ten that goes with them;
* `Numeral.inRange`: whether the value is finite.
-/

namespace SketchPreview.Json

/-- A number as it is written: its sign, the digits of its whole part and of its fraction, and its
exponent. An exponent that is there begins with its letter. -/
structure Numeral where
  negative : Bool
  whole : List Char
  fraction : List Char
  exponent : List Char
  deriving DecidableEq, Repr, Inhabited

namespace Numeral

/-- The digits at the front of a text, at least one, and the rest. -/
def digits? (s : List Char) : Option (List Char × List Char) :=
  if (s.takeWhile Char.isDigit).isEmpty then none
  else some (s.takeWhile Char.isDigit, s.dropWhile Char.isDigit)

/-- The whole part of a number: a zero, or digits that begin with none. -/
def wholePart? : List Char → Option (List Char × List Char)
  | '0' :: rest => some (['0'], rest)
  | s => digits? s

/-- The digits of a fraction, if there is one behind a point. -/
def fractionPart? : List Char → Option (List Char × List Char)
  | '.' :: rest => digits? rest
  | s => some ([], s)

/-- The sign of an exponent, if there is one. -/
def signPart : List Char → List Char × List Char
  | '+' :: rest => (['+'], rest)
  | '-' :: rest => (['-'], rest)
  | s => ([], s)

/-- The exponent of a number, if there is one. -/
def exponentPart? : List Char → Option (List Char × List Char)
  | [] => some ([], [])
  | c :: rest =>
    if c = 'e' ∨ c = 'E' then
      (digits? (signPart rest).2).map fun p => (c :: (signPart rest).1 ++ p.1, p.2)
    else some ([], c :: rest)

/-- A number without its sign, and what follows. -/
def unsigned? (negative : Bool) (s : List Char) : Option (Numeral × List Char) := do
  let (whole, s) ← wholePart? s
  let (fraction, s) ← fractionPart? s
  let (exponent, s) ← exponentPart? s
  some ({ negative, whole, fraction, exponent }, s)

/-- The number at the front of a text, and what follows. -/
def read? : List Char → Option (Numeral × List Char)
  | '-' :: rest => unsigned? true rest
  | s => unsigned? false s

/-- The characters of a number. -/
def chars (n : Numeral) : List Char :=
  (if n.negative then ['-'] else []) ++ n.whole ++
    (if n.fraction.isEmpty then [] else '.' :: n.fraction) ++ n.exponent

/-- The number that is written in digits only, for an integer. -/
def ofInt (n : Int) : Numeral := ⟨n < 0, (toString n.natAbs).toList, [], []⟩

/-- The integer that a number is, if it is written as one. A negative zero is none. -/
def toInt? (n : Numeral) : Option Int :=
  let size := Text.readNat n.whole
  if n.fraction.isEmpty && n.exponent.isEmpty && !(n.negative && size == 0) then
    some (if n.negative then -(size : Int) else size)
  else none

/-! ## The range of values -/

/-- Takes digits into a number as long as it stays below `2 ^ 64`. Gives the number and the digits
that are left. -/
def absorb (n : Nat) : List Char → Nat × List Char
  | [] => (n, [])
  | c :: rest =>
    let next := 10 * n + Text.digitValue c
    if next < UInt64.size then absorb next rest else (n, c :: rest)

/-- The power of ten that an exponent writes. -/
def power (n : Numeral) : Int :=
  match signPart (n.exponent.drop 1) with
  | (['-'], digits) => -(Text.readNat digits : Int)
  | (_, digits) => Text.readNat digits

/-- The digits that count, as one number, and the power of ten that goes with them. A digit of the
whole part that does not fit raises the power; one of the fraction is dropped. -/
def scientific (n : Numeral) : Nat × Int :=
  let whole := absorb 0 n.whole
  let fraction := absorb whole.1 n.fraction
  (fraction.1,
    n.power + whole.2.length + fraction.2.length - n.fraction.length)

/-- The greatest power of ten that binary64 holds. -/
def maxPower : Nat := 308

/-- Whether the value of a number is finite. -/
def inRange (n : Numeral) : Bool :=
  let (digits, power) := n.scientific
  digits == 0 || power ≤ 0 ||
    (power ≤ maxPower &&
      !((UInt64.ofNat digits).toFloat * Float.ofScientific 1 false power.toNat).isInf)

end Numeral

end SketchPreview.Json
