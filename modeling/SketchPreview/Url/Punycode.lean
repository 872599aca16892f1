import SketchPreview.Text.Word

/-!
# International labels in ASCII

A label of a host name with characters beyond ASCII is written as its ASCII characters, a hyphen if
there are any, and a run of digits for the others: each insertion is the number of states between it
and the one before, in a numeral system whose digits have thresholds that adapt to the numbers seen.

* `encode`, `decode?`: the written form of a label and the label of a written form;
* `threshold`, `adapt`: the numeral system.
-/

namespace SketchPreview.Url.Punycode

/-- The number of digits. -/
def base : Nat := 36

/-- The digit of a number below thirty-six: letters, then decimal digits. -/
def digitChar (d : Nat) : Char :=
  if d < 26 then Char.ofNat (0x61 + d) else Char.ofNat (0x30 + (d - 26))

/-- The number of a digit. -/
def digitValue? (c : Char) : Option Nat :=
  if c.isDigit then some (c.toNat - 0x30 + 26)
  else if c.isAlpha then some (c.toLower.toNat - 0x61)
  else none

/-- The threshold of the digit in a position, given as a multiple of the base, under a bias. -/
def threshold (position bias : Nat) : Nat := min 26 (max 1 (position - bias))

theorem threshold_pos (position bias : Nat) : 1 ≤ threshold position bias := by
  unfold threshold; omega

theorem threshold_le (position bias : Nat) : threshold position bias ≤ 26 := by
  unfold threshold; omega

/-- Divides a number until it is small, and counts the divisions in multiples of the base. -/
def reduce (delta count : Nat) : Nat × Nat :=
  if 455 < delta then reduce (delta / 35) (count + base) else (delta, count)
termination_by delta
decreasing_by exact Nat.div_lt_self (by omega) (by omega)

/-- The bias behind a number, for the count of characters that are there then. -/
def adapt (delta points : Nat) (isFirst : Bool) : Nat :=
  let delta := if isFirst then delta / 700 else delta / 2
  let (delta, count) := reduce (delta + delta / points) 0
  count + base * delta / (delta + 38)

/-- The digits of a number from a position on, the lowest one first. -/
def digits (bias position n : Nat) : List Char :=
  let t := threshold position bias
  if n < t then [digitChar n]
  else
    digitChar (t + (n - t) % (base - t)) :: digits bias (position + base) ((n - t) / (base - t))
termination_by n
decreasing_by
  have h := threshold_pos position bias
  exact Nat.lt_of_le_of_lt (Nat.div_le_self _ _) (by omega)

/-- What an encoder has written: the digits, the states since the last insertion, the bias and the
number of characters that are there. -/
structure Encoder where
  written : List Char
  delta : Nat
  bias : Nat
  points : Nat

/-- Passes a character of the label while those of code point `n` are inserted. -/
def Encoder.pass (basic n : Nat) (e : Encoder) (c : Char) : Encoder :=
  if c.toNat < n then { e with delta := e.delta + 1 }
  else if c.toNat = n then
    { written := e.written ++ digits e.bias base e.delta, delta := 0,
      bias := adapt e.delta (e.points + 1) (e.points == basic), points := e.points + 1 }
  else e

/-- Inserts the characters of a label, one code point after the other, from the code point `n`
on. -/
def Encoder.insertAll (label : List Char) (basic : Nat) : List Nat → Nat → Encoder → Encoder
  | [], _, e => e
  | m :: rest, n, e =>
    let e := { e with delta := e.delta + (m - n) * (e.points + 1) }
    let e := label.foldl (Encoder.pass basic m) e
    Encoder.insertAll label basic rest (m + 1) { e with delta := e.delta + 1 }

/-- The bias at the start. -/
def startBias : Nat := 72

/-- The first code point beyond ASCII. -/
def startPoint : Nat := 128

/-- Whether a character is in ASCII. -/
def isBasic (c : Char) : Bool := c.toNat < startPoint

/-- The code points beyond ASCII of a label, ascending and each once. -/
def extendedPoints (label : List Char) : List Nat :=
  (((label.filter fun c => !isBasic c).map Char.toNat).mergeSort (· ≤ ·)).eraseDups

/-- The written form of a label. -/
def encode (label : List Char) : List Char :=
  let basic := label.filter isBasic
  let start : Encoder := ⟨[], 0, startBias, basic.length⟩
  basic ++ (if basic.isEmpty then [] else ['-']) ++
    (Encoder.insertAll label basic.length (extendedPoints label) startPoint start).written

/-- Reads a number off digits, from a position with a weight on. Gives the number added to `n`, and
the digits that are left. -/
def number? (bias : Nat) : List Char → Nat → Nat → Nat → Option (Nat × List Char)
  | [], _, _, _ => none
  | c :: rest, position, weight, n => do
    let d ← digitValue? c
    let t := threshold position bias
    if d < t then some (n + d * weight, rest)
    else number? bias rest (position + base) (weight * (base - t)) (n + d * weight)

/-- Inserts the characters that digits write into a label. Every number takes a digit, so a bound of
their count is never reached. -/
def insertions? : Nat → Nat → Nat → Nat → List Char → List Char → Option (List Char)
  | _, _, _, _, label, [] => some label
  | 0, _, _, _, _, _ => none
  | fuel + 1, bias, point, place, label, written => do
    let (n, rest) ← number? bias written base 1 place
    let points := label.length + 1
    let point := point + n / points
    guard point.isValidChar
    insertions? fuel (adapt (n - place) points (place == 0)) point (n % points + 1)
      (label.insertIdx (n % points) (Char.ofNat point)) rest

/-- The label that a written form stands for. A hyphen in front of everything is no separator. -/
def decode? (written : List Char) : Option (List Char) :=
  let tail := (written.reverse.takeWhile (· ≠ '-')).reverse
  let basic := written.take (written.length - tail.length - 1)
  if basic.isEmpty && tail.length < written.length then none
  else insertions? tail.length startBias startPoint 0 basic tail

end SketchPreview.Url.Punycode
