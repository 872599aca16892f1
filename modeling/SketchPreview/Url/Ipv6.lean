import SketchPreview.Text.Find
import SketchPreview.Text.Line
import SketchPreview.Text.Word

/-!
# Addresses of eight numbers

An address of eight hexadecimal numbers with colons between them. Two colons stand for one or more
zeros, once; and the last two numbers may be written as four decimal ones.

* `Ipv6.ofText?`: the numbers of an address;
* `Ipv6.text`: an address in its shortest form, where two colons take the place of the first longest
  run of zeros.
-/

namespace SketchPreview.Url.Ipv6

open Text (hexValue?)

/-- The number that one to four hexadecimal digits write. -/
def group? (s : List Char) : Option Nat := do
  guard (1 ≤ s.length ∧ s.length ≤ 4)
  let digits ← s.mapM hexValue?
  some (digits.foldl (fun n d => n * 16 + d) 0)

/-- The number below 256 that decimal digits write, without a leading zero. -/
def byte? (s : List Char) : Option Nat := do
  let n ← Text.readNat? s
  guard (n < 256 ∧ (s.length = 1 ∨ s.head? ≠ some '0'))
  some n

/-- The two numbers that four decimal ones with points between them write. -/
def dotted? (s : List Char) : Option (List Nat) := do
  match ← (Text.pieces '.' s).mapM byte? with
  | [a, b, c, d] => some [a * 256 + b, c * 256 + d]
  | _ => none

/-- The numbers between colons, if there are any. -/
def groups? (s : List Char) : Option (List Nat) :=
  if s.isEmpty then some [] else (Text.pieces ':' s).mapM group?

/-- The numbers between colons at the end of an address. -/
def lastGroups? (s : List Char) : Option (List Nat) := do
  let all := Text.pieces ':' s
  let last := all.getLastD []
  if last.contains '.' then
    some ((← all.dropLast.mapM group?) ++ (← dotted? last))
  else groups? s

/-- The numbers of an address. -/
def ofText? (s : List Char) : Option (List Nat) := do
  match Text.cutAt? "::".toList s with
  | some (front, back) =>
    let front ← groups? front
    let back ← lastGroups? back
    guard (front.length + back.length < 8)
    some (front ++ List.replicate (8 - front.length - back.length) 0 ++ back)
  | none =>
    let all ← lastGroups? s
    guard (all.length = 8)
    some all

/-- The number of zeros in front of some numbers. -/
def leadingZeros (numbers : List Nat) : Nat := (numbers.takeWhile (· = 0)).length

/-- The first place where the most zeros follow each other. -/
def zeroPlace (numbers : List Nat) : Nat :=
  (List.range numbers.length).foldl (fun best i =>
    if leadingZeros (numbers.drop best) < leadingZeros (numbers.drop i) then i else best) 0

/-- Numbers in hexadecimal digits with colons between them. -/
def joined (numbers : List Nat) : List Char :=
  [':'].intercalate (numbers.map fun n => Nat.toDigits 16 n)

/-- An address in its shortest form. -/
def text (numbers : List Nat) : List Char :=
  let place := zeroPlace numbers
  let zeros := leadingZeros (numbers.drop place)
  if 2 ≤ zeros then
    joined (numbers.take place) ++ "::".toList ++ joined (numbers.drop (place + zeros))
  else joined numbers

end SketchPreview.Url.Ipv6
