import SketchPreview.Text.Line
import SketchPreview.Text.Word

/-!
# Addresses of four numbers

A host whose last part is a number is an address of at most four numbers with points between them:
decimal, octal behind a `0` or hexadecimal behind `0x`. The last number fills all bytes that are
left.

* `Ipv4.endsInNumber`: whether a host must be such an address;
* `Ipv4.ofText?`: the address;
* `Ipv4.text`: its four bytes in decimal digits.
-/

namespace SketchPreview.Url.Ipv4

open Text (hexValue?)

/-- The number that digits of a base write; without digits it is zero. -/
def numberIn? (base : Nat) (s : List Char) : Option Nat := do
  let digits ← s.mapM hexValue?
  if digits.all (· < base) then some (digits.foldl (fun n d => n * base + d) 0) else none

/-- The number that a part writes. -/
def number? : List Char → Option Nat
  | [] => none
  | '0' :: 'x' :: digits => numberIn? 16 digits
  | '0' :: 'X' :: digits => numberIn? 16 digits
  | '0' :: c :: digits => numberIn? 8 (c :: digits)
  | digits => numberIn? 10 digits

/-- The parts of a host; one point at the end does not count. -/
def parts (s : List Char) : List (List Char) :=
  let all := Text.pieces '.' s
  if 1 < all.length ∧ all.getLast? = some [] then all.dropLast else all

/-- Whether the last part of a host is a number or made of digits. -/
def endsInNumber (s : List Char) : Bool :=
  match (parts s).getLast? with
  | none => false
  | some part => part ≠ [] && (part.all Char.isDigit || (number? part).isSome)

/-- The value of numbers of which all but the last one fill a byte each, the highest one first. -/
def valueOf? (bytes : List Nat) (last : Nat) : Option Nat :=
  let free := 4 - bytes.length
  if bytes.length < 4 ∧ bytes.all (· < 256) ∧ last < Nat.pow 256 free then
    some (bytes.foldl (fun n b => n * 256 + b) 0 * Nat.pow 256 free + last)
  else none

/-- The address that a host writes. -/
def ofText? (s : List Char) : Option UInt32 := do
  let numbers ← (parts s).mapM number?
  let last ← numbers.getLast?
  let value ← valueOf? numbers.dropLast last
  some (UInt32.ofNat value)

/-- The bytes of an address in decimal digits. -/
def text (a : UInt32) : List Char :=
  let n := a.toNat
  let bytes := [n / 16777216, n / 65536 % 256, n / 256 % 256, n % 256]
  ['.'].intercalate (bytes.map fun b => Nat.toDigits 10 b)

end SketchPreview.Url.Ipv4
