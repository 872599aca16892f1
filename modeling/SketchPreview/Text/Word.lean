/-!
# Words of the source language

The names and numbers of a sketch are made of ASCII letters, ASCII digits and the underscore.

* `isWordStart`, `isWordChar`: the characters that make up names;
* `identifier?`: a name in front of a text and what follows it;
* `readNat`, `readNat?`, `readInt?`: decimal numbers;
* `hexValue?`: hexadecimal digits;
* `ofInt`: the decimal digits of a number.
-/

namespace SketchPreview.Text

/-- A character that a name may begin with. -/
def isWordStart (c : Char) : Bool := c.isAlpha || c == '_'

/-- A character that a name may go on with. -/
def isWordChar (c : Char) : Bool := c.isAlphanum || c == '_'

/-- The name at the front of a text, as long as possible, and the rest. -/
def identifier? : List Char → Option (List Char × List Char)
  | [] => none
  | c :: rest =>
    if isWordStart c then some (c :: rest.takeWhile isWordChar, rest.dropWhile isWordChar) else none

/-- The value of a decimal digit. -/
def digitValue (c : Char) : Nat := c.toNat - '0'.toNat

/-- The value of a hexadecimal digit. -/
def hexValue? (c : Char) : Option Nat :=
  if '0' ≤ c ∧ c ≤ '9' then some (c.toNat - '0'.toNat)
  else if 'a' ≤ c ∧ c ≤ 'f' then some (c.toNat - 'a'.toNat + 10)
  else if 'A' ≤ c ∧ c ≤ 'F' then some (c.toNat - 'A'.toNat + 10)
  else none

/-- The number that a run of decimal digits writes; leading zeros do not count. -/
def readNat (digits : List Char) : Nat := digits.foldl (fun n c => 10 * n + digitValue c) 0

/-- The number that a non-empty run of decimal digits writes, and nothing for any other text. -/
def readNat? (s : List Char) : Option Nat :=
  if s ≠ [] ∧ s.all Char.isDigit then some (readNat s) else none

/-- The number written by decimal digits after at most one sign. -/
def readInt? : List Char → Option Int
  | '+' :: rest => (readNat? rest).map Int.ofNat
  | '-' :: rest => (readNat? rest).map fun n => -(n : Int)
  | s => (readNat? s).map Int.ofNat

/-- The text of an integer in decimal digits. -/
def ofInt (n : Int) : List Char := (toString n).toList

theorem identifier?_append {s name rest : List Char} (h : identifier? s = some (name, rest)) :
    name ++ rest = s := by
  cases s with
  | nil => simp [identifier?] at h
  | cons c s =>
    simp only [identifier?, Option.ite_none_right_eq_some, Option.some.injEq, Prod.mk.injEq] at h
    obtain ⟨-, rfl, rfl⟩ := h
    simp

theorem readNat?_nil : readNat? [] = none := by simp [readNat?]

end SketchPreview.Text
