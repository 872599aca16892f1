import SketchPreview.Text.Word

/-!
# Percent encoding

A character that may not stand in some part of an address is written as its bytes, each as a percent
sign and two hexadecimal digits. The parts of an address differ in the characters that have to be
written like that.

* `isControl`, `isUnsafeInFragment`, `isUnsafeInPath`, `isUnsafeInCredentials`, `isUnsafeInQuery`:
  the characters that have to be encoded;
* `percentEncode`;
* `percentDecode`: the bytes of a text with encoded characters.
-/

namespace SketchPreview.Url

open Text (hexValue?)

/-- A control character or one beyond ASCII. -/
def isControl (c : Char) : Bool := c.toNat < 0x20 || 0x7F ≤ c.toNat

/-- A character that is encoded in a fragment. -/
def isUnsafeInFragment (c : Char) : Bool := isControl c || c ∈ [' ', '"', '<', '>', '\x60']

/-- A character that is encoded in a path. -/
def isUnsafeInPath (c : Char) : Bool :=
  isUnsafeInFragment c || c ∈ ['#', '?', '\x7b', '\x7d']

/-- A character that is encoded in the name or password of a user. -/
def isUnsafeInCredentials (c : Char) : Bool :=
  isUnsafeInPath c || c ∈ ['/', ':', ';', '=', '@', '[', '\\', ']', '^', '|']

/-- A character that is encoded in a query. Addresses of special schemes also encode apostrophes. -/
def isUnsafeInQuery (special : Bool) (c : Char) : Bool :=
  isControl c || c ∈ [' ', '"', '#', '<', '>'] || (special && c == '\'')

/-- A hexadecimal digit, a letter being a capital one. -/
def capitalHexDigit (n : Nat) : Char := (Nat.digitChar n).toUpper

/-- A byte as a percent sign and two digits. -/
def percentByte (b : UInt8) : List Char :=
  ['%', capitalHexDigit (b.toNat / 16), capitalHexDigit (b.toNat % 16)]

/-- A text in which the unsafe characters are encoded. -/
def percentEncode (isUnsafe : Char → Bool) (s : List Char) : List Char :=
  s.flatMap fun c =>
    if isUnsafe c then (String.utf8EncodeChar c).flatMap percentByte else [c]

/-- The byte that two hexadecimal digits write. -/
def hexByte? (a b : Char) : Option UInt8 := do
  let a ← hexValue? a
  let b ← hexValue? b
  some (UInt8.ofNat (a * 16 + b))

/-- The bytes of a text. A percent sign that two hexadecimal digits do not follow stands for
itself. -/
def percentDecode : List Char → List UInt8
  | [] => []
  | '%' :: a :: b :: rest =>
    match hexByte? a b with
    | some byte => byte :: percentDecode rest
    | none => String.utf8EncodeChar '%' ++ percentDecode (a :: b :: rest)
  | c :: rest => String.utf8EncodeChar c ++ percentDecode rest

/-- The text that encoded characters write, if their bytes are one. -/
def percentText? (s : List Char) : Option String := String.fromUTF8? ⟨(percentDecode s).toArray⟩

end SketchPreview.Url
