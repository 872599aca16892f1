import SketchPreview.Text.Word

/-!
# Strings between quotes

A string of a JSON document is kept as it is written. What the grammar admits there is a little more
than what stands for a text: a surrogate may be escaped without its partner, which only matters to
those who read the string.

* `Quoted`: a string as it is written between its quotes;
* `Quoted.scan?`: the written string behind an opening quote;
* `Quoted.decode?`, `Quoted.text?`: the text that a written string stands for;
* `Quoted.encode`, `Quoted.ofText`: the written string of a text. Quotes, backslashes and control
  characters are escaped, and everything else stands for itself;
* `text?_ofText`, `scan?_encode`: what is written for a text is read back, up to its closing quote.
-/

namespace SketchPreview.Json

open Text (hexValue?)

/-- A string of a document, as it is written between its quotes. -/
structure Quoted where
  written : List Char
  deriving DecidableEq, Repr, Inhabited

namespace Quoted

/-- The number that four hexadecimal digits write. -/
def codeUnit? (a b c d : Char) : Option Nat := do
  let a ← hexValue? a
  let b ← hexValue? b
  let c ← hexValue? c
  let d ← hexValue? d
  some (((a * 16 + b) * 16 + c) * 16 + d)

/-- The character that a letter after a backslash stands for. -/
def simpleEscape? (c : Char) : Option Char :=
  if c = '"' ∨ c = '\\' ∨ c = '/' then some c
  else if c = 'n' then some '\n'
  else if c = 'r' then some '\r'
  else if c = 't' then some '\t'
  else if c = 'b' then some '\x08'
  else if c = 'f' then some '\x0c'
  else none

/-- The character that two surrogates stand for. -/
def surrogatePair? (high low : Nat) : Option Char :=
  if 0xD800 ≤ high ∧ high < 0xDC00 ∧ 0xDC00 ≤ low ∧ low < 0xE000 then
    some (Char.ofNat (0x10000 + (high - 0xD800) * 0x400 + (low - 0xDC00)))
  else none

/-- The character that a code unit stands for by itself. -/
def loneUnit? (n : Nat) : Option Char :=
  if 0xD800 ≤ n ∧ n < 0xE000 then none else some (Char.ofNat n)

/-- The written characters up to a closing quote, and what follows the quote. Control characters
must be escaped. -/
def scan? : List Char → Option (List Char × List Char)
  | [] => none
  | '"' :: rest => some ([], rest)
  | '\\' :: 'u' :: a :: b :: c :: d :: rest =>
    if (codeUnit? a b c d).isSome then
      (scan? rest).map fun p => ('\\' :: 'u' :: a :: b :: c :: d :: p.1, p.2)
    else none
  | '\\' :: c :: rest =>
    if (simpleEscape? c).isSome then (scan? rest).map fun p => ('\\' :: c :: p.1, p.2) else none
  | c :: rest =>
    if c.toNat < 32 ∨ c = '\\' then none else (scan? rest).map fun p => (c :: p.1, p.2)

/-- The characters that written characters stand for. An escaped surrogate needs its partner. -/
def decode? : List Char → Option (List Char)
  | [] => some []
  | '\\' :: 'u' :: a :: b :: c :: d :: rest =>
    match codeUnit? a b c d with
    | none => none
    | some unit =>
      match loneUnit? unit with
      | some ch => (decode? rest).map (ch :: ·)
      | none =>
        match rest with
        | '\\' :: 'u' :: a' :: b' :: c' :: d' :: rest' =>
          match (codeUnit? a' b' c' d').bind (surrogatePair? unit) with
          | some ch => (decode? rest').map (ch :: ·)
          | none => none
        | _ => none
  | '\\' :: c :: rest =>
    match simpleEscape? c with
    | some ch => (decode? rest).map (ch :: ·)
    | none => none
  | c :: rest => if c = '\\' then none else (decode? rest).map (c :: ·)

/-- The text that a written string stands for, if it stands for one. -/
def text? (q : Quoted) : Option String := (decode? q.written).map String.ofList

/-- The hexadecimal digit of a number below sixteen. -/
def hexDigit (n : Nat) : Char := Nat.digitChar n

/-- A character as it is written inside a string. -/
def encodeChar (c : Char) : List Char :=
  if c = '"' then ['\\', '"']
  else if c = '\\' then ['\\', '\\']
  else if c = '\n' then ['\\', 'n']
  else if c = '\r' then ['\\', 'r']
  else if c = '\t' then ['\\', 't']
  else if c = '\x08' then ['\\', 'b']
  else if c = '\x0c' then ['\\', 'f']
  else if c.toNat < 32 then
    ['\\', 'u', '0', '0', hexDigit (c.toNat / 16), hexDigit (c.toNat % 16)]
  else [c]

/-- Characters as they are written inside a string. -/
def encode (s : List Char) : List Char := s.flatMap encodeChar

/-- The written string of a text. -/
def ofText (s : String) : Quoted := ⟨encode s.toList⟩

/-- A written string with its quotes. -/
def withQuotes (q : Quoted) : List Char := '"' :: (q.written ++ ['"'])

theorem codeUnit?_control {n : Nat} (h : n < 32) :
    codeUnit? '0' '0' (hexDigit (n / 16)) (hexDigit (n % 16)) = some n := by
  have all : ∀ n < 32, codeUnit? '0' '0' (hexDigit (n / 16)) (hexDigit (n % 16)) = some n := by
    decide
  exact all n h

theorem loneUnit?_toNat {c : Char} (h : c.toNat < 32) : loneUnit? c.toNat = some c := by
  rw [loneUnit?, if_neg (by omega), Char.ofNat_toNat]

theorem decode?_encodeChar (c : Char) (rest : List Char) :
    decode? (encodeChar c ++ rest) = (decode? rest).map (c :: ·) := by
  unfold encodeChar
  split
  · next h => subst h; simp [decode?, simpleEscape?]
  split
  · next h => subst h; simp [decode?, simpleEscape?]
  split
  · next h => subst h; simp [decode?, simpleEscape?]
  split
  · next h => subst h; simp [decode?, simpleEscape?]
  split
  · next h => subst h; simp [decode?, simpleEscape?]
  split
  · next h => subst h; simp [decode?, simpleEscape?]
  split
  · next h => subst h; simp [decode?, simpleEscape?]
  split
  · next h => simp [decode?, codeUnit?_control h, loneUnit?_toNat h]
  · next h => simp [decode?, *]

theorem decode?_encode (s : List Char) : decode? (encode s) = some s := by
  induction s with
  | nil => rfl
  | cons c s ih =>
    rw [encode, List.flatMap_cons, decode?_encodeChar]
    simpa [encode] using congrArg (Option.map (c :: ·)) ih

theorem text?_ofText (s : String) : (ofText s).text? = some s := by
  simp [text?, ofText, decode?_encode]

theorem scan?_encodeChar (c : Char) (rest : List Char) :
    scan? (encodeChar c ++ rest) = (scan? rest).map fun p => (encodeChar c ++ p.1, p.2) := by
  unfold encodeChar
  split
  · next h => subst h; simp [scan?, simpleEscape?]
  split
  · next h => subst h; simp [scan?, simpleEscape?]
  split
  · next h => subst h; simp [scan?, simpleEscape?]
  split
  · next h => subst h; simp [scan?, simpleEscape?]
  split
  · next h => subst h; simp [scan?, simpleEscape?]
  split
  · next h => subst h; simp [scan?, simpleEscape?]
  split
  · next h => subst h; simp [scan?, simpleEscape?]
  split
  · next h => simp [scan?, codeUnit?_control h]
  · next h => simp [scan?, *]

/-- A reader stops behind the closing quote of what is written for a text. -/
theorem scan?_encode (s rest : List Char) :
    scan? (encode s ++ '"' :: rest) = some (encode s, rest) := by
  induction s with
  | nil => simp [encode, scan?]
  | cons c s ih =>
    rw [encode, List.flatMap_cons, List.append_assoc, scan?_encodeChar, ← encode, ih]
    rfl

end Quoted

end SketchPreview.Json
