import SketchPreview.Json.Value

/-!
# Reading JSON

The reader takes exactly the documents of the JSON grammar: no comments, no superfluous commas or
zeros and no control characters inside strings.

* `value?`: a value and what follows it, by recursion on a bound of its length;
* `Json.parse?`: a whole document.
-/

namespace SketchPreview.Json

/-- The blanks of JSON. -/
def isSpace (c : Char) : Bool := c == ' ' || c == '\n' || c == '\r' || c == '\t'

/-- A text without the blanks in front. -/
def skipSpace (s : List Char) : List Char := s.dropWhile isSpace

/-- A string behind its opening quote, and what follows. -/
def quoted? (s : List Char) : Option (Quoted × List Char) :=
  (Quoted.scan? s).map fun p => (⟨p.1⟩, p.2)

/-- A number and what follows. -/
def number? (s : List Char) : Option (Json × List Char) :=
  (Numeral.read? s).map fun p => (ofNumeral p.1, p.2)

/-- A word of the language and what follows. -/
def word? : List Char → Option (Json × List Char)
  | 'n' :: 'u' :: 'l' :: 'l' :: rest => some (null, rest)
  | 't' :: 'r' :: 'u' :: 'e' :: rest => some (bool true, rest)
  | 'f' :: 'a' :: 'l' :: 's' :: 'e' :: rest => some (bool false, rest)
  | _ => none

mutual

/-- The value at the front of a text, after blanks, and what follows it. -/
def value? : Nat → List Char → Option (Json × List Char)
  | 0, _ => none
  | fuel + 1, s =>
    match skipSpace s with
    | '"' :: rest => (quoted? rest).map fun p => (quoted p.1, p.2)
    | '[' :: rest =>
      match skipSpace rest with
      | ']' :: rest => some (arr [], rest)
      | rest => (items? fuel rest).map fun p => (arr p.1, p.2)
    | '\x7b' :: rest =>
      match skipSpace rest with
      | '\x7d' :: rest => some (object [], rest)
      | rest => (fields? fuel rest).map fun p => (object p.1, p.2)
    | rest => (word? rest).or (number? rest)

/-- Items up to the end of their array. -/
def items? : Nat → List Char → Option (List Json × List Char)
  | 0, _ => none
  | fuel + 1, s =>
    match value? fuel s with
    | none => none
    | some (v, rest) =>
      match skipSpace rest with
      | ',' :: rest => (items? fuel rest).map fun p => (v :: p.1, p.2)
      | ']' :: rest => some ([v], rest)
      | _ => none

/-- Fields up to the end of their object. -/
def fields? : Nat → List Char → Option (List (Quoted × Json) × List Char)
  | 0, _ => none
  | fuel + 1, s =>
    match skipSpace s with
    | '"' :: rest =>
      match quoted? rest with
      | none => none
      | some (key, rest) =>
        match skipSpace rest with
        | ':' :: rest =>
          match value? fuel rest with
          | none => none
          | some (v, rest) =>
            match skipSpace rest with
            | ',' :: rest => (fields? fuel rest).map fun p => ((key, v) :: p.1, p.2)
            | '\x7d' :: rest => some ([(key, v)], rest)
            | _ => none
        | _ => none
    | _ => none

end

/-- The document that a text writes. Every step of the reader takes a character, so a bound of
twice the length of the text is never reached. -/
def parse? (text : String) : Option Json :=
  match value? (2 * text.toList.length + 1) text.toList with
  | some (v, rest) => if (skipSpace rest).isEmpty then some v else none
  | none => none

end SketchPreview.Json
