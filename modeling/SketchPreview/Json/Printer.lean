import SketchPreview.Json.Value

/-!
# Writing JSON

* `Json.compact`: a value without blanks;
* `Json.pretty`: a value with one item or field a line, two spaces deeper at each level.
-/

namespace SketchPreview.Json

/-- The text of a value that is neither an array nor an object. -/
def scalar : Json → List Char
  | null => "null".toList
  | bool b => if b then "true".toList else "false".toList
  | int n => Text.ofInt n
  | decimal n => n.chars
  | quoted s => s.withQuotes
  | arr _ => []
  | object _ => []

mutual

/-- A value without blanks. -/
def compact : Json → List Char
  | arr items => '[' :: compactItems items ++ [']']
  | object fields => '\x7b' :: compactFields fields ++ ['\x7d']
  | v => v.scalar

/-- Items between commas. -/
def compactItems : List Json → List Char
  | [] => []
  | [v] => v.compact
  | v :: rest => v.compact ++ ',' :: compactItems rest

/-- Fields between commas. -/
def compactFields : List (Quoted × Json) → List Char
  | [] => []
  | [(k, v)] => k.withQuotes ++ ':' :: v.compact
  | (k, v) :: rest => k.withQuotes ++ ':' :: v.compact ++ ',' :: compactFields rest

end

/-- A new line at a level of depth. -/
def newline (level : Nat) : List Char := '\n' :: List.replicate (2 * level) ' '

mutual

/-- A value laid out for reading, at a level of depth. -/
def prettyAt (level : Nat) : Json → List Char
  | arr [] => "[]".toList
  | arr (v :: rest) => '[' :: prettyItems (level + 1) (v :: rest) ++ newline level ++ [']']
  | object [] => ['\x7b', '\x7d']
  | object (f :: rest) =>
    '\x7b' :: prettyFields (level + 1) (f :: rest) ++ newline level ++ ['\x7d']
  | v => v.scalar

/-- Items on lines of their own. -/
def prettyItems (level : Nat) : List Json → List Char
  | [] => []
  | [v] => newline level ++ v.prettyAt level
  | v :: rest => newline level ++ v.prettyAt level ++ ',' :: prettyItems level rest

/-- Fields on lines of their own. -/
def prettyFields (level : Nat) : List (Quoted × Json) → List Char
  | [] => []
  | [(k, v)] => newline level ++ k.withQuotes ++ ':' :: ' ' :: v.prettyAt level
  | (k, v) :: rest =>
    newline level ++ k.withQuotes ++ ':' :: ' ' :: v.prettyAt level ++ ',' ::
      prettyFields level rest

end

/-- A value laid out for reading. -/
def pretty (v : Json) : String := String.ofList (v.prettyAt 0)

end SketchPreview.Json
