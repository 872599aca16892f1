import SketchPreview.Text.Blank
import SketchPreview.Text.Find
import SketchPreview.Text.Word

/-!
# Definitions

Two kinds of line give a name to a number.

* `macro?`: a line `#define NAME EXPR`. The expression is a run of arithmetic characters and ends
  where a comment begins;
* `constant?`: a line with `NAME = EXPR;` somewhere. Words in front of the name, such as a type, are
  passed over, and a comparison is no definition.
-/

namespace SketchPreview.Symbols

open Text

/-- A name and the expression that it stands for. -/
structure Definition where
  name : List Char
  expression : List Char
  deriving DecidableEq, Repr

/-- A character that a macro's expression may contain. -/
def isMacroChar (c : Char) : Bool := isWordChar c || "-+*/()%. ".toList.contains c

/-- What follows at least one blank. -/
def afterBlanks? (s : List Char) : Option (List Char) :=
  match s with
  | [] => none
  | c :: rest => if isBlank c then some (trimStart rest) else none

/-- The text in front of the first line comment or, when there is none, of the first block
comment. -/
def withoutComment (s : List Char) : List Char :=
  ((before? "//".toList s).or (before? "/*".toList s)).getD s

/-- The macro that a line defines. -/
def macro? (line : List Char) : Option Definition := do
  let directive ← dropPrefix? ['#'] (trimStart line)
  let keyword ← dropPrefix? "define".toList (trimStart directive)
  let definition ← afterBlanks? keyword
  let (name, after) ← identifier? definition
  let body ← afterBlanks? after
  let expression := withoutComment (body.takeWhile isMacroChar)
  if (trim expression).isEmpty then none else some ⟨name, expression⟩

/-- The expression between an equals sign and the next semicolon, at the front of a text after
blanks. -/
def assigned? (s : List Char) : Option (List Char) := do
  let rest ← dropPrefix? ['='] (trimStart s)
  if startsWith rest ['='] then none
  else
    let expression ← before? [';'] rest
    if expression.isEmpty then none else some (trimStart expression)

/-- The constant defined by the word at the front of a text. -/
def constantHere? (s : List Char) : Option Definition := do
  let (name, after) ← identifier? s
  let expression ← assigned? after
  some ⟨name, expression⟩

/-- The first constant of a text, when the character in front of it is `previous`. -/
def constantFrom? (previous : Option Char) : List Char → Option Definition
  | [] => none
  | c :: rest =>
    let here := if previous.any isWordChar then none else constantHere? (c :: rest)
    here.or (constantFrom? (some c) rest)

/-- The constant that a line defines. -/
def constant? (line : List Char) : Option Definition := constantFrom? none line

end SketchPreview.Symbols
