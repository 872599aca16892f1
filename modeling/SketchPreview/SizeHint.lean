import SketchPreview.Dimensions
import SketchPreview.Text.Blank
import SketchPreview.Text.Find
import SketchPreview.Text.Line
import SketchPreview.Text.Word

/-!
# Size hints

A comment of a sketch may tell the size of the display, as in `// size: 128x64`. The comments that
reach to the end of their line are looked at first, and then those between two marks.

* `lineComments`, `blockComments`: the comments of a sketch;
* `readSize?`, `sizeIn?`: a size, and the first one in a comment;
* `sizeHint?`: the size that a sketch tells.
-/

namespace SketchPreview

open Text

/-- What begins a comment that reaches to the end of its line. -/
def lineMark : List Char := ['/', '/']

/-- What begins a comment that may go over several lines. -/
def openMark : List Char := ['/', '*']

/-- What ends such a comment. -/
def closeMark : List Char := ['*', '/']

/-- The comments that reach to the end of their line. -/
def lineComments (source : List Char) : List (List Char) :=
  (pieces '\n' source).filterMap fun line => (cutAt? lineMark line).map (·.2)

theorem length_after_cutAt? {word s pre rest : List Char}
    (h : cutAt? word s = some (pre, rest)) : rest.length + word.length ≤ s.length := by
  rw [cutAt?_append h]
  simp only [List.length_append]
  omega

/-- The comments between two marks. -/
def blockComments (source : List Char) : List (List Char) :=
  match _h : cutAt? openMark source with
  | none => []
  | some (_, inner) =>
    match _h' : cutAt? closeMark inner with
    | none => []
    | some (comment, rest) => comment :: blockComments rest
termination_by source.length
decreasing_by
  have h1 := length_after_cutAt? _h
  have h2 := length_after_cutAt? _h'
  have h3 : openMark.length = 2 := rfl
  omega

/-- The number at the front of a text, which must have 32 bits at most, and the rest. -/
def leadingNumber? (s : List Char) : Option (UInt32 × List Char) :=
  match readNat? (s.takeWhile Char.isDigit) with
  | some n => if n < UInt32.size then some (UInt32.ofNat n, s.dropWhile Char.isDigit) else none
  | none => none

/-- A text without a sign of equality or a colon at its front. -/
def dropEquals : List Char → List Char
  | c :: rest => if c = ':' ∨ c = '=' then rest else c :: rest
  | [] => []

/-- What follows the sign between the two sides of a size. -/
def afterTimes? : List Char → Option (List Char)
  | c :: rest => if c = 'x' ∨ c = 'X' ∨ c = '×' then some rest else none
  | [] => none

/-- The size at the front of a text. Neither side may be zero, and no word may go on behind it. -/
def readSize? (s : List Char) : Option Dimensions := do
  let (width, s) ← leadingNumber? (trimStart (dropEquals (trimStart s)))
  let s ← afterTimes? (trimStart s)
  let (height, rest) ← leadingNumber? (trimStart s)
  if (rest.head?).any isWordChar ∨ width = 0 ∨ height = 0 then none else some ⟨width, height⟩

/-- The first size that follows the word `size` in a text; `inWord` tells whether a word goes on
from the text in front. -/
def sizeIn? (inWord : Bool) : List Char → Option Dimensions
  | [] => none
  | c :: rest =>
    let here := if inWord then none else (dropPrefix? "size".toList (c :: rest)).bind readSize?
    here.or (sizeIn? (isWordChar c) rest)

/-- The size that a sketch tells in a comment. -/
def sizeHint? (source : String) : Option Dimensions :=
  let source := source.toList
  (lineComments source ++ blockComments source).findSome? (sizeIn? false)

end SketchPreview
