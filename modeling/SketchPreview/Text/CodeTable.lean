import SketchPreview.Text.Line

/-!
# Tables of code points

Properties of characters are given by ascending ranges of code points, both ends included, and forms
of characters by rows of consecutive code points.

* `inRanges`: whether ranges hold a character;
* `FormRow`, `rowForm?`: the form that rows give to a character.
-/

namespace SketchPreview.Text

/-- Whether one of some ranges holds a character. -/
def inRanges (ranges : List (Nat × Nat)) (c : Char) : Bool :=
  ranges.any fun r => r.1 ≤ c.toNat && c.toNat ≤ r.2

/-- The forms of consecutive code points from `first` on, with a blank between two of them. -/
structure FormRow where
  first : Nat
  forms : String
  deriving DecidableEq, Repr

/-- The form of a character in the last row that begins at it or before it, if the row reaches it.
The rows ascend. -/
def rowForm? (rows : List FormRow) (c : Char) : Option (List Char) := do
  let row ← (rows.takeWhile (·.first ≤ c.toNat)).getLast?
  (pieces ' ' row.forms.toList)[c.toNat - row.first]?

end SketchPreview.Text
