import SketchPreview.Font.Builtin
import SketchPreview.Text.Slice
import SketchPreview.Text.Word

/-!
# Sizes in font names

Many font names tell the size of the font. Two numbers with an `x` between them are a width and a
height, and the greater one is the size; otherwise the greatest number of the name is. A run of
digits that is too great a number is passed over.

Places in names are counted in bytes, and names may hold any characters. `none` instead of an answer
tells that a name was cut inside a character.

* `Run`, `digitRuns?`: the numbers in a name, with the places where they begin and end;
* `firstPair?`, `guess?`: the size that a name tells, with the cuts that are made on the way;
* `sizeHint?`: the size alone;
* `nominalSize`: that size, or the standard one.
-/

namespace SketchPreview.Font

open Text

/-- A number in a name, its first byte and the byte behind it. -/
structure Run where
  start : Nat
  stop : Nat
  number : Nat
  deriving DecidableEq, Repr

/-- The number that a run of digits writes, if it has 32 bits and a sign at most. -/
def number? (run : List Char) : Option Nat :=
  let n := readNat run
  if Fits32 n then some n else none

/-- The numbers in what is left of a name; `start` is where the run of digits in front began, if
there is one. A run ends at the next character of another kind. -/
def scanRuns? (name : List Char) : Option Nat → List (Nat × Char) → Option (List Run)
  | _, [] => some []
  | start, (i, c) :: rest =>
    match c.isDigit, start with
    | true, none => scanRuns? name (some i) rest
    | false, some start => do
      let text ← slice? name start i
      let runs ← scanRuns? name none rest
      match number? text with
      | some n => some (⟨start, i, n⟩ :: runs)
      | none => some runs
    | _, start => scanRuns? name start rest

/-- The numbers in a name, from the left. A blank behind the name ends its last run. -/
def digitRuns? (name : List Char) : Option (List Run) :=
  scanRuns? name none (charIndices 0 name ++ [(byteLength name, ' ')])

/-- The greater number of the first two neighbours with nothing but an `x` between them. -/
def firstPair? (name : List Char) : List Run → Option (Option Nat)
  | a :: b :: rest =>
    if b.start = a.stop + 1 then do
      let between ← slice? name a.stop b.start
      if between.map Char.toLower = ['x'] then some (some (max a.number b.number))
      else firstPair? name (b :: rest)
    else firstPair? name (b :: rest)
  | _ => some none

/-- The size that a font name tells. -/
def guess? (name : List Char) : Option (Option Nat) := do
  let runs ← digitRuns? name
  let pair ← firstPair? name runs
  some (pair.or (runs.map Run.number).max?)

/-- The size that a font name tells. -/
def sizeHint? (name : String) : Option Nat := (guess? name.toList).join

/-- The size that a font name tells, or the standard one. -/
def nominalSize (name : String) : Nat := (sizeHint? name).getD Builtin.standardSize

end SketchPreview.Font
