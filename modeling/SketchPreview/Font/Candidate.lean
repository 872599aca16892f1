import SketchPreview.Font.Name
import SketchPreview.Font.Size
import SketchPreview.Text.Line
import SketchPreview.Text.Lowercase

/-!
# Files that may hold a font

A font name is made of parts, of which the last ones often only tell which characters the font has.
So a font is looked for under its whole name and then under ever shorter ones, in several
spellings.

* `parts`: the parts of a font name;
* `hyphenated?`: another spelling of a name that ends in two numbers;
* `spellings`, `stems`: the names to try;
* `candidates`: the files to try, the most specific ones first and none of them twice.
-/

namespace SketchPreview.Font

open Text

/-- The name of the file for a font. -/
def fileName (name : List Char) : List Char := name ++ ".bdf".toList

/-- A name without the common beginning. -/
def bareName (token : List Char) : List Char := (dropPrefix? namePrefix token).getD token

/-- The parts of a font name between underscores. -/
def parts (token : List Char) : List (List Char) :=
  (pieces '_' (bareName token)).filter (· ≠ [])

/-- The name that parts make up. -/
def join (parts : List (List Char)) : List Char := ['_'].intercalate parts

/-- Whether a text is a run of digits. -/
def isNumber (s : List Char) : Bool := s ≠ [] && s.all Char.isDigit

/-- For letters followed by two numbers with an `x` between them: the same with a hyphen between
the letters and the numbers. -/
def hyphenated? (name : List Char) : Option (List Char) :=
  let letters := name.takeWhile (!Char.isDigit ·)
  let size := name.dropWhile (!Char.isDigit ·)
  let width := size.takeWhile (· ≠ 'x')
  match size.dropWhile (· ≠ 'x') with
  | _ :: height =>
    if letters ≠ [] ∧ letters.all Char.isAlpha ∧ isNumber width ∧ isNumber height then
      some (letters ++ '-' :: size)
    else none
  | [] => none

/-- The spellings of a name. -/
def spellings (name : List Char) : List (List Char) :=
  let plain := [name, lowercase name]
  match hyphenated? name with
  | some other => plain ++ [other, lowercase other]
  | none => plain

/-- A name without the digits at its end, if it has some and is not made of digits alone. -/
def withoutNumber? (name : List Char) : Option (List Char) :=
  let stem := (name.reverse.dropWhile Char.isDigit).reverse
  if stem.length < name.length ∧ stem ≠ [] then some stem else none

/-- The names to try: the first parts, from all to one, and then the whole without its number. -/
def stems (parts : List (List Char)) : List (List Char) :=
  ((List.range parts.length).reverse.map fun k => join (parts.take (k + 1))) ++
    (withoutNumber? (join parts)).toList

/-- The files of a font for Japanese, of which there are several. -/
def japaneseNames (name : List Char) : List (List Char) :=
  if (before? "japanese".toList (name.map Char.toLower)).isSome then
    let size := (sizeHint? (String.ofList name)).getD 16
    ["", "1", "2", "3"].map fun variant =>
      "unifont_japanese".toList ++ variant.toList ++ '-' :: (toString size).toList
  else []

/-- The files that may hold a font, the most specific ones first. -/
def candidates (token : String) : List String :=
  let parts := parts token.toList
  let names := (stems parts).flatMap spellings ++ japaneseNames (join parts)
  (names.map fun name => String.ofList (fileName name)).eraseDups

end SketchPreview.Font
