import SketchPreview.Text.Blank
import SketchPreview.Text.Find
import SketchPreview.Text.Word

/-!
# Font names in a sketch

The fonts of the display library have names with a common beginning. A sketch selects one with a
call of `setFont` whose only argument is such a name.

* `namePrefix`;
* `argument?`: the font name in parentheses at the front of a text;
* `namesIn`: the font names that a sketch selects.
-/

namespace SketchPreview.Font

open Text

/-- How the names of fonts begin. -/
def namePrefix : List Char := "u8g2_font_".toList

/-- The font name that stands alone in parentheses at the front of a text. -/
def argument? (s : List Char) : Option (List Char) :=
  match trimStart s with
  | '(' :: inner =>
    let inner := trimStart inner
    let name := inner.takeWhile isWordChar
    if startsWith inner namePrefix ∧ namePrefix.length < name.length ∧
        (trimStart (inner.dropWhile isWordChar)).head? = some ')' then
      some name
    else none
  | _ => none

/-- The font names that calls select, from left to right. -/
def selections : List Char → List (List Char)
  | [] => []
  | c :: rest =>
    match (dropPrefix? "setFont".toList (c :: rest)).bind argument? with
    | some name => name :: selections rest
    | none => selections rest

/-- The font names that a sketch selects, each one once, in order of their first call. -/
def namesIn (source : String) : List String :=
  (selections source.toList).eraseDups.map String.ofList

end SketchPreview.Font
