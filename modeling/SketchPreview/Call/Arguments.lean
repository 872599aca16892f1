import SketchPreview.Call.Nesting
import SketchPreview.Text.Blank

/-!
# Argument lists

`splitArguments` cuts the text between the parentheses of a call at its outermost commas and drops
the blanks around each argument. A blank last argument is no argument.
-/

namespace SketchPreview.Call

open Text

/-- Drops the last element of a list if it is empty. -/
def dropBlankLast (args : List (List Char)) : List (List Char) :=
  if args.getLast? = some [] then args.dropLast else args

/-- The arguments of an argument list. -/
def splitArguments (s : List Char) : List (List Char) :=
  dropBlankLast ((topPieces .start s).map trim)

end SketchPreview.Call
