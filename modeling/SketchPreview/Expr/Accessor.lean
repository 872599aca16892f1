import SketchPreview.Dimensions
import SketchPreview.Expr.Token

/-!
# Accessors

A sketch may ask its display for the size: `display.width()` and `display.height()` stand for the
numbers. Five tokens make up an accessor.

* `accessor?`: the dimension that a window of five tokens asks for;
* `accessors`: the accessors of a token list with their positions, from left to right and apart;
* `collapseAccessors`: each accessor replaced by its number. The replacement works from the right,
  so that the positions further left stay valid.
-/

namespace SketchPreview.Expr

/-- The number of tokens of an accessor. -/
def accessorLength : Nat := 5

/-- The dimension that the first five tokens of a list ask for. -/
def accessor? (size : Dimensions) : List Token → Option UInt32
  | .name object :: .dot :: .name member :: .leftParen :: .rightParen :: _ =>
    if object = "display" then
      if member = "width" then some size.width
      else if member = "height" then some size.height
      else none
    else none
  | _ => none

/-- The accessors of a token list that begins at `position`, when `skip` tokens still belong to the
accessor before. -/
def accessorsFrom (size : Dimensions) (position skip : Nat) : List Token → List (Nat × UInt32)
  | [] => []
  | t :: rest =>
    match skip with
    | skip + 1 => accessorsFrom size (position + 1) skip rest
    | 0 =>
      match accessor? size (t :: rest) with
      | some side =>
        (position, side) :: accessorsFrom size (position + 1) (accessorLength - 1) rest
      | none => accessorsFrom size (position + 1) 0 rest

/-- The accessors of a token list. -/
def accessors (size : Dimensions) (tokens : List Token) : List (Nat × UInt32) :=
  accessorsFrom size 0 0 tokens

/-- Puts a number in the place of the accessor at `position`. -/
def replaceAccessor (tokens : List Token) (position : Nat) (side : UInt32) : List Token :=
  tokens.take position ++ .number side.toFloat :: tokens.drop (position + accessorLength)

/-- Every accessor replaced by its number. -/
def collapseAccessors (size : Dimensions) (tokens : List Token) : List Token :=
  (accessors size tokens).foldr (fun a ts => replaceAccessor ts a.1 a.2) tokens

end SketchPreview.Expr
