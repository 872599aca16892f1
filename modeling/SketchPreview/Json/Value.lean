import SketchPreview.Json.Numeral
import SketchPreview.Json.Quoted

/-!
# JSON values

`Json` is a JSON document. An object keeps its fields in the order in which they were written, and
a field that was written twice stands there twice. A string is kept as it is written, and so is a
number that has a fraction, an exponent or a negative zero; any other number is an integer.

* `Json`: the values;
* `Json.str`, `Json.obj`: strings and objects of texts;
* `Json.ofNumeral`: numbers.
-/

namespace SketchPreview

/-- A JSON value. -/
inductive Json where
  | null
  | bool (b : Bool)
  | int (n : Int)
  | decimal (n : Json.Numeral)
  | quoted (s : Json.Quoted)
  | arr (items : List Json)
  | object (fields : List (Json.Quoted × Json))
  deriving Inhabited

namespace Json

/-- A natural number. -/
def nat (n : Nat) : Json := int n

/-- A text. -/
def str (s : String) : Json := quoted (.ofText s)

/-- An object, by the names of its fields. -/
def obj (fields : List (String × Json)) : Json :=
  object (fields.map fun f => (.ofText f.1, f.2))

/-- A number, as an integer if it is written as one. -/
def ofNumeral (n : Numeral) : Json :=
  match n.toInt? with
  | some i => int i
  | none => decimal n

/-- A value that may be absent. -/
def option {α : Type} (f : α → Json) (a : Option α) : Json := a.elim null f

/-- A list of values of one kind. -/
def list {α : Type} (f : α → Json) (as : List α) : Json := arr (as.map f)

end Json

end SketchPreview
