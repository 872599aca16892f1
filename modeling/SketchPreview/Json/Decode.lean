import SketchPreview.Json.Value
import SketchPreview.Saturating

/-!
# Reading typed values

A typed value takes from an object the fields it knows and ignores the others, whatever they hold.
A known field may stand only once. Some values are read in full before their fields are looked at.

* `isReadable`: whether a value can be read in full;
* `toBool?`, `toNatUpTo?`, `toUInt32?`, `toInt32?`, `toString?`, `toList?`: values of one kind; a
  number must be written as an integer and lie in the range;
* `Fields.find?`, `Fields.required`, `Fields.withDefault`, `Fields.optional`: fields of an object.
-/

namespace SketchPreview.Json

/-- Whether the value of an integer is finite. Only one beyond 64 bits may not be. -/
def isIntInRange (n : Int) : Bool := n.natAbs < UInt64.size || (Numeral.ofInt n).inRange

mutual

/-- Whether a value can be read in full: its strings stand for texts, its numbers are in range, and
it is nested no deeper than so many levels. -/
def isReadable (levels : Nat) : Json → Bool
  | null => true
  | bool _ => true
  | int n => isIntInRange n
  | decimal n => n.inRange
  | quoted s => s.text?.isSome
  | arr items => 0 < levels && areItemsReadable (levels - 1) items
  | object fields => 0 < levels && areFieldsReadable (levels - 1) fields

/-- Whether all items can be read in full. -/
def areItemsReadable (levels : Nat) : List Json → Bool
  | [] => true
  | v :: rest => v.isReadable levels && areItemsReadable levels rest

/-- Whether all fields can be read in full. -/
def areFieldsReadable (levels : Nat) : List (Quoted × Json) → Bool
  | [] => true
  | (key, v) :: rest =>
    key.text?.isSome && v.isReadable levels && areFieldsReadable levels rest

end

/-- The levels of a document, itself included, that are read in full. -/
def maxLevels : Nat := 127

/-- A truth value. -/
def toBool? : Json → Option Bool
  | bool b => some b
  | _ => none

/-- A string. -/
def toString? : Json → Option String
  | quoted s => s.text?
  | _ => none

/-- An integer from `low` to `high`. -/
def toIntWithin? (low high : Int) : Json → Option Int
  | int n => if low ≤ n ∧ n ≤ high then some n else none
  | _ => none

/-- A natural number up to `high`. -/
def toNatUpTo? (high : Nat) (v : Json) : Option Nat :=
  (v.toIntWithin? 0 high).map Int.toNat

/-- An unsigned 32-bit number. -/
def toUInt32? (v : Json) : Option UInt32 := (v.toNatUpTo? (UInt32.size - 1)).map UInt32.ofNat

/-- An unsigned 64-bit number. -/
def toUInt64? (v : Json) : Option UInt64 := (v.toNatUpTo? (UInt64.size - 1)).map UInt64.ofNat

/-- A signed 32-bit number. -/
def toInt32? (v : Json) : Option Int32 := (v.toIntWithin? min32 max32).map Int32.ofInt

/-- An array of values of one kind. -/
def toList? {α : Type} (f : Json → Option α) : Json → Option (List α)
  | arr items => items.mapM f
  | _ => none

/-- A value, or nothing for `null`. -/
def toOption? {α : Type} (f : Json → Option α) : Json → Option (Option α)
  | null => some none
  | v => (f v).map some

/-- The entries of an object, their keys as they are written. -/
def toEntries? : Json → Option (List (Quoted × Json))
  | object entries => some entries
  | _ => none

/-- Fields in the order in which they were written. -/
abbrev Fields := List (String × Json)

/-- The name and value of a field. -/
def namedField? (entry : Quoted × Json) : Option (String × Json) :=
  entry.1.text?.map fun name => (name, entry.2)

/-- The fields of an object. -/
def toFields? (v : Json) : Option Fields := v.toEntries? >>= List.mapM namedField?

/-- What stands in a field, if it stands there at most once. -/
def Fields.find? (fields : Fields) (key : String) : Option (Option Json) :=
  match fields.filter (·.1 == key) with
  | [] => some none
  | [f] => some (some f.2)
  | _ => none

/-- The value of a field that must be there. -/
def Fields.required {α : Type} (fields : Fields) (key : String) (f : Json → Option α) :
    Option α :=
  match fields.find? key with
  | some (some v) => f v
  | _ => none

/-- The value of a field, or `default` when it is not there. -/
def Fields.withDefault {α : Type} (fields : Fields) (key : String) (default : α)
    (f : Json → Option α) : Option α :=
  match fields.find? key with
  | some (some v) => f v
  | some none => some default
  | none => none

/-- The value of a field that may be missing or `null`. -/
def Fields.optional {α : Type} (fields : Fields) (key : String) (f : Json → Option α) :
    Option (Option α) :=
  fields.withDefault key none (toOption? f)

end SketchPreview.Json
