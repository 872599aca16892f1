import SketchPreview.Expr.Eval
import SketchPreview.Symbols.Definition

/-!
# Filling a symbol table

Two passes go over the lines of a sketch. The first one binds the macros; the second one binds the
constants, which may use every macro and the constants above them.

* `Definitions`: a table under construction, with the number of names bound and the problems met;
* `defineMacros`, `defineConstants`.
-/

namespace SketchPreview.Symbols

open SketchPreview.Expr Text

/-- A pass over lines: the table so far, how many lines bound a name, and what went wrong. -/
structure Definitions where
  table : SymbolTable
  count : Nat
  diagnostics : List Diagnostic

/-- A constant whose value is unknown. -/
def undefinedValue (d : Definition) : Diagnostic :=
  .ofDetail .undefinedValue (String.ofList d.name ++ " = " ++ String.ofList (trim d.expression))

/-- Takes in the definition of line `n`. A name without a known value is bound all the same, and
reported when `reportUnknown` is set. -/
def Definitions.bind (ds : Definitions) (reportUnknown : Bool) (size : Dimensions) (n : Nat)
    (d : Definition) : Definitions :=
  match evaluate d.expression ds.table size with
  | .ok value =>
    { table := ds.table.insert (String.ofList d.name) value
      count := ds.count + 1
      diagnostics :=
        if reportUnknown && value.isNaN then ds.diagnostics ++ [(undefinedValue d).atLine n]
        else ds.diagnostics }
  | .error malformed => { ds with diagnostics := ds.diagnostics ++ [malformed.diagnostic.atLine n] }

/-- One pass over lines, numbered from `n`, with the definitions that `match?` finds. -/
def Definitions.pass (match? : List Char → Option Definition) (reportUnknown : Bool)
    (size : Dimensions) (n : Nat) (ds : Definitions) : List (List Char) → Definitions
  | [] => ds
  | line :: rest =>
    let ds := match match? line with
      | some d => ds.bind reportUnknown size n d
      | none => ds
    ds.pass match? reportUnknown size (n + 1) rest

/-- Binds the macros of the lines in a table. -/
def defineMacros (table : SymbolTable) (size : Dimensions) (lines : List (List Char)) :
    Definitions :=
  Definitions.pass macro? false size 1 ⟨table, 0, []⟩ lines

/-- Binds the constants of the lines in a table. -/
def defineConstants (table : SymbolTable) (size : Dimensions) (lines : List (List Char)) :
    Definitions :=
  Definitions.pass constant? true size 1 ⟨table, 0, []⟩ lines

end SketchPreview.Symbols
