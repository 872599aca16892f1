import SketchPreview.Call.Extract
import SketchPreview.Symbols.Define
import SketchPreview.Text.Line

/-!
# Compiling a sketch

A sketch is read three times, line by line: for its macros, for its constants, and for its drawing
calls. So a macro may stand below the constants and calls that use it. Whatever is wrong is
reported, and the rest of the sketch is compiled all the same.

* `Compilation`: operations, statistics and diagnostics;
* `compile`.
-/

namespace SketchPreview

/-- What was counted while a sketch was compiled. -/
structure Statistics where
  lines : Nat
  macros : Nat
  constants : Nat
  deriving DecidableEq, Repr

/-- The result of compiling a sketch. -/
structure Compilation where
  operations : List Operation
  statistics : Statistics
  diagnostics : List Diagnostic
  deriving DecidableEq, Repr

/-- Compiles the lines of a sketch. -/
def compileLines (lines : List (List Char)) (size : Dimensions) (now : Moment) : Compilation :=
  let macros := Symbols.defineMacros (.ofSize size) size lines
  let constants := Symbols.defineConstants macros.table size lines
  let calls := Call.Scope.extract ⟨constants.table, size, now⟩ lines
  { operations := calls.1
    statistics := ⟨lines.length, macros.count, constants.count⟩
    diagnostics := macros.diagnostics ++ constants.diagnostics ++ calls.2 }

/-- Compiles a sketch for a canvas of the given size, as of the given moment. -/
def compile (source : String) (size : Dimensions) (now : Moment) : Compilation :=
  compileLines (Text.lines source.toList) size now

end SketchPreview
