/-!
# Diagnostics

A problem met while compiling a sketch or looking for fonts. A diagnostic does not stop the work: it
is collected and shown beside the result.

* `Code`: the kinds of problem, with their numbers and titles;
* `Diagnostic`, `Diagnostic.atLine`, `Diagnostic.message`.
-/

namespace SketchPreview

/-- The kinds of problem. -/
inductive Code where
  | malformedExpression
  | unevaluableArgument
  | missingArgument
  | fontFetch
  | undefinedValue
  | internalError
  | badConfig
  | fileNotFound
  deriving DecidableEq, Repr, Inhabited

/-- Every kind, in the order of the numbers. -/
def Code.all : List Code :=
  [.malformedExpression, .unevaluableArgument, .missingArgument, .fontFetch, .undefinedValue,
    .internalError, .badConfig, .fileNotFound]

/-- The number of a kind: small for a problem of the sketch, above fifty for one of the host. -/
def Code.number : Code → Nat
  | malformedExpression => 1
  | unevaluableArgument => 2
  | missingArgument => 3
  | fontFetch => 4
  | undefinedValue => 5
  | internalError => 51
  | badConfig => 52
  | fileNotFound => 53

/-- The words that a message opens with. -/
def Code.title : Code → String
  | malformedExpression => "MALFORMED EXPRESSION"
  | unevaluableArgument => "UNEVALUABLE ARGUMENT"
  | missingArgument => "MISSING ARGUMENT"
  | fontFetch => "FONT FETCH FAILED"
  | undefinedValue => "UNDEFINED VALUE"
  | internalError => "INTERNAL ERROR"
  | badConfig => "BAD CONFIG"
  | fileNotFound => "FILE NOT FOUND"

/-- A problem, the source line it refers to (counted from one), and its particulars. -/
structure Diagnostic where
  code : Code
  line : Option Nat
  detail : String
  deriving DecidableEq, Repr, Inhabited

/-- A diagnostic that refers to no line. -/
def Diagnostic.ofDetail (code : Code) (detail : String) : Diagnostic := ⟨code, none, detail⟩

/-- The same problem, referred to a line. -/
def Diagnostic.atLine (d : Diagnostic) (n : Nat) : Diagnostic := { d with line := some n }

/-- The text of a diagnostic: title, line if there is one, particulars if there are any. -/
def Diagnostic.message (d : Diagnostic) : String :=
  d.code.title ++ (d.line.elim "" fun n => " IN " ++ toString n) ++
    (if d.detail = "" then "" else "; " ++ d.detail)

/-- The text of a diagnostic for a developer. -/
def Diagnostic.debugText (d : Diagnostic) : String := "Error \x7b " ++ d.message ++ " \x7d"

theorem Code.number_injective {a b : Code} (h : a.number = b.number) : a = b := by
  cases a <;> cases b <;> simp_all [Code.number]

end SketchPreview
