import SketchPreview.Call.Arguments
import SketchPreview.Call.Scan
import SketchPreview.Expr.Eval
import SketchPreview.Moment
import SketchPreview.Operation
import SketchPreview.Saturating

/-!
# From calls to operations

The arguments of a call are evaluated with the symbols of the sketch. A number is cut toward zero
and held to 32 bits. A text is a literal, the time or date of the preview, or the value of an
expression; an expression that makes no sense is drawn as it stands and reported.

* `Scope`: what arguments may refer to;
* `Scope.number`, `Scope.text`: the value of an argument;
* `Scope.operation`: the operation of a call;
* `Scope.extract`: the operations of all lines, with what went wrong.
-/

namespace SketchPreview.Call

open SketchPreview.Expr Text

/-- What the arguments of a call may refer to. -/
structure Scope where
  symbols : SymbolTable
  size : Dimensions
  now : Moment

/-- The words that name the argument at `index` of a call in a message. -/
def argumentLabel (v : Verb) (index : Nat) : String :=
  v.name ++ " ARGUMENT " ++ toString (index + 1)

/-- The report of an argument that is not there. -/
def missingArgument (v : Verb) (index : Nat) : Diagnostic :=
  .ofDetail .missingArgument (argumentLabel v index)

/-- The report of an argument that is no number; `reason` is the argument or what is wrong with
it. -/
def unevaluableArgument (v : Verb) (index : Nat) (reason : String) : Diagnostic :=
  .ofDetail .unevaluableArgument (argumentLabel v index ++ ": " ++ reason)

/-- The text inside the quotes of a literal. -/
def literal? : List Char → Option (List Char)
  | [] => none
  | c :: rest =>
    if (c = '"' ∨ c = '\'') ∧ rest.getLast? = some c then some rest.dropLast else none

/-- The 32-bit number that a value is cut to. -/
def toCoordinate (value : Float) : Int32 :=
  Int32.ofInt ((Binary64.ofFloat value).toInt Binary64.truncate min32 max32)

namespace Scope

variable (scope : Scope)

/-- The number that the argument at `index` of a call stands for. -/
def number (v : Verb) (args : List (List Char)) (index : Nat) : Except Diagnostic Int32 :=
  match args[index]? with
  | none => .error (missingArgument v index)
  | some expr =>
    match evaluate expr scope.symbols scope.size with
    | .ok value =>
      if value.isNaN then .error (unevaluableArgument v index (String.ofList expr))
      else .ok (toCoordinate value)
    | .error malformed => .error (unevaluableArgument v index malformed.detail)

/-- The text that a trimmed expression, neither empty nor a literal, stands for. -/
def evaluatedText (expr : List Char) : String × Option Diagnostic :=
  match evaluate expr scope.symbols scope.size with
  | .ok value =>
    (if value.isNaN then String.ofList expr else Decimal.display value, none)
  | .error malformed => (String.ofList expr, some malformed.diagnostic)

/-- The text that an argument stands for. -/
def text (arg : List Char) : String × Option Diagnostic :=
  let expr := trim arg
  match literal? expr with
  | some inner => (String.ofList inner, none)
  | none =>
    if expr.isEmpty then ("", none)
    else if expr = "PvTime".toList then (scope.now.timeText, none)
    else if expr = "PvDate".toList then (scope.now.dateText, none)
    else scope.evaluatedText expr

/-- The operation that draws a text. -/
def withText (arg : List Char) (draw : String → Operation) : Operation × Option Diagnostic :=
  let t := scope.text arg
  (draw t.1, t.2)

/-- Arguments put together again with commas. -/
def joined (args : List (List Char)) : List Char := [','].intercalate args

/-- The operation of a call, with a report if its text makes no sense, or else the reason why there
is none. So a call has one report at most, and one that has no operation has exactly one. -/
def operation (v : Verb) (args : List (List Char)) :
    Except Diagnostic (Operation × Option Diagnostic) := do
  let number := scope.number v args
  let plain (op : Operation) : Operation × Option Diagnostic := (op, none)
  match v with
  | .setDrawColor => return plain (.setDrawColor (← number 0))
  | .drawPixel => return plain (.drawPixel (← number 0) (← number 1))
  | .drawLine =>
    return plain (.drawLine (← number 0) (← number 1) (← number 2) (← number 3))
  | .drawBox => return plain (.drawBox (← number 0) (← number 1) (← number 2) (← number 3))
  | .drawFrame =>
    return plain (.drawFrame (← number 0) (← number 1) (← number 2) (← number 3))
  | .drawCircle => return plain (.drawCircle (← number 0) (← number 1) (← number 2))
  | .drawDisc => return plain (.drawDisc (← number 0) (← number 1) (← number 2))
  | .drawStr =>
    let x ← number 0
    let y ← number 1
    return scope.withText (joined (args.drop 2)) (.drawStr x y)
  | .setFont =>
    match args with
    | [] => throw (missingArgument v 0)
    | name :: _ => return scope.withText name .setFont
  | .setCursor => return plain (.setCursor (← number 0) (← number 1))
  | .print => return scope.withText (joined args) .print
  | .println => return scope.withText (joined args) .println
  | .drawFastVLine => return plain (.gfxVLine (← number 0) (← number 1) (← number 2))
  | .drawFastHLine => return plain (.gfxHLine (← number 0) (← number 1) (← number 2))
  | .drawRect => return plain (.gfxRect (← number 0) (← number 1) (← number 2) (← number 3))
  | .fillRect =>
    return plain (.gfxFillRect (← number 0) (← number 1) (← number 2) (← number 3))

/-- The operation of a call on line `n`, if there is one, and the report, if there is one. -/
def outcome (n : Nat) (site : Site) : Option Operation × Option Diagnostic :=
  match scope.operation site.verb (splitArguments site.arguments) with
  | .ok (op, report) => (some op, report.map (·.atLine n))
  | .error report => (none, some (report.atLine n))

/-- The outcomes of the calls on lines that are numbered from `n`. -/
def outcomesFrom (n : Nat) : List (List Char) → List (Option Operation × Option Diagnostic)
  | [] => []
  | line :: rest => (scanCalls line).map (scope.outcome n) ++ outcomesFrom (n + 1) rest

/-- The operations of all lines in the order of the calls, and the reports in the same order. -/
def extract (lines : List (List Char)) : List Operation × List Diagnostic :=
  let outcomes := scope.outcomesFrom 1 lines
  (outcomes.filterMap (·.1), outcomes.filterMap (·.2))

end Scope

end SketchPreview.Call
