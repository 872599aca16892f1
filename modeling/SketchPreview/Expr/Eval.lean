import SketchPreview.Diagnostic
import SketchPreview.Expr.Accessor
import SketchPreview.Expr.Lexer
import SketchPreview.Expr.Postfix
import SketchPreview.Symbols.Table

/-!
# The value of an expression

A name without a binding is no fault: its value is not a number, and so is every result that
depends on it. Only a token list that makes no sense as arithmetic has no value.

* `evalPostfix`: the value of tokens in postfix order;
* `Malformed`: an expression without a value, with its `detail` and `diagnostic`;
* `evaluate`: the value of a text.
-/

namespace SketchPreview.Expr

open Text

/-- The value that stands for an unknown one. -/
def notANumber : Float := 0.0 / 0.0

/-- Puts a value on the stack. -/
def pushValue (stack : Stack Float) (value : Float) : Except Fault (Stack Float) :=
  match stack.push? value with
  | .ok stack => .ok stack
  | .error fault => .error (.ofStack fault)

/-- One more token in postfix order. -/
def evalStep (symbols : SymbolTable) (stack : Stack Float) (t : Token) :
    Except Fault (Stack Float) :=
  match t with
  | .number value => pushValue stack value
  | .name name => pushValue stack ((symbols.get? name).getD notANumber)
  | .operator op =>
    match stack.pop₂ with
    | (.ok (lhs, rhs), rest) => pushValue rest (op.apply lhs rhs)
    | (.error fault, _) => .error (.ofStack fault)
  | _ => .error .strayToken

/-- The only value of a stack. -/
def onlyValue (stack : Stack Float) : Except Fault Float :=
  match stack.pop? with
  | .ok (value, rest) => if rest.isEmpty then .ok value else .error .extraOperand
  | .error fault => .error (.ofStack fault)

/-- The value of tokens in postfix order. -/
def evalPostfix (symbols : SymbolTable) (tokens : List Token) : Except Fault Float :=
  tokens.foldlM (evalStep symbols) .empty >>= onlyValue

/-- The value of an infix token list. -/
def evalTokens (symbols : SymbolTable) (tokens : List Token) : Except Fault Float :=
  if tokens.isEmpty then .error .empty else toPostfix tokens >>= evalPostfix symbols

/-- An expression that has no value, and why. -/
structure Malformed where
  expression : List Char
  fault : Fault
  deriving DecidableEq, Repr

/-- The expression without blanks around it, and the fault. -/
def Malformed.detail (m : Malformed) : String :=
  String.ofList (trim m.expression) ++ " -> " ++ m.fault.message

/-- The report of a malformed expression. -/
def Malformed.diagnostic (m : Malformed) : Diagnostic := .ofDetail .malformedExpression m.detail

/-- The value of an expression. -/
def evaluate (expr : List Char) (symbols : SymbolTable) (size : Dimensions) :
    Except Malformed Float :=
  match evalTokens symbols (collapseAccessors size (lex expr)) with
  | .ok value => .ok value
  | .error fault => .error ⟨expr, fault⟩

end SketchPreview.Expr
