import SketchPreview.Expr.Stack
import SketchPreview.Expr.Token

/-!
# Operators after their operands

An infix token list is brought into the order in which it is computed, operands first. Operators
and opening parentheses wait on a stack: an operator lets out those that bind at least as tightly,
a closing parenthesis all back to its opening one.

* `Fault`: why a token list has no value;
* `Yard`, `Yard.step`, `Yard.finish`: the tokens put out and those that wait;
* `toPostfix`.
-/

namespace SketchPreview.Expr

/-- Why a token list has no value. -/
inductive Fault where
  | tooComplex
  | unmatchedRight
  | unmatchedLeft
  | unexpected (text : String)
  | empty
  | missingOperand
  | extraOperand
  | strayToken
  deriving DecidableEq, Repr

/-- The text of a fault. -/
def Fault.message : Fault → String
  | tooComplex => "EXPRESSION TOO COMPLEX"
  | unmatchedRight => "UNMATCHED RIGHT PARENTHESIS"
  | unmatchedLeft => "UNMATCHED LEFT PARENTHESIS"
  | unexpected text => "UNEXPECTED " ++ text
  | empty => "EMPTY EXPRESSION"
  | missingOperand => "MISSING OPERAND"
  | extraOperand => "EXTRA OPERAND"
  | strayToken => "UNEXPECTED TOKEN IN RPN"

/-- The fault of an expression that a stack fault means. -/
def Fault.ofStack : Stack.Fault → Fault
  | .overflow => tooComplex
  | .underflow => missingOperand

/-- The tokens put out so far, the last one first, and those that wait. -/
structure Yard where
  output : List Token
  waiting : Stack Token

namespace Yard

/-- Nothing put out, nothing waiting. -/
def start : Yard := ⟨[], .empty⟩

/-- Whether a waiting token goes out before the operator `op` may wait. -/
def yieldsTo (op : Operator) : Token → Bool
  | .operator top => op.precedence ≤ top.precedence
  | _ => false

/-- Puts out a token. -/
def put (y : Yard) (t : Token) : Yard := { y with output := t :: y.output }

/-- Lets a token wait. -/
def wait (y : Yard) (t : Token) : Except Fault Yard :=
  match y.waiting.push? t with
  | .ok waiting => .ok { y with waiting }
  | .error fault => .error (.ofStack fault)

/-- Puts out waiting tokens, from the top, as long as they satisfy `p`. -/
def release (y : Yard) (p : Token → Bool) : Yard :=
  let moved := y.waiting.popWhile p
  ⟨moved.1.reverseAux y.output, moved.2⟩

/-- One more token of the infix list. -/
def step (y : Yard) (t : Token) : Except Fault Yard :=
  match t with
  | .number _ | .name _ => .ok (y.put t)
  | .operator op => (y.release (yieldsTo op)).wait t
  | .leftParen => y.wait t
  | .rightParen =>
    let y := y.release (· ≠ .leftParen)
    match y.waiting.pop? with
    | .ok (_, waiting) => .ok { y with waiting }
    | .error _ => .error .unmatchedRight
  | .unknown _ | .dot => .error (.unexpected t.text)

/-- The whole output, once no opening parenthesis waits any more. -/
def finish (y : Yard) : Except Fault (List Token) :=
  if y.waiting.items.contains .leftParen then .error .unmatchedLeft
  else .ok (y.output.reverse ++ y.waiting.items)

end Yard

/-- The tokens with each operator after its operands. -/
def toPostfix (tokens : List Token) : Except Fault (List Token) :=
  tokens.foldlM Yard.step .start >>= Yard.finish

end SketchPreview.Expr
