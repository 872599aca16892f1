import SketchPreview.Decimal.Number

/-!
# Tokens and operators

* `Operator`: the four arithmetic operators, with `precedence` and `apply`;
* `Token`: what an expression is made of, with its `text`.
-/

namespace SketchPreview.Expr

/-- The arithmetic operators. -/
inductive Operator where
  | plus
  | minus
  | times
  | divide
  deriving DecidableEq, Repr

/-- The operator that a character writes. -/
def Operator.ofChar? : Char → Option Operator
  | '+' => some plus
  | '-' => some minus
  | '*' => some times
  | '/' => some divide
  | _ => none

/-- The character that writes an operator. -/
def Operator.toChar : Operator → Char
  | plus => '+'
  | minus => '-'
  | times => '*'
  | divide => '/'

/-- An operator with the greater precedence binds tighter. -/
def Operator.precedence : Operator → Nat
  | plus | minus => 10
  | times | divide => 20

/-- The quotient, which is not a number when the divisor is zero. -/
def quotient (lhs rhs : Float) : Float := if rhs == 0.0 then 0.0 / 0.0 else lhs / rhs

/-- The value of an operator on two operands. -/
def Operator.apply : Operator → Float → Float → Float
  | plus, lhs, rhs => lhs + rhs
  | minus, lhs, rhs => lhs - rhs
  | times, lhs, rhs => lhs * rhs
  | divide, lhs, rhs => quotient lhs rhs

/-- The tokens of an expression. Text that can stand for nothing is kept as `unknown`. -/
inductive Token where
  | unknown (text : String)
  | number (value : Float)
  | name (text : String)
  | operator (op : Operator)
  | leftParen
  | rightParen
  | dot
  deriving DecidableEq, Repr

/-- The text of a token in a message. -/
def Token.text : Token → String
  | unknown text => text
  | number value => Decimal.positional value
  | name text => text
  | operator op => String.singleton op.toChar
  | leftParen => "("
  | rightParen => ")"
  | dot => "."

theorem Operator.ofChar?_toChar (op : Operator) : ofChar? op.toChar = some op := by
  cases op <;> rfl

end SketchPreview.Expr
