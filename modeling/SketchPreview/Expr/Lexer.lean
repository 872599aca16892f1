import SketchPreview.Expr.Token
import SketchPreview.Text.Blank

/-!
# From text to tokens

An expression is cut into *lexemes*, each as long as it can be: a run of digits and points that
begins with a digit, a name, or else a single character. Blanks separate lexemes and belong to none.

* `lexeme`: the lexeme at the front of a text that begins with no blank, and the rest;
* `lexemes`: all lexemes of a text, in order;
* `Token.ofLexeme`, `lex`: the tokens they stand for.
-/

namespace SketchPreview.Expr

open Text

/-- A character that a number may go on with. -/
def isNumberChar (c : Char) : Bool := c.isDigit || c == '.'

/-- The lexeme that begins with `c`, and what follows it. -/
def lexeme (c : Char) (rest : List Char) : List Char × List Char :=
  if c.isDigit then (c :: rest.takeWhile isNumberChar, rest.dropWhile isNumberChar)
  else if isWordStart c then (c :: rest.takeWhile isWordChar, rest.dropWhile isWordChar)
  else ([c], rest)

theorem lexeme_append (c : Char) (rest : List Char) :
    (lexeme c rest).1 ++ (lexeme c rest).2 = c :: rest := by
  unfold lexeme
  split
  · simp
  · split <;> simp

theorem length_lexeme_snd_le (c : Char) (rest : List Char) :
    (lexeme c rest).2.length ≤ rest.length := by
  unfold lexeme
  split
  · exact (List.dropWhile_sublist _).length_le
  · split
    · exact (List.dropWhile_sublist _).length_le
    · exact Nat.le_refl _

/-- The lexemes of a text. -/
def lexemes : List Char → List (List Char)
  | [] => []
  | c :: rest =>
    if isBlank c then lexemes rest else (lexeme c rest).1 :: lexemes (lexeme c rest).2
  termination_by s => s.length
  decreasing_by
    · simp
    · exact Nat.lt_succ_of_le (length_lexeme_snd_le c rest)

/-- The token of a single character. -/
def Token.ofChar (c : Char) : Token :=
  match Operator.ofChar? c with
  | some op => .operator op
  | none =>
    if c = '(' then .leftParen else if c = ')' then .rightParen else if c = '.' then .dot
    else .unknown (String.singleton c)

/-- The token that a lexeme stands for. A run of digits and points with more than one point is no
number and stays unknown as a whole. -/
def Token.ofLexeme : List Char → Token
  | [] => .unknown ""
  | c :: rest =>
    if c.isDigit then
      match Decimal.ofLiteral? (c :: rest) with
      | some value => .number value
      | none => .unknown (String.ofList (c :: rest))
    else if isWordStart c then .name (String.ofList (c :: rest))
    else .ofChar c

/-- The tokens of a text. -/
def lex (s : List Char) : List Token := (lexemes s).map Token.ofLexeme

end SketchPreview.Expr
