import SketchPreview.Expr.Eval

/-!
# The grammar of expressions

`E ::= T | E (+|-) T`, `T ::= F | T (*|/) F`, `F ::= number | name | ( E )`: multiplication binds
tighter than addition, and operators of one rank group to the left.

* `Tree`, `Tree.value`, `Tree.postfixed`: parse trees, their values and their postfix form;
* `Rank`, `Derives`: the three nonterminals, and what they derive with which tree;
* `IsSentence`: the token lists that the grammar derives;
* `length_postfixed_le`: a postfix form is no longer than the tokens it comes from;
* `IsSentence.snoc`: a sentence goes on with any operator and a factor.
-/

namespace SketchPreview.Expr

/-- A parse tree: numbers and names at the leaves, an operator at each node. -/
inductive Tree where
  | number (value : Float)
  | name (text : String)
  | node (op : Operator) (lhs rhs : Tree)

namespace Tree

/-- The value of a parse tree. A name without a binding is not a number. -/
def value (symbols : SymbolTable) : Tree → Float
  | number v => v
  | name s => (symbols.get? s).getD notANumber
  | node op l r => op.apply (l.value symbols) (r.value symbols)

/-- The tokens of a tree, each operator behind its operands. -/
def postfixed : Tree → List Token
  | number v => [.number v]
  | name s => [.name s]
  | node op l r => l.postfixed ++ r.postfixed ++ [.operator op]

end Tree

/-- The nonterminals of the grammar, the one that binds tightest first. -/
inductive Rank where
  | factor
  | term
  | sum
  deriving DecidableEq, Repr

/-- A token list is derived from a nonterminal, with a parse tree. -/
inductive Derives : Rank → List Token → Tree → Prop where
  | number (v : Float) : Derives .factor [.number v] (.number v)
  | name (s : String) : Derives .factor [.name s] (.name s)
  | paren {ts : List Token} {e : Tree} (inner : Derives .sum ts e) :
      Derives .factor (.leftParen :: (ts ++ [.rightParen])) e
  | ofFactor {ts : List Token} {e : Tree} (inner : Derives .factor ts e) : Derives .term ts e
  | product {ts us : List Token} {e f : Tree} {op : Operator} (lhs : Derives .term ts e)
      (tier : op = .times ∨ op = .divide) (rhs : Derives .factor us f) :
      Derives .term (ts ++ .operator op :: us) (.node op e f)
  | ofTerm {ts : List Token} {e : Tree} (inner : Derives .term ts e) : Derives .sum ts e
  | sum {ts us : List Token} {e f : Tree} {op : Operator} (lhs : Derives .sum ts e)
      (tier : op = .plus ∨ op = .minus) (rhs : Derives .term us f) :
      Derives .sum (ts ++ .operator op :: us) (.node op e f)

/-- A token list that the grammar derives. -/
def IsSentence (ts : List Token) : Prop := ∃ e, Derives .sum ts e

theorem length_postfixed_le {r : Rank} {ts : List Token} {e : Tree} (h : Derives r ts e) :
    e.postfixed.length ≤ ts.length := by
  induction h with
  | number v => exact Nat.le_refl _
  | name s => exact Nat.le_refl _
  | paren _ ih => simp only [List.length_cons, List.length_append, List.length_nil]; omega
  | ofFactor _ ih => exact ih
  | ofTerm _ ih => exact ih
  | product _ _ _ ih₁ ih₂ =>
    simp only [Tree.postfixed, List.length_append, List.length_cons, List.length_nil]; omega
  | sum _ _ _ ih₁ ih₂ =>
    simp only [Tree.postfixed, List.length_append, List.length_cons, List.length_nil]; omega

/-! ## Sentences grow to the right -/

theorem IsSentence.ofFactor {ts : List Token} {e : Tree} (h : Derives .factor ts e) :
    IsSentence ts := ⟨e, .ofTerm (.ofFactor h)⟩

theorem IsSentence.paren {ts : List Token} (h : IsSentence ts) :
    ∃ e, Derives .factor (.leftParen :: (ts ++ [.rightParen])) e := by
  obtain ⟨e, he⟩ := h
  exact ⟨e, .paren he⟩

/-- **A sentence goes on with any operator and a factor.** A product takes the factor into the last
term, since it binds tighter than what stands before that. -/
theorem IsSentence.snoc {ts us : List Token} {f : Tree} (h : IsSentence ts) (op : Operator)
    (hf : Derives .factor us f) : IsSentence (ts ++ .operator op :: us) := by
  obtain ⟨e, he⟩ := h
  by_cases hop : op = .plus ∨ op = .minus
  · exact ⟨_, .sum he hop (.ofFactor hf)⟩
  · have hop : op = .times ∨ op = .divide := by cases op <;> simp_all
    cases he with
    | ofTerm ht => exact ⟨_, .ofTerm (.product ht hop hf)⟩
    | @sum ts₁ ts₂ e₁ e₂ op₁ hs tier ht =>
      refine ⟨.node op₁ e₁ (.node op e₂ f), ?_⟩
      rw [List.append_assoc, List.cons_append]
      exact .sum hs tier (.product ht hop hf)

end SketchPreview.Expr
