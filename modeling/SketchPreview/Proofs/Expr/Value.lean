import SketchPreview.Proofs.Expr.Yard

/-!
# Sentences have the values of their trees

* `evalStep_operator`: an operator on a stack of values;
* `foldlM_evalStep_postfixed`: a postfix form puts the value of its tree on the stack;
* **`evaluate_of_derives`**: an expression that the grammar derives has the value of its tree.
-/

namespace SketchPreview.Expr

variable (symbols : SymbolTable)

/-! ## One token -/

theorem pushValue_of_lt {stack : Stack Float} (v : Float)
    (h : stack.items.length < Stack.limit) : pushValue stack v = .ok (stack.push v) := by
  rw [pushValue, Stack.push?_of_lt v h]

theorem Stack.pop₂_of_items {α : Type} {s : Stack α} {a b : α} {rest : List α}
    (h : s.items = b :: a :: rest) : ∃ t, s.pop₂ = (.ok (a, b), t) ∧ t.items = rest := by
  obtain ⟨u, hb, hu⟩ := pop?_of_items h
  obtain ⟨t, ha, ht⟩ := pop?_of_items hu
  refine ⟨t, ?_, ht⟩
  simp only [pop₂, hb, ha]

theorem evalStep_operator {stack : Stack Float} (op : Operator) {v w : Float} {rest : List Float}
    (h : stack.items = w :: v :: rest) (hl : rest.length < Stack.limit) :
    ∃ stack', evalStep symbols stack (.operator op) = .ok stack' ∧
      stack'.items = op.apply v w :: rest := by
  obtain ⟨t, hpop, ht⟩ := Stack.pop₂_of_items h
  refine ⟨t.push (op.apply v w), ?_, by rw [Stack.items_push, ht]⟩
  simp only [evalStep, hpop]
  exact pushValue_of_lt _ (by rw [ht]; exact hl)

/-! ## Postfix forms -/

/-- **A postfix form puts the value of its tree on the stack.** The bound leaves room for one value
per token, which is as deep as the stack can become. -/
theorem foldlM_evalStep_postfixed (e : Tree) (stack : Stack Float)
    (h : stack.items.length + e.postfixed.length ≤ Stack.limit) :
    ∃ stack', e.postfixed.foldlM (evalStep symbols) stack = .ok stack' ∧
      stack'.items = e.value symbols :: stack.items := by
  induction e generalizing stack with
  | number v =>
    refine ⟨stack.push v, ?_, rfl⟩
    simp only [Tree.postfixed, List.length_singleton] at h
    rw [Tree.postfixed, List.foldlM_cons, evalStep, pushValue_of_lt v (by omega)]
    rfl
  | name s =>
    refine ⟨stack.push _, ?_, rfl⟩
    simp only [Tree.postfixed, List.length_singleton] at h
    rw [Tree.postfixed, List.foldlM_cons, evalStep, pushValue_of_lt _ (by omega)]
    rfl
  | node op l r ihl ihr =>
    simp only [Tree.postfixed, List.length_append, List.length_singleton] at h
    have hr : 1 ≤ r.postfixed.length := by
      cases r <;> simp only [Tree.postfixed, List.length_append, List.length_singleton] <;> omega
    obtain ⟨s₁, hrun₁, hs₁⟩ := ihl stack (by omega)
    obtain ⟨s₂, hrun₂, hs₂⟩ := ihr s₁ (by rw [hs₁, List.length_cons]; omega)
    rw [hs₁] at hs₂
    obtain ⟨s₃, hstep, hs₃⟩ := evalStep_operator symbols op hs₂ (by omega)
    refine ⟨s₃, ?_, hs₃⟩
    rw [Tree.postfixed, List.foldlM_append, List.foldlM_append, hrun₁]
    change (r.postfixed.foldlM (evalStep symbols) s₁ >>= _) = _
    rw [hrun₂]
    change [Token.operator op].foldlM (evalStep symbols) s₂ = _
    rw [List.foldlM_cons, hstep]
    rfl

theorem evalPostfix_postfixed (e : Tree) (h : e.postfixed.length ≤ Stack.limit) :
    evalPostfix symbols e.postfixed = .ok (e.value symbols) := by
  obtain ⟨stack, hrun, hs⟩ := foldlM_evalStep_postfixed symbols e .empty
    (by simpa [Stack.empty] using h)
  obtain ⟨rest, hpop, hrest⟩ := Stack.pop?_of_items hs
  have hempty : rest.isEmpty = true := by
    rw [Stack.isEmpty, hrest]
    rfl
  rw [evalPostfix, hrun]
  change onlyValue stack = _
  simp only [onlyValue, hpop, hempty, if_true]

theorem evalTokens_of_derives {ts : List Token} {e : Tree} (h : Derives .sum ts e)
    (hlen : ts.length ≤ Stack.limit) : evalTokens symbols ts = .ok (e.value symbols) := by
  have hle := length_postfixed_le h
  have hne : ts.isEmpty = false := by
    cases ts with
    | nil => cases e <;> simp [Tree.postfixed] at hle
    | cons => rfl
  rw [evalTokens, hne, if_neg Bool.false_ne_true, toPostfix_of_derives h hlen]
  exact evalPostfix_postfixed symbols e (by omega)

/-! ## Expressions -/

/-- **An expression that the grammar derives has the value of its tree**, whatever the names mean,
as long as it has no more tokens than a stack may be deep. -/
theorem evaluate_of_derives {expr : List Char} {size : Dimensions} {e : Tree}
    (h : Derives .sum (collapseAccessors size (lex expr)) e)
    (hlen : (collapseAccessors size (lex expr)).length ≤ 65535) :
    evaluate expr symbols size = .ok (e.value symbols) := by
  simp only [evaluate, evalTokens_of_derives symbols h hlen]

/-- A chain of one rank groups to the left, and a product under a difference goes first. -/
theorem evaluate_chain :
    let expr := "8-(a+display.width())*3/b-1".toList
    let size : Dimensions := ⟨96, 16⟩
    let symbols := ((SymbolTable.ofSize size).insert "a" 2).insert "b" 7
    let e : Tree := .node .minus (.node .minus (.number 8) (.node .divide (.node .times
      (.node .plus (.name "a") (.number 96)) (.number 3)) (.name "b"))) (.number 1)
    Derives .sum (collapseAccessors size (lex expr)) e ∧
      (collapseAccessors size (lex expr)).length ≤ 65535 ∧
      evaluate expr symbols size = .ok (e.value symbols) ∧ e.value symbols = -35 := by
  intro expr size symbols e
  have htokens : collapseAccessors size (lex expr) =
      ([.number 8] ++ .operator .minus :: (([.leftParen] ++
        ([.name "a"] ++ .operator .plus :: [.number 96]) ++ [.rightParen]) ++
        .operator .times :: [.number 3] ++ .operator .divide :: [.name "b"])) ++
        .operator .minus :: [.number 1] := by decide +kernel
  have h : Derives .sum (collapseAccessors size (lex expr)) e := by
    rw [htokens]
    refine .sum (.sum (.ofTerm (.ofFactor (.number 8))) (.inr rfl) ?_) (.inr rfl)
      (.ofFactor (.number 1))
    refine .product (.product (.ofFactor (.paren ?_)) (.inl rfl) (.number 3)) (.inr rfl)
      (.name "b")
    exact .sum (.ofTerm (.ofFactor (.name "a"))) (.inl rfl) (.ofFactor (.number 96))
  have hlen : (collapseAccessors size (lex expr)).length ≤ 65535 := by
    rw [htokens]
    decide
  exact ⟨h, hlen, evaluate_of_derives symbols h hlen, by decide +kernel⟩

end SketchPreview.Expr
