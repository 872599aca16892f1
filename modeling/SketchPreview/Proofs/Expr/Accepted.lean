import SketchPreview.Proofs.Expr.Stray

/-!
# Which token lists become postfix lists

Within the limit of the stack, a token list becomes a postfix list exactly when nothing in it is
stray and its parentheses match. The result holds the tokens of the list without the parentheses,
its operands in their order. As no stray token is among them, the fault that is the program's own
never comes up.

* `foldlM_depth?_eq_some_iff`: matching parentheses told by counting in every prefix;
* `Yard.exists_step`, `Yard.exists_foldlM_step`: one token, and a run, that succeed;
* `Yard.operands`, `Yard.operands_step`, `Yard.operands_foldlM_step`: the operands put out so far;
* `Fault.code`: the kind of problem that a fault is;
* **`toPostfix_exactly`**.
-/

namespace SketchPreview.Expr

/-! ## Counting parentheses -/

theorem forall_prefix_cons {α : Type} {a : α} {l : List α} {P : List α → Prop} :
    (∀ p, p <+: a :: l → P p) ↔ P [] ∧ ∀ p, p <+: l → P (a :: p) := by
  constructor
  · intro h
    exact ⟨h [] List.nil_prefix, fun p hp => h (a :: p) (List.cons_prefix_cons.2 ⟨rfl, hp⟩)⟩
  · rintro ⟨hnil, hcons⟩ p hp
    rcases List.prefix_cons_iff.1 hp with rfl | ⟨q, rfl, hq⟩
    · exact hnil
    · exact hcons q hq

/-- **Parentheses by counting.** The depth stays defined as long as no prefix closes more than has
been opened, and it ends as the difference. The induction is on the tokens, and the depth to begin
with is generalised, since each parenthesis changes it. -/
theorem foldlM_depth?_eq_some_iff {ts : List Token} {d e : ℕ} :
    ts.foldlM depth? d = some e ↔
      (∀ p, p <+: ts → p.count .rightParen ≤ d + p.count .leftParen) ∧
        e + ts.count .rightParen = d + ts.count .leftParen := by
  induction ts generalizing d with
  | nil => simp [eq_comm]
  | cons t ts ih =>
    rw [List.foldlM_cons, forall_prefix_cons]
    cases t with
    | leftParen =>
      change ts.foldlM depth? (d + 1) = some e ↔ _
      simp only [ih, List.count_cons_self, List.count_cons_of_ne, ne_eq, reduceCtorEq,
        not_false_eq_true, List.count_nil, Nat.zero_le, true_and, Nat.add_right_comm d 1,
        Nat.add_assoc]
    | rightParen =>
      cases d with
      | zero =>
        refine iff_of_false (fun h => by cases h) ?_
        rintro ⟨⟨-, h⟩, -⟩
        exact absurd (h [] List.nil_prefix) (by decide)
      | succ d =>
        change ts.foldlM depth? d = some e ↔ _
        simp only [ih, List.count_cons_self, List.count_cons_of_ne, ne_eq, reduceCtorEq,
          not_false_eq_true, List.count_nil, Nat.zero_le, true_and, Nat.add_right_comm d 1,
          ← Nat.add_assoc, Nat.add_le_add_iff_right, Nat.add_right_cancel_iff]
    | _ =>
      rw [depth?_of_not_isParen rfl]
      change ts.foldlM depth? d = some e ↔ _
      simp only [ih, List.count_cons_of_ne, ne_eq, reduceCtorEq, not_false_eq_true,
        List.count_nil, Nat.zero_le, true_and]

/-- **Matching parentheses by counting.** -/
theorem balanced_iff {ts : List Token} :
    Balanced ts ↔ (∀ p, p <+: ts → p.count .rightParen ≤ p.count .leftParen) ∧
      ts.count .rightParen = ts.count .leftParen := by
  simp only [Balanced, foldlM_depth?_eq_some_iff, Nat.zero_add]

/-! ## Runs that succeed -/

namespace Yard

/-- **One token** that is not stray and closes only what is open is taken in, if there is room. It
adds at most one token to those that wait. -/
theorem exists_step {y : Yard} {t : Token} {d : ℕ} (hstray : t.isStray = false)
    (hdepth : depth? y.depth t = some d) (hroom : y.waiting.items.length < Stack.limit) :
    ∃ y', y.step t = .ok y' ∧ y'.waiting.items.length ≤ y.waiting.items.length + 1 := by
  cases t with
  | number v => exact ⟨y.put (.number v), rfl, Nat.le_succ _⟩
  | name s => exact ⟨y.put (.name s), rfl, Nat.le_succ _⟩
  | operator op =>
    have hle : (y.release (yieldsTo op)).waiting.items.length ≤ y.waiting.items.length :=
      (List.dropWhile_sublist _).length_le
    exact ⟨_, wait_of_lt (.operator op) (by omega), Nat.succ_le_succ hle⟩
  | leftParen => exact ⟨_, wait_of_lt .leftParen hroom, Nat.le_refl _⟩
  | rightParen =>
    have hopen : .leftParen ∈ y.waiting.items := by
      by_contra hclosed
      rw [depth, List.count_eq_zero_of_not_mem hclosed] at hdepth
      cases hdepth
    obtain ⟨pending, rest, hitems, hpending⟩ := List.eq_append_cons_of_mem hopen
    obtain ⟨y', hstep, -, hrest⟩ := step_rightParen hitems
      fun t ht heq => hpending (heq ▸ ht)
    refine ⟨y', hstep, ?_⟩
    rw [hrest, hitems, List.length_append, List.length_cons]
    omega
  | unknown s => cases hstray
  | dot => cases hstray

/-- **A run.** The room left covers the tokens to come, as each needs room for one at most. -/
theorem exists_foldlM_step {ts : List Token} {y : Yard} {d : ℕ}
    (hstray : ∀ t ∈ ts, t.isStray = false) (hdepth : ts.foldlM depth? y.depth = some d)
    (hroom : y.waiting.items.length + ts.length ≤ Stack.limit) :
    ∃ y', ts.foldlM step y = .ok y' := by
  induction ts generalizing y with
  | nil => exact ⟨y, rfl⟩
  | cons t ts ih =>
    obtain ⟨ht, hstray⟩ := List.forall_mem_cons.1 hstray
    rw [List.length_cons] at hroom
    rw [List.foldlM_cons] at hdepth
    obtain ⟨d', hfirst, hdepth⟩ := Option.bind_eq_some_iff.1 hdepth
    obtain ⟨y₁, hstep, hlen⟩ := exists_step ht hfirst (by omega)
    obtain rfl := Option.some.inj (hfirst.symm.trans (step_kept hstep).2.1)
    obtain ⟨y₂, hrun⟩ := ih hstray hdepth (by omega)
    refine ⟨y₂, ?_⟩
    rw [List.foldlM_cons, hstep]
    exact hrun

/-! ## The order of operands -/

/-- The operands put out so far, in order. -/
def operands (y : Yard) : List Token := y.output.reverse.filter Token.isOperand

theorem Clean.filter_waiting {y : Yard} (h : y.Clean) {ts : List Token}
    (hts : ts ⊆ y.waiting.items) : ts.filter Token.isOperand = [] := by
  refine List.filter_eq_nil_iff.2 fun t ht hoperand => ?_
  rcases h.waiting t (hts ht) with hop | rfl
  · cases t with
    | operator op => cases hoperand
    | _ => cases hop
  · cases hoperand

theorem Clean.operands_release {y : Yard} (h : y.Clean) (p : Token → Bool) :
    (y.release p).operands = y.operands := by
  rw [operands, output_release, List.reverse_append, List.reverse_reverse, List.filter_append,
    h.filter_waiting (List.takeWhile_subset p), List.append_nil]
  rfl

/-- **One token.** An operand is put out behind the others. -/
theorem Clean.operands_step {y y' : Yard} (h : y.Clean) {t : Token} (hs : y.step t = .ok y') :
    y'.operands = y.operands ++ [t].filter Token.isOperand := by
  cases t with
  | number v | name s =>
    obtain rfl := Except.ok.inj hs
    rw [operands, Yard.put, List.reverse_cons, List.filter_append]
    rfl
  | operator op =>
    rw [operands, (step_operator_eq_ok hs).1]
    exact (h.operands_release _).trans (List.append_nil _).symm
  | leftParen =>
    rw [operands, (wait_eq_ok hs).1]
    exact (List.append_nil _).symm
  | rightParen =>
    rw [operands, (step_rightParen_eq_ok hs).1]
    exact (h.operands_release _).trans (List.append_nil _).symm
  | unknown s => cases hs
  | dot => cases hs

/-- **A run.** -/
theorem Clean.operands_foldlM_step {ts : List Token} {y y' : Yard} (h : y.Clean)
    (hrun : ts.foldlM Yard.step y = .ok y') :
    y'.operands = y.operands ++ ts.filter Token.isOperand := by
  have hend : y'.Clean ∧ y'.operands ++ [] = y.operands ++ ts.filter Token.isOperand := by
    refine invariant_of_foldlM (fun rest z => z.Clean ∧
      z.operands ++ rest.filter Token.isOperand = y.operands ++ ts.filter Token.isOperand)
      ?_ ⟨h, rfl⟩ hrun
    rintro t rest z z' ⟨hclean, hoperands⟩ hs
    refine ⟨hclean.step hs, ?_⟩
    rw [hclean.operands_step hs, List.append_assoc, ← List.filter_append]
    exact hoperands
  rw [← hend.2, List.append_nil]

end Yard

/-! ## Postfix lists -/

/-- A list within the limit whose parentheses match and that has no stray token is put in order. -/
theorem exists_toPostfix {ts : List Token} (hlen : ts.length ≤ Stack.limit)
    (hstray : ∀ t ∈ ts, t.isStray = false) (hbalanced : Balanced ts) :
    ∃ out, toPostfix ts = .ok out := by
  obtain ⟨y, hrun⟩ := Yard.exists_foldlM_step (y := .start) hstray hbalanced
    (by simpa [Yard.start, Stack.empty] using hlen)
  have hdepth : y.depth = 0 :=
    Option.some.inj ((Yard.foldlM_step_kept hrun).2.1.symm.trans hbalanced)
  exact ⟨_, toPostfix_of_foldlM hrun (List.count_eq_zero.1 hdepth)⟩

theorem filter_isOperand_toPostfix {ts out : List Token} (h : toPostfix ts = .ok out) :
    out.filter Token.isOperand = ts.filter Token.isOperand := by
  obtain ⟨y, hrun, -, rfl⟩ := toPostfix_eq_ok h
  have hclean := Yard.clean_start.run hrun
  rw [List.filter_append, hclean.filter_waiting (List.Subset.refl _), List.append_nil]
  exact Yard.clean_start.operands_foldlM_step hrun

theorem not_isParen_of_isPostfix {t : Token} (h : t.isPostfix) : t.isParen = false := by
  cases t with
  | leftParen => cases h
  | rightParen => cases h
  | _ => rfl

theorem isPostfix_eq_of_not_isStray {t : Token} (h : t.isStray = false) :
    t.isPostfix = !t.isParen := by
  cases t with
  | unknown s => cases h
  | dot => cases h
  | _ => rfl

theorem toPostfix_perm {ts out : List Token} (h : toPostfix ts = .ok out) :
    out.Perm (ts.filter Token.isPostfix) := by
  obtain ⟨hstray, -, hperm⟩ := toPostfix_kept h
  have hout : out.filter (!·.isParen) = out := List.filter_eq_self.2 fun t ht => by
    rw [not_isParen_of_isPostfix (isPostfix_of_toPostfix h t ht)]
    rfl
  rwa [hout, ← List.filter_congr fun t ht => isPostfix_eq_of_not_isStray (hstray t ht)] at hperm

/-- The kind of problem that a fault is. A token that makes no sense in a postfix list would be a
problem of the program itself. -/
def Fault.code : Fault → Code
  | strayToken => .internalError
  | _ => .malformedExpression

theorem Fault.code_of_ne {fault : Fault} (h : fault ≠ .strayToken) :
    fault.code = .malformedExpression := by
  cases fault with
  | strayToken => exact absurd rfl h
  | _ => rfl

/-- **Which token lists become postfix lists, and what these hold.** Within the limit they are those
without stray tokens where no prefix closes more parentheses than it opens and all of them are
closed. A postfix list has no parenthesis, it is a permutation of the numbers, names and operators,
with the numbers and names in order, and no value of it fails for a token of the wrong kind. So a
malformed expression is the only problem that an expression can have. -/
theorem toPostfix_exactly :
    (∀ ts : List Token, ts.length ≤ 65535 →
      ((∃ out, toPostfix ts = .ok out) ↔
        (∀ t ∈ ts, t.isStray = false) ∧
          (∀ p, p <+: ts → p.count .rightParen ≤ p.count .leftParen) ∧
          ts.count .rightParen = ts.count .leftParen)) ∧
      (∀ ts out, toPostfix ts = .ok out →
        (∀ t ∈ out, t.isParen = false) ∧ out.Perm (ts.filter Token.isPostfix) ∧
          out.filter Token.isOperand = ts.filter Token.isOperand ∧
          ∀ symbols, evalPostfix symbols out ≠ .error .strayToken) ∧
      ∀ expr symbols size malformed, evaluate expr symbols size = .error malformed →
        malformed.fault.code = .malformedExpression ∧
          malformed.diagnostic.code = .malformedExpression := by
  refine ⟨fun ts hlen => ?_, fun ts out h => ?_, fun expr symbols size malformed h => ?_⟩
  · rw [← balanced_iff]
    constructor
    · rintro ⟨out, hout⟩
      obtain ⟨hstray, hbalanced, -⟩ := toPostfix_kept hout
      exact ⟨hstray, hbalanced⟩
    · rintro ⟨hstray, hbalanced⟩
      exact exists_toPostfix hlen hstray hbalanced
  · have hkinds := isPostfix_of_toPostfix h
    exact ⟨fun t ht => not_isParen_of_isPostfix (hkinds t ht), toPostfix_perm h,
      filter_isOperand_toPostfix h, fun symbols => evalPostfix_ne_strayToken hkinds⟩
  · exact ⟨Fault.code_of_ne (evaluate_ne_strayToken expr symbols size h), rfl⟩

/-- A closing parenthesis before the opening one is refused, though there is one of each; in the
other order they group what stands between them. -/
theorem toPostfix_exactly_crossed :
    let crossed : List Token := [.number 1, .rightParen, .operator .plus, .leftParen, .name "a"]
    let grouped : List Token := [.number 2, .operator .times, .leftParen, .name "a",
      .operator .plus, .number 1, .rightParen]
    let out : List Token := [.number 2, .name "a", .number 1, .operator .plus, .operator .times]
    let malformed : Malformed := ⟨"(1".toList, .unmatchedLeft⟩
    (crossed.length ≤ 65535 ∧ ¬∃ out, toPostfix crossed = .ok out) ∧
      (toPostfix grouped = .ok out ∧ out.Perm (grouped.filter Token.isPostfix) ∧
        out.filter Token.isOperand = grouped.filter Token.isOperand) ∧
      evaluate "(1".toList .empty .standard = .error malformed ∧
        malformed.fault.code = .malformedExpression := by
  intro crossed grouped out malformed
  have hcrossed : crossed.length ≤ 65535 := by decide
  have hout : toPostfix grouped = .ok out := rfl
  have hmalformed : evaluate "(1".toList .empty .standard = .error malformed := by
    decide +kernel
  obtain ⟨-, hperm, hoperands, -⟩ := toPostfix_exactly.2.1 grouped out hout
  refine ⟨⟨hcrossed, fun h => ?_⟩, ⟨hout, hperm, hoperands⟩, hmalformed,
    (toPostfix_exactly.2.2 _ _ _ malformed hmalformed).1⟩
  have hprefixes := ((toPostfix_exactly.1 crossed hcrossed).1 h).2.1
  exact absurd (hprefixes [.number 1, .rightParen] ⟨_, rfl⟩) (by decide)

end SketchPreview.Expr
