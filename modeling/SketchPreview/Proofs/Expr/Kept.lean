import SketchPreview.Proofs.Expr.Yard

/-!
# What reading keeps

Whatever its order, a token list that becomes a postfix list has matching parentheses and no stray
token, and its numbers, names and operators are all there in the result. A postfix list with a value
has one operand more than it has operators.

* `Token.isOperand`, `Token.isOperator`, `Token.isParen`, `Token.isStray`: kinds of tokens;
* `depth?`, `Balanced`: matching parentheses;
* `Yard.depth`, `Yard.contents`: the parentheses that are open, and the tokens taken in;
* `Yard.step_operator_eq_ok`, `Yard.step_rightParen_eq_ok`, `evalStep_operator_eq_ok`: what has
  happened when a step succeeds;
* `Yard.step_kept`, `Yard.foldlM_step_kept`: one token, and a run;
* `toPostfix_eq_ok`: the postfix list through the yard;
* **`toPostfix_kept`**, **`countP_evalPostfix`**.
-/

namespace SketchPreview.Expr

/-! ## Kinds of tokens -/

namespace Token

/-- Whether a token is a number or a name. -/
def isOperand : Token → Bool
  | number _ | name _ => true
  | _ => false

/-- Whether a token is an operator. -/
def isOperator : Token → Bool
  | operator _ => true
  | _ => false

/-- Whether a token is a parenthesis. -/
def isParen : Token → Bool
  | leftParen | rightParen => true
  | _ => false

/-- Whether a token can stand for nothing in an expression. -/
def isStray : Token → Bool
  | unknown _ | dot => true
  | _ => false

end Token

/-- The number of open parentheses after one more token. None closes what is not open. -/
def depth? : Nat → Token → Option Nat
  | d, .leftParen => some (d + 1)
  | 0, .rightParen => none
  | d + 1, .rightParen => some d
  | d, _ => some d

/-- Every parenthesis has its partner. -/
def Balanced (ts : List Token) : Prop := ts.foldlM depth? 0 = some 0

instance (ts : List Token) : Decidable (Balanced ts) := inferInstanceAs (Decidable (_ = _))

theorem depth?_of_not_isParen {t : Token} (h : t.isParen = false) (d : Nat) :
    depth? d t = some d := by
  cases t with
  | leftParen => cases h
  | rightParen => cases h
  | _ => cases d <;> rfl

theorem exists_of_bind_eq_ok {ε α β : Type} {x : Except ε α} {f : α → Except ε β} {b : β}
    (h : x >>= f = .ok b) : ∃ a, x = .ok a ∧ f a = .ok b := by
  cases x with
  | error e => cases h
  | ok a => exact ⟨a, rfl, h⟩

/-- **An invariant of a run**, told by the elements still to come, holds at its end. -/
theorem invariant_of_foldlM {ε α β : Type} {f : β → α → Except ε β} (I : List α → β → Prop)
    (hstep : ∀ a l b b', I (a :: l) b → f b a = .ok b' → I l b') {l : List α} {b b' : β}
    (hb : I l b) (h : l.foldlM f b = .ok b') : I [] b' := by
  induction l generalizing b with
  | nil =>
    obtain rfl := Except.ok.inj h
    exact hb
  | cons a l ih =>
    rw [List.foldlM_cons] at h
    obtain ⟨c, hfirst, hrest⟩ := exists_of_bind_eq_ok h
    exact ih (hstep a l b c hb hfirst) hrest

theorem Stack.items_of_pop? {α : Type} {s t : Stack α} {a : α} (h : s.pop? = .ok (a, t)) :
    s.items = a :: t.items := by
  obtain ⟨items, depth, hd⟩ := s
  cases items with
  | nil => cases h
  | cons b rest =>
    obtain ⟨rfl, rfl⟩ := Prod.mk.inj (Except.ok.inj h)
    rfl

/-! ## The yard -/

namespace Yard

/-- The opening parentheses that wait. -/
def depth (y : Yard) : Nat := y.waiting.items.count .leftParen

/-- The tokens taken in, without the parentheses. -/
def contents (y : Yard) : List Token :=
  (y.output ++ y.waiting.items).filter (!·.isParen)

theorem wait_eq_ok {y y' : Yard} {t : Token} (h : y.wait t = .ok y') :
    y'.output = y.output ∧ y'.waiting.items = t :: y.waiting.items := by
  unfold wait at h
  split at h
  · next w hw =>
    obtain rfl := Except.ok.inj h
    obtain ⟨-, rfl⟩ := Stack.push?_eq_ok_iff.1 hw
    exact ⟨rfl, rfl⟩
  · cases h

/-- Letting tokens out moves them from the stack to the output. -/
theorem contents_release (y : Yard) (p : Token → Bool) :
    (y.release p).contents.Perm y.contents := by
  refine List.Perm.filter _ ?_
  rw [output_release, waiting_release]
  calc (y.waiting.items.takeWhile p).reverse ++ y.output ++ y.waiting.items.dropWhile p
    _ |>.Perm (y.output ++ y.waiting.items.takeWhile p ++ y.waiting.items.dropWhile p) :=
      (((List.reverse_perm _).append_right _).trans List.perm_append_comm).append_right _
    _ = y.output ++ y.waiting.items := by
      rw [List.append_assoc, List.takeWhile_append_dropWhile]

/-- A parenthesis that is not let out stays open. -/
theorem depth_release (y : Yard) {p : Token → Bool} (hp : p .leftParen = false) :
    (y.release p).depth = y.depth := by
  have h : (y.waiting.items.takeWhile p).count .leftParen = 0 := by
    refine List.count_eq_zero.2 fun hmem => ?_
    have := List.all_eq_true.1 List.all_takeWhile _ hmem
    exact Bool.false_ne_true (hp.symm.trans this)
  have hsplit := congrArg (List.count Token.leftParen)
    (List.takeWhile_append_dropWhile (p := p) (l := y.waiting.items))
  rw [List.count_append, h, Nat.zero_add] at hsplit
  exact hsplit

theorem step_operator_eq_ok {y y' : Yard} {op : Operator} (h : y.step (.operator op) = .ok y') :
    y'.output = (y.release (yieldsTo op)).output ∧
      y'.waiting.items = .operator op :: (y.release (yieldsTo op)).waiting.items :=
  wait_eq_ok h

theorem step_rightParen_eq_ok {y y' : Yard} (h : y.step .rightParen = .ok y') :
    y'.output = (y.release (· ≠ .leftParen)).output ∧
      (y.release (· ≠ .leftParen)).waiting.items = .leftParen :: y'.waiting.items := by
  simp only [step] at h
  split at h
  · next a w hpop =>
    obtain rfl := Except.ok.inj h
    have hw := Stack.items_of_pop? hpop
    obtain rfl : a = .leftParen := by
      have hhead := List.head?_dropWhile_not (fun t : Token => decide (t ≠ .leftParen))
        y.waiting.items
      rw [waiting_release] at hw
      rw [hw] at hhead
      simpa using hhead
    exact ⟨rfl, hw⟩
  · cases h

/-- **One token.** It is not stray, it opens or closes at most one parenthesis, and it is kept
unless it is one. -/
theorem step_kept {y y' : Yard} {t : Token} (h : y.step t = .ok y') :
    t.isStray = false ∧ depth? y.depth t = some y'.depth ∧
      y'.contents.Perm ([t].filter (!·.isParen) ++ y.contents) := by
  cases t with
  | unknown s => cases h
  | dot => cases h
  | number v =>
    obtain rfl := Except.ok.inj h
    exact ⟨rfl, rfl, .refl _⟩
  | name s =>
    obtain rfl := Except.ok.inj h
    exact ⟨rfl, rfl, .refl _⟩
  | leftParen =>
    obtain ⟨ho, hw⟩ := wait_eq_ok h
    refine ⟨rfl, ?_, ?_⟩
    · simp only [depth?, depth, hw, List.count_cons_self]
    · simp [contents, ho, hw, Token.isParen]
  | operator op =>
    obtain ⟨ho, hw⟩ := step_operator_eq_ok h
    refine ⟨rfl, ?_, ?_⟩
    · have hd := y.depth_release (p := yieldsTo op) rfl
      simp only [depth?, depth, hw, List.count_cons] at hd ⊢
      simp [hd]
    · have hc := y.contents_release (yieldsTo op)
      simp only [contents, ho, hw] at hc ⊢
      refine (List.Perm.filter _ List.perm_middle).trans ?_
      simpa [Token.isParen] using hc
  | rightParen =>
    have hd := y.depth_release (p := (· ≠ .leftParen)) (by simp)
    have hc := y.contents_release (· ≠ .leftParen)
    obtain ⟨ho, hw⟩ := step_rightParen_eq_ok h
    refine ⟨rfl, ?_, ?_⟩
    · rw [← hd]
      simp only [depth, hw, List.count_cons_self, depth?]
    · refine .trans (.of_eq ?_) hc
      simp only [contents, ho, hw, List.filter_append, List.filter_cons, Token.isParen]
      rfl

/-- **A run.** -/
theorem foldlM_step_kept {ts : List Token} {y y' : Yard} (h : ts.foldlM step y = .ok y') :
    (∀ t ∈ ts, t.isStray = false) ∧ ts.foldlM depth? y.depth = some y'.depth ∧
      y'.contents.Perm (ts.filter (!·.isParen) ++ y.contents) := by
  induction ts generalizing y with
  | nil =>
    obtain rfl := Except.ok.inj h
    exact ⟨by simp, rfl, .refl _⟩
  | cons t ts ih =>
    rw [List.foldlM_cons] at h
    obtain ⟨y₁, hs, h⟩ := exists_of_bind_eq_ok h
    obtain ⟨hstray, hdepth, hperm⟩ := step_kept hs
    obtain ⟨hstray', hdepth', hperm'⟩ := ih h
    refine ⟨List.forall_mem_cons.2 ⟨hstray, hstray'⟩, ?_, ?_⟩
    · rw [List.foldlM_cons, hdepth]
      exact hdepth'
    · refine (hperm'.trans (hperm.append_left _)).trans ?_
      rw [← List.append_assoc, ← List.singleton_append (l := ts), List.filter_append]
      exact List.perm_append_comm.append_right _

end Yard

theorem toPostfix_eq_ok {ts out : List Token} (h : toPostfix ts = .ok out) :
    ∃ y, ts.foldlM Yard.step .start = .ok y ∧ .leftParen ∉ y.waiting.items ∧
      out = y.output.reverse ++ y.waiting.items := by
  obtain ⟨y, hrun, hfinish⟩ := exists_of_bind_eq_ok h
  rw [Yard.finish] at hfinish
  split at hfinish
  · cases hfinish
  · next hleft =>
    exact ⟨y, hrun, fun hmem => hleft (List.contains_iff_mem.2 hmem),
      (Except.ok.inj hfinish).symm⟩

/-- **A token list that becomes a postfix list** has no stray token, its parentheses match, and the
result holds its numbers, names and operators. -/
theorem toPostfix_kept {ts out : List Token} (h : toPostfix ts = .ok out) :
    (∀ t ∈ ts, t.isStray = false) ∧ Balanced ts ∧
      (out.filter (!·.isParen)).Perm (ts.filter (!·.isParen)) := by
  obtain ⟨y, hrun, hleft, rfl⟩ := toPostfix_eq_ok h
  obtain ⟨hstray, hdepth, hperm⟩ := Yard.foldlM_step_kept hrun
  have hzero : y.depth = 0 := List.count_eq_zero.2 hleft
  refine ⟨hstray, ?_, ?_⟩
  · rw [hzero] at hdepth
    exact hdepth
  · refine .trans ?_ (hperm.trans (.of_eq (List.append_nil _)))
    exact ((List.reverse_perm _).append_right _).filter _

/-! ## Values -/

section Values

variable {symbols : SymbolTable}

theorem pushValue_eq_ok {stack stack' : Stack Float} {v : Float}
    (h : pushValue stack v = .ok stack') : stack'.items = v :: stack.items := by
  unfold pushValue at h
  split at h
  · next w hw =>
    obtain rfl := Except.ok.inj h
    obtain ⟨-, rfl⟩ := Stack.push?_eq_ok_iff.1 hw
    rfl
  · cases h

theorem evalStep_operator_eq_ok {stack stack' : Stack Float} {op : Operator}
    (h : evalStep symbols stack (.operator op) = .ok stack') :
    ∃ lhs rhs rest, stack.items = rhs :: lhs :: rest ∧
      stack'.items = op.apply lhs rhs :: rest := by
  simp only [evalStep, Stack.pop₂] at h
  split at h
  · next lhs rhs rest hpop =>
    split at hpop
    · cases hpop
    · next second below hsecond =>
      split at hpop
      · cases hpop
      · next first rest' hfirst =>
        obtain ⟨hpair, rfl⟩ := Prod.mk.inj hpop
        obtain ⟨rfl, rfl⟩ := Prod.mk.inj (Except.ok.inj hpair)
        refine ⟨first, second, rest'.items, ?_, pushValue_eq_ok h⟩
        rw [Stack.items_of_pop? hsecond, Stack.items_of_pop? hfirst]
  · cases h

theorem length_evalStep {stack stack' : Stack Float} {t : Token}
    (h : evalStep symbols stack t = .ok stack') :
    stack'.items.length + [t].countP Token.isOperator =
      stack.items.length + [t].countP Token.isOperand := by
  cases t with
  | number v => simp [pushValue_eq_ok h, Token.isOperator, Token.isOperand]
  | name s => simp [pushValue_eq_ok h, Token.isOperator, Token.isOperand]
  | operator op =>
    obtain ⟨lhs, rhs, rest, hitems, hitems'⟩ := evalStep_operator_eq_ok h
    simp [hitems, hitems', Token.isOperator, Token.isOperand]
  | unknown s => cases h
  | dot => cases h
  | leftParen => cases h
  | rightParen => cases h

theorem length_foldlM_evalStep {ts : List Token} {stack stack' : Stack Float}
    (h : ts.foldlM (evalStep symbols) stack = .ok stack') :
    stack'.items.length + ts.countP Token.isOperator =
      stack.items.length + ts.countP Token.isOperand := by
  refine invariant_of_foldlM (fun rest s => s.items.length + ts.countP Token.isOperator +
    rest.countP Token.isOperand = stack.items.length + ts.countP Token.isOperand +
      rest.countP Token.isOperator) ?_ (by omega) h
  intro t rest s s' hs hstep
  have hlen := length_evalStep hstep
  rw [← List.singleton_append (l := rest), List.countP_append, List.countP_append] at hs
  omega

theorem onlyValue_eq_ok {stack : Stack Float} {v : Float} (h : onlyValue stack = .ok v) :
    stack.items = [v] := by
  simp only [onlyValue] at h
  split at h
  · next w rest hpop =>
    split at h
    · next hrest =>
      obtain rfl := Except.ok.inj h
      rw [Stack.items_of_pop? hpop, List.isEmpty_iff.1 hrest]
    · cases h
  · cases h

/-- **A postfix list with a value** has one operand more than it has operators. -/
theorem countP_evalPostfix {ts : List Token} {v : Float} (h : evalPostfix symbols ts = .ok v) :
    ts.countP Token.isOperand = ts.countP Token.isOperator + 1 := by
  obtain ⟨stack, hrun, honly⟩ := exists_of_bind_eq_ok h
  have hlen := length_foldlM_evalStep hrun
  rw [onlyValue_eq_ok honly] at hlen
  simp only [Stack.empty, List.length_cons, List.length_nil] at hlen
  omega

end Values

end SketchPreview.Expr
