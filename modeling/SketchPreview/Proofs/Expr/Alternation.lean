import SketchPreview.Proofs.Expr.Kept
import SketchPreview.Proofs.Expr.Value

/-!
# Operands and operators in turn

A token list is a sentence exactly when its parentheses match and its operands and operators come in
turn. The yard looks at the parentheses and the value at the numbers of operands and operators; but
nothing looks at their turns, so the operators of an accepted list may stand anywhere.

* `Turn`, `Turn.after?`, `Alternates`: what a token list may go on with;
* `Begun`, `Stage`, `outside`: the invariant of reading from left to right, with the parts that
  stand before each open parenthesis;
* `isSentence_iff`: sentences are the balanced lists that alternate;
* **`isSentence_iff_of_evaluate`**: which of the accepted expressions are sentences.
-/

namespace SketchPreview.Expr

/-- What a token list goes on with: an operand or an opening parenthesis, or else an operator or a
closing one. -/
inductive Turn where
  | operand
  | operator
  deriving DecidableEq, Repr

/-- Whose turn it is after a token, if it was the token's turn. -/
def Turn.after? : Turn → Token → Option Turn
  | operand, .number _ | operand, .name _ => some operator
  | operand, .leftParen => some operand
  | operator, .operator _ => some operand
  | operator, .rightParen => some operator
  | _, _ => none

/-- Operands and operators come in turn, an operand first and last. -/
def Alternates (ts : List Token) : Prop := ts.foldlM Turn.after? .operand = some .operator

instance (ts : List Token) : Decidable (Alternates ts) := inferInstanceAs (Decidable (_ = _))

/-! ## A sentence is balanced and alternates -/

theorem foldlM_after?_of_derives {r : Rank} {ts : List Token} {e : Tree} (h : Derives r ts e) :
    ts.foldlM Turn.after? .operand = some .operator := by
  induction h with
  | number v => rfl
  | name s => rfl
  | ofFactor _ ih => exact ih
  | ofTerm _ ih => exact ih
  | paren _ ih =>
    rw [List.foldlM_cons]
    change List.foldlM _ Turn.operand _ = _
    rw [List.foldlM_append, ih]
    rfl
  | product _ _ _ ih₁ ih₂ =>
    rw [List.foldlM_append, ih₁]
    exact ih₂
  | sum _ _ _ ih₁ ih₂ =>
    rw [List.foldlM_append, ih₁]
    exact ih₂

theorem foldlM_depth?_operator {ts us : List Token} {d : Nat} (op : Operator)
    (hts : ts.foldlM depth? d = some d) (hus : us.foldlM depth? d = some d) :
    (ts ++ .operator op :: us).foldlM depth? d = some d := by
  rw [List.foldlM_append, hts]
  change (Token.operator op :: us).foldlM depth? d = _
  rw [List.foldlM_cons, depth?_of_not_isParen rfl]
  exact hus

theorem foldlM_depth?_of_derives {r : Rank} {ts : List Token} {e : Tree} (h : Derives r ts e)
    (d : Nat) : ts.foldlM depth? d = some d := by
  induction h generalizing d with
  | number v => cases d <;> rfl
  | name s => cases d <;> rfl
  | ofFactor _ ih => exact ih d
  | ofTerm _ ih => exact ih d
  | @paren ts _ _ ih =>
    rw [List.foldlM_cons, depth?]
    change (ts ++ [Token.rightParen]).foldlM depth? (d + 1) = _
    rw [List.foldlM_append, ih]
    rfl
  | product _ _ _ ih₁ ih₂ => exact foldlM_depth?_operator _ (ih₁ d) (ih₂ d)
  | sum _ _ _ ih₁ ih₂ => exact foldlM_depth?_operator _ (ih₁ d) (ih₂ d)

/-! ## A balanced list that alternates is a sentence -/

/-- What may stand before an operand: nothing, or a sentence and an operator. -/
def Begun (p : List Token) : Prop := p = [] ∨ ∃ s op, IsSentence s ∧ p = s ++ [.operator op]

theorem Begun.snoc {p us : List Token} {f : Tree} (h : Begun p) (hf : Derives .factor us f) :
    IsSentence (p ++ us) := by
  rcases h with rfl | ⟨s, op, hs, rfl⟩
  · exact .ofFactor hf
  · rw [List.append_assoc, List.singleton_append]
    exact hs.snoc op hf

/-- What has been read inside the innermost open parenthesis, when it is somebody's turn. -/
def Stage : Turn → List Token → Prop
  | .operand, p => Begun p
  | .operator, p => IsSentence p

/-- The parts that stand before the open parentheses, the innermost first, each with its
parenthesis. -/
def outside : List (List Token) → List Token
  | [] => []
  | p :: ps => outside ps ++ p ++ [.leftParen]

/-- **Reading on.** The induction is on the tokens to come; the open parentheses and the part read
inside the innermost of them are generalised, since each token changes them. -/
theorem isSentence_of_stage (rest : List Token) (frames : List (List Token)) (turn : Turn)
    (p : List Token) (hframes : ∀ q ∈ frames, Begun q) (hp : Stage turn p)
    (hdepth : rest.foldlM depth? frames.length = some 0)
    (hturn : rest.foldlM Turn.after? turn = some .operator) :
    IsSentence (outside frames ++ p ++ rest) := by
  induction rest generalizing frames turn p with
  | nil =>
    obtain rfl : turn = .operator := Option.some.inj hturn
    obtain rfl : frames = [] := List.length_eq_zero_iff.1 (Option.some.inj hdepth)
    rw [List.append_nil]
    exact hp
  | cons t rest ih =>
    -- a factor joins the part read, and an operator waits for the next one
    have hjoin : ∀ {us : List Token} {f : Tree}, Begun p → Derives .factor us f →
        Stage .operator (p ++ us) := fun hb hf => hb.snoc hf
    have hshift : ∀ us, outside frames ++ p ++ us ++ rest = outside frames ++ (p ++ us) ++ rest :=
      fun us => by rw [List.append_assoc (outside frames)]
    rw [List.append_cons]
    rw [List.foldlM_cons] at hdepth hturn
    cases turn with
    | operand =>
      cases t with
      | number v =>
        rw [hshift]
        rw [depth?_of_not_isParen rfl] at hdepth
        exact ih frames .operator _ hframes (hjoin hp (.number v)) hdepth hturn
      | name s =>
        rw [hshift]
        rw [depth?_of_not_isParen rfl] at hdepth
        exact ih frames .operator _ hframes (hjoin hp (.name s)) hdepth hturn
      | leftParen =>
        have h := ih (p :: frames) .operand [] (List.forall_mem_cons.2 ⟨hp, hframes⟩) (.inl rfl)
          hdepth hturn
        rwa [List.append_nil] at h
      | operator op => cases hturn
      | rightParen => cases hturn
      | unknown s => cases hturn
      | dot => cases hturn
    | operator =>
      cases t with
      | operator op =>
        rw [hshift]
        rw [depth?_of_not_isParen rfl] at hdepth
        exact ih frames .operand _ hframes (.inr ⟨p, op, hp, rfl⟩) hdepth hturn
      | rightParen =>
        cases frames with
        | nil => cases hdepth
        | cons q frames =>
          obtain ⟨hq, hframes⟩ := List.forall_mem_cons.1 hframes
          obtain ⟨e, he⟩ := IsSentence.paren hp
          have h := ih frames .operator _ hframes (hq.snoc he) hdepth hturn
          simpa only [outside, List.append_assoc, List.cons_append, List.nil_append] using h
      | number v => cases hturn
      | name s => cases hturn
      | leftParen => cases hturn
      | unknown s => cases hturn
      | dot => cases hturn

/-- **Sentences are the balanced lists that alternate.** -/
theorem isSentence_iff {ts : List Token} : IsSentence ts ↔ Balanced ts ∧ Alternates ts := by
  constructor
  · rintro ⟨e, he⟩
    exact ⟨foldlM_depth?_of_derives he 0, foldlM_after?_of_derives he⟩
  · rintro ⟨hb, ha⟩
    exact isSentence_of_stage ts [] .operand [] (by simp) (.inl rfl) hb ha

/-! ## Accepted expressions -/

section Accepted

variable {expr : List Char} {symbols : SymbolTable} {size : Dimensions} {v : Float}

theorem evaluate_eq_ok (h : evaluate expr symbols size = .ok v) :
    ∃ out, toPostfix (collapseAccessors size (lex expr)) = .ok out ∧
      evalPostfix symbols out = .ok v := by
  unfold evaluate at h
  split at h
  · next w hw =>
    obtain rfl := Except.ok.inj h
    unfold evalTokens at hw
    split at hw
    · cases hw
    · exact exists_of_bind_eq_ok hw
  · cases h

theorem countP_filter_isParen {p : Token → Bool} (hp : ∀ t, p t → t.isParen = false)
    (ts : List Token) : (ts.filter (!·.isParen)).countP p = ts.countP p := by
  rw [List.countP_filter]
  refine List.countP_congr fun t _ => ?_
  cases h : p t
  · simp
  · simp [hp t h]

/-- **Which accepted expressions are sentences.** An expression with a value has no stray token, its
parentheses match and it has one operand more than it has operators. It is a sentence if and only
if, besides, its operands and operators come in turn. -/
theorem isSentence_iff_of_evaluate (h : evaluate expr symbols size = .ok v) :
    (IsSentence (collapseAccessors size (lex expr)) ↔
      Alternates (collapseAccessors size (lex expr))) ∧
    (∀ t ∈ collapseAccessors size (lex expr), t.isStray = false) ∧
    Balanced (collapseAccessors size (lex expr)) ∧
    (collapseAccessors size (lex expr)).countP Token.isOperand =
      (collapseAccessors size (lex expr)).countP Token.isOperator + 1 := by
  obtain ⟨out, hout, hv⟩ := evaluate_eq_ok h
  obtain ⟨hstray, hbalanced, hperm⟩ := toPostfix_kept hout
  have hcount : ∀ {p : Token → Bool}, (∀ t, p t → t.isParen = false) →
      (collapseAccessors size (lex expr)).countP p = out.countP p := by
    intro p hp
    rw [← countP_filter_isParen hp, ← hperm.countP_eq, countP_filter_isParen hp]
  refine ⟨?_, hstray, hbalanced, ?_⟩
  · rw [isSentence_iff]
    exact ⟨fun h => h.2, fun h => ⟨hbalanced, h⟩⟩
  · rw [hcount (p := Token.isOperand), hcount (p := Token.isOperator)]
    · exact countP_evalPostfix hv
    · intro t ht
      cases t <;> simp_all [Token.isOperator, Token.isParen]
    · intro t ht
      cases t <;> simp_all [Token.isOperand, Token.isParen]

end Accepted

theorem eq_ok_of_toOption {ε α : Type} {x : Except ε α} {a : α} (h : x.toOption = some a) :
    x = .ok a := by
  cases x with
  | error e => cases h
  | ok b => exact congrArg Except.ok (Option.some.inj h)

/-- An accepted expression whose operator comes last. -/
theorem isSentence_iff_of_evaluate_sum :
    let ts := collapseAccessors .standard (lex "1 2 +".toList)
    evaluate "1 2 +".toList (.ofSize .standard) .standard = .ok 3 ∧
      (IsSentence ts ↔ Alternates ts) ∧ (∀ t ∈ ts, t.isStray = false) ∧ Balanced ts ∧
      ts.countP Token.isOperand = ts.countP Token.isOperator + 1 := by
  have h : evaluate "1 2 +".toList (.ofSize .standard) .standard = .ok 3 :=
    eq_ok_of_toOption (by decide +kernel)
  exact ⟨h, isSentence_iff_of_evaluate h⟩

/-- An operator behind its operands, one before them and a pair of parentheses with nothing inside
are no parts of a sentence, and yet these expressions have values. -/
theorem evaluate_out_of_turn :
    (evaluate "1 2 +".toList (.ofSize .standard) .standard = .ok 3 ∧
      ¬IsSentence (collapseAccessors .standard (lex "1 2 +".toList))) ∧
    (evaluate "- 5 3".toList (.ofSize .standard) .standard = .ok 2 ∧
      ¬IsSentence (collapseAccessors .standard (lex "- 5 3".toList))) ∧
    (evaluate "WIDTH()".toList (.ofSize .standard) .standard = .ok 128 ∧
      ¬IsSentence (collapseAccessors .standard (lex "WIDTH()".toList))) := by
  simp only [isSentence_iff]
  refine ⟨⟨eq_ok_of_toOption ?_, ?_⟩, ⟨eq_ok_of_toOption ?_, ?_⟩, ⟨eq_ok_of_toOption ?_, ?_⟩⟩ <;>
    decide +kernel

end SketchPreview.Expr
