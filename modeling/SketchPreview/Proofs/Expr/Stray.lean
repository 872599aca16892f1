import SketchPreview.Proofs.Expr.Kept

/-!
# Postfix lists hold no stray token

Whatever the yard puts out is a number, a name or an operator. So of all faults the one of a token
that makes no sense in a postfix list never comes up.

* `Token.isPostfix`: the tokens of postfix lists;
* `Yard.Clean`, `Yard.Clean.step`, `Yard.Clean.run`: the invariant of the yard;
* `isPostfix_of_toPostfix`: a postfix list holds such tokens only;
* **`evaluate_ne_strayToken`**.
-/

namespace SketchPreview.Expr

/-- Whether a token can stand in a postfix list. -/
def Token.isPostfix (t : Token) : Bool := t.isOperand || t.isOperator

theorem error_of_bind_eq_error {ε α β : Type} {x : Except ε α} {f : α → Except ε β} {e : ε}
    (h : x >>= f = .error e) : x = .error e ∨ ∃ a, x = .ok a ∧ f a = .error e := by
  cases x with
  | error e' => exact .inl (congrArg Except.error (Except.error.inj h))
  | ok a => exact .inr ⟨a, rfl, h⟩

theorem exists_of_foldlM_eq_error {ε α β : Type} {f : β → α → Except ε β} {l : List α} {b : β}
    {e : ε} (h : l.foldlM f b = .error e) : ∃ b', ∃ a ∈ l, f b' a = .error e := by
  induction l generalizing b with
  | nil => cases h
  | cons a rest ih =>
    rw [List.foldlM_cons] at h
    rcases error_of_bind_eq_error h with hfirst | ⟨b', -, hrest⟩
    · exact ⟨b, a, List.mem_cons_self, hfirst⟩
    · obtain ⟨b'', a', ha', hfail⟩ := ih hrest
      exact ⟨b'', a', List.mem_cons_of_mem _ ha', hfail⟩

theorem Stack.Fault.ofStack_ne_strayToken (fault : Stack.Fault) :
    Fault.ofStack fault ≠ .strayToken := by
  cases fault <;> decide

/-! ## The yard -/

namespace Yard

/-- Postfix tokens are put out; operators and opening parentheses wait. -/
structure Clean (y : Yard) : Prop where
  output : ∀ t ∈ y.output, t.isPostfix
  waiting : ∀ t ∈ y.waiting.items, t.isOperator ∨ t = .leftParen

theorem clean_start : start.Clean := ⟨by simp [start], by simp [start, Stack.empty]⟩

theorem Clean.release {y : Yard} (h : y.Clean) {p : Token → Bool} (hp : p .leftParen = false) :
    (y.release p).Clean where
  output t ht := by
    rw [output_release, List.mem_append, List.mem_reverse] at ht
    rcases ht with ht | ht
    · have hpt : p t = true := List.all_eq_true.1 List.all_takeWhile t ht
      rcases h.waiting t (List.takeWhile_subset p ht) with hop | rfl
      · rw [Token.isPostfix, hop, Bool.or_true]
      · cases hp.symm.trans hpt
    · exact h.output t ht
  waiting t ht := h.waiting t (List.dropWhile_subset p ht)

theorem Clean.put {y : Yard} (h : y.Clean) {t : Token} (ht : t.isPostfix) : (y.put t).Clean :=
  ⟨List.forall_mem_cons.2 ⟨ht, h.output⟩, h.waiting⟩

theorem Clean.wait {y y' : Yard} (h : y.Clean) {t : Token} (ht : t.isOperator ∨ t = .leftParen)
    (hw : y.wait t = .ok y') : y'.Clean := by
  obtain ⟨houtput, hwaiting⟩ := wait_eq_ok hw
  exact ⟨houtput ▸ h.output, hwaiting ▸ List.forall_mem_cons.2 ⟨ht, h.waiting⟩⟩

theorem Clean.step {y y' : Yard} (h : y.Clean) {t : Token} (hs : y.step t = .ok y') : y'.Clean := by
  cases t with
  | number v | name s =>
    obtain rfl := Except.ok.inj hs
    exact h.put rfl
  | operator op => exact (h.release rfl).wait (.inl rfl) hs
  | leftParen => exact h.wait (.inr rfl) hs
  | rightParen =>
    have hclean := h.release (p := (· ≠ .leftParen)) (by simp)
    obtain ⟨houtput, hwaiting⟩ := step_rightParen_eq_ok hs
    exact ⟨houtput ▸ hclean.output,
      fun t ht => hclean.waiting t (hwaiting ▸ List.mem_cons_of_mem _ ht)⟩
  | unknown s => cases hs
  | dot => cases hs

theorem Clean.run {ts : List Token} {y y' : Yard} (h : y.Clean)
    (hrun : ts.foldlM Yard.step y = .ok y') : y'.Clean :=
  invariant_of_foldlM (fun _ y => y.Clean) (fun _ _ _ _ hy hs => hy.step hs) h hrun

theorem wait_ne_strayToken (y : Yard) (t : Token) : y.wait t ≠ .error .strayToken := by
  unfold wait
  split
  · rintro ⟨⟩
  · next fault _ => exact fun h => fault.ofStack_ne_strayToken (Except.error.inj h)

theorem step_ne_strayToken (y : Yard) (t : Token) : y.step t ≠ .error .strayToken := by
  cases t with
  | operator op => exact wait_ne_strayToken _ _
  | leftParen => exact wait_ne_strayToken _ _
  | rightParen =>
    simp only [Yard.step]
    split <;> rintro ⟨⟩
  | _ => rintro ⟨⟩

end Yard

theorem isPostfix_of_toPostfix {ts out : List Token} (h : toPostfix ts = .ok out) :
    ∀ t ∈ out, t.isPostfix := by
  obtain ⟨y, hrun, hleft, rfl⟩ := toPostfix_eq_ok h
  have hclean := Yard.clean_start.run hrun
  intro t ht
  rcases List.mem_append.1 ht with ht | ht
  · exact hclean.output t (List.mem_reverse.1 ht)
  · rcases hclean.waiting t ht with hop | rfl
    · rw [Token.isPostfix, hop, Bool.or_true]
    · exact absurd ht hleft

theorem toPostfix_ne_strayToken (ts : List Token) : toPostfix ts ≠ .error .strayToken := by
  intro h
  rcases error_of_bind_eq_error h with hrun | ⟨y, -, hfinish⟩
  · obtain ⟨y, t, -, hs⟩ := exists_of_foldlM_eq_error hrun
    exact y.step_ne_strayToken t hs
  · unfold Yard.finish at hfinish
    split at hfinish <;> cases hfinish

/-! ## Values -/

section Values

variable {symbols : SymbolTable}

theorem pushValue_ne_strayToken (stack : Stack Float) (v : Float) :
    pushValue stack v ≠ .error .strayToken := by
  unfold pushValue
  split
  · rintro ⟨⟩
  · next fault _ => exact fun h => fault.ofStack_ne_strayToken (Except.error.inj h)

theorem evalStep_ne_strayToken (stack : Stack Float) {t : Token} (h : t.isPostfix) :
    evalStep symbols stack t ≠ .error .strayToken := by
  cases t with
  | number v | name s => exact pushValue_ne_strayToken _ _
  | operator op =>
    simp only [evalStep]
    split
    · exact pushValue_ne_strayToken _ _
    · next fault _ _ => exact fun h => fault.ofStack_ne_strayToken (Except.error.inj h)
  | _ => cases h

theorem evalPostfix_ne_strayToken {ts : List Token} (h : ∀ t ∈ ts, t.isPostfix) :
    evalPostfix symbols ts ≠ .error .strayToken := by
  intro he
  rcases error_of_bind_eq_error he with hrun | ⟨stack, -, honly⟩
  · obtain ⟨stack, t, ht, hs⟩ := exists_of_foldlM_eq_error hrun
    exact evalStep_ne_strayToken stack (h t ht) hs
  · unfold onlyValue at honly
    split at honly
    · split at honly <;> cases honly
    · next fault _ => exact fault.ofStack_ne_strayToken (Except.error.inj honly)

/-- **No expression fails for a token that makes no sense in a postfix list.** -/
theorem evaluate_ne_strayToken (expr : List Char) (symbols : SymbolTable) (size : Dimensions)
    {malformed : Malformed} (h : evaluate expr symbols size = .error malformed) :
    malformed.fault ≠ .strayToken := by
  unfold evaluate at h
  split at h
  · cases h
  · next fault hfault =>
    obtain rfl := Except.error.inj h
    rintro rfl
    unfold evalTokens at hfault
    split at hfault
    · cases hfault
    · rcases error_of_bind_eq_error hfault with hpost | ⟨out, hpost, heval⟩
      · exact toPostfix_ne_strayToken _ hpost
      · exact evalPostfix_ne_strayToken (isPostfix_of_toPostfix hpost) heval

end Values

end SketchPreview.Expr
