import SketchPreview.Proofs.Expr.Grammar
import SketchPreview.Proofs.Text

/-!
# The yard reads expressions

While an expression is read, a first part of its postfix form is put out and the remaining part
waits on top of the stack. What waits are operators of the expression's own rank, so the next
operator of that rank, a closing parenthesis or the end lets all of them out.

* `items_popWhile`, `push?_of_lt`, `pop?_of_items`: the stack through its items;
* `step_operator`, `step_leftParen`, `step_rightParen`: one token;
* `Rank.Holds`, `Yard.Blocks`, `Yard.Reads`: the invariant of reading an expression;
* `readable_of_derives`: every derived token list is read;
* **`toPostfix_of_derives`**: a sentence within the limit becomes the postfix form of its tree.
-/

namespace SketchPreview.Expr

/-! ## The stack through its items -/

namespace Stack

variable {α : Type}

theorem items_popWhile (p : α → Bool) (s : Stack α) :
    (s.popWhile p).2.items = s.items.dropWhile p := rfl

theorem push?_of_lt {s : Stack α} (a : α) (h : s.items.length < limit) :
    s.push? a = .ok (s.push a) := push?_eq_ok_iff.2 ⟨h, rfl⟩

theorem pop?_of_items {s : Stack α} {a : α} {rest : List α} (h : s.items = a :: rest) :
    ∃ t, s.pop? = .ok (a, t) ∧ t.items = rest := by
  obtain ⟨items, depth, hd⟩ := s
  subst h
  exact ⟨_, rfl, rfl⟩

end Stack

/-! ## One token -/

namespace Yard

theorem output_release (y : Yard) (p : Token → Bool) :
    (y.release p).output = (y.waiting.items.takeWhile p).reverse ++ y.output := by
  simp only [release, Stack.popWhile, List.reverseAux_eq]

theorem waiting_release (y : Yard) (p : Token → Bool) :
    (y.release p).waiting.items = y.waiting.items.dropWhile p := Stack.items_popWhile p y.waiting

theorem wait_of_lt {y : Yard} (t : Token) (h : y.waiting.items.length < Stack.limit) :
    y.wait t = .ok { y with waiting := y.waiting.push t } := by
  rw [wait, Stack.push?_of_lt t h]

theorem step_operator {y : Yard} {op : Operator} {pending rest : List Token}
    (hw : y.waiting.items = pending ++ rest) (hp : ∀ t ∈ pending, yieldsTo op t)
    (hr : ∀ t ∈ rest.head?, yieldsTo op t = false) (hl : rest.length < Stack.limit) :
    ∃ y', y.step (.operator op) = .ok y' ∧ y'.output = pending.reverse ++ y.output ∧
      y'.waiting.items = .operator op :: rest := by
  obtain ⟨htake, hdrop⟩ := takeWhile_dropWhile_of_stop hp hr
  have hrest : (y.release (yieldsTo op)).waiting.items = rest := by
    rw [waiting_release, hw, hdrop]
  have hwait := wait_of_lt (y := y.release (yieldsTo op)) (.operator op) (by rw [hrest]; exact hl)
  refine ⟨_, hwait, ?_, ?_⟩
  · change (y.release (yieldsTo op)).output = _
    rw [output_release, hw, htake]
  · change _ :: (y.release (yieldsTo op)).waiting.items = _
    rw [hrest]

theorem step_leftParen {y : Yard} (h : y.waiting.items.length < Stack.limit) :
    ∃ y', y.step .leftParen = .ok y' ∧ y'.output = y.output ∧
      y'.waiting.items = .leftParen :: y.waiting.items :=
  ⟨_, wait_of_lt .leftParen h, rfl, rfl⟩

theorem step_rightParen {y : Yard} {pending rest : List Token}
    (hw : y.waiting.items = pending ++ .leftParen :: rest) (hp : ∀ t ∈ pending, t ≠ .leftParen) :
    ∃ y', y.step .rightParen = .ok y' ∧ y'.output = pending.reverse ++ y.output ∧
      y'.waiting.items = rest := by
  obtain ⟨htake, hdrop⟩ := takeWhile_dropWhile_of_stop (p := fun t : Token => t ≠ .leftParen)
    (l := pending) (r := .leftParen :: rest) (by simpa using hp) (by simp)
  have hitems : (y.release (· ≠ .leftParen)).waiting.items = .leftParen :: rest := by
    rw [waiting_release, hw, hdrop]
  obtain ⟨w, hpop, hrest⟩ := Stack.pop?_of_items hitems
  refine ⟨{ y.release (· ≠ .leftParen) with waiting := w }, ?_, ?_, hrest⟩
  · simp only [step, hpop]
  · change (y.release (· ≠ .leftParen)).output = _
    rw [output_release, hw, htake]

end Yard

/-! ## Reading an expression -/

/-- The operators that may wait while an expression of a rank is read. -/
def Rank.Holds : Rank → Operator → Prop
  | factor, _ => False
  | term, op => op = .times ∨ op = .divide
  | sum, _ => True

namespace Yard

/-- No operator that an expression of rank `r` holds lets out the token on top. -/
def Blocks (r : Rank) (waiting : List Token) : Prop :=
  ∀ op, r.Holds op → ∀ t ∈ waiting.head?, yieldsTo op t = false

/-- The yard `y'` is `y` after an expression of rank `r`: of the postfix form a first part is put
out, and the other part, operators of that rank, waits on top. -/
def Reads (r : Rank) (e : Tree) (y y' : Yard) : Prop :=
  ∃ emitted pending, e.postfixed = emitted ++ pending ∧
    y'.output = emitted.reverse ++ y.output ∧ y'.waiting.items = pending ++ y.waiting.items ∧
    ∀ t ∈ pending, ∃ op, t = .operator op ∧ r.Holds op

/-- From every yard with room enough, and whose top blocks the rank, the tokens are read. -/
def Readable (r : Rank) (ts : List Token) (e : Tree) : Prop :=
  ∀ y : Yard, y.waiting.items.length + ts.length ≤ Stack.limit → Blocks r y.waiting.items →
    ∃ y', ts.foldlM step y = .ok y' ∧ Reads r e y y'

theorem Reads.mono {r q : Rank} {e : Tree} {y y' : Yard} (h : ∀ op, r.Holds op → q.Holds op)
    (hr : Reads r e y y') : Reads q e y y' := by
  obtain ⟨emitted, pending, he, ho, hw, hp⟩ := hr
  refine ⟨emitted, pending, he, ho, hw, fun t ht => ?_⟩
  obtain ⟨op, rfl, hop⟩ := hp t ht
  exact ⟨op, rfl, h op hop⟩

theorem Readable.mono {r q : Rank} {ts : List Token} {e : Tree} (h : ∀ op, r.Holds op → q.Holds op)
    (hr : Readable r ts e) : Readable q ts e := by
  intro y hlen hblocks
  obtain ⟨y', hrun, hreads⟩ := hr y hlen fun op hop => hblocks op (h op hop)
  exact ⟨y', hrun, hreads.mono h⟩

/-- **An operator between two expressions.** It lets out what the left one holds, since that yields
to it, and nothing below; then it waits under what the right one holds, which does not let it
out. -/
theorem Readable.node {r q : Rank} {ts us : List Token} {e f : Tree} {op : Operator}
    (hts : Readable r ts e) (hus : Readable q us f) (hop : r.Holds op)
    (hout : ∀ o, r.Holds o → yieldsTo op (.operator o))
    (hin : ∀ o, q.Holds o → yieldsTo o (.operator op) = false)
    (hqr : ∀ o, q.Holds o → r.Holds o) :
    Readable r (ts ++ .operator op :: us) (.node op e f) := by
  intro y hlen hblocks
  rw [List.length_append, List.length_cons] at hlen
  obtain ⟨y₁, hrun₁, emitted₁, pending₁, he₁, ho₁, hw₁, hp₁⟩ := hts y (by omega) hblocks
  have hyield : ∀ t ∈ pending₁, yieldsTo op t := by
    intro t ht
    obtain ⟨o, rfl, ho⟩ := hp₁ t ht
    exact hout o ho
  obtain ⟨y₂, hstep, ho₂, hw₂⟩ := step_operator hw₁ hyield (hblocks op hop) (by omega)
  have hblocks₂ : Blocks q y₂.waiting.items := by
    intro o ho t ht
    rw [hw₂] at ht
    obtain rfl : Token.operator op = t := Option.some.inj ht
    exact hin o ho
  obtain ⟨y₃, hrun₃, emitted₃, pending₃, he₃, ho₃, hw₃, hp₃⟩ :=
    hus y₂ (by rw [hw₂, List.length_cons]; omega) hblocks₂
  refine ⟨y₃, ?_, e.postfixed ++ emitted₃, pending₃ ++ [.operator op], ?_, ?_, ?_, ?_⟩
  · rw [List.foldlM_append, hrun₁]
    change (Token.operator op :: us).foldlM step y₁ = _
    rw [List.foldlM_cons, hstep]
    exact hrun₃
  · simp only [Tree.postfixed, he₃, List.append_assoc]
  · simp only [ho₃, ho₂, ho₁, he₁, List.reverse_append, List.append_assoc]
  · simp only [hw₃, hw₂, List.append_assoc, List.singleton_append]
  · intro t ht
    rcases List.mem_append.1 ht with ht | ht
    · obtain ⟨o, rfl, ho⟩ := hp₃ t ht
      exact ⟨o, rfl, hqr o ho⟩
    · exact ⟨op, List.mem_singleton.1 ht, hop⟩

theorem Readable.operand {t : Token} {e : Tree} (hstep : ∀ y : Yard, y.step t = .ok (y.put t))
    (he : e.postfixed = [t]) : Readable .factor [t] e := by
  intro y _ _
  refine ⟨y.put t, ?_, [t], [], by simp [he], rfl, rfl, by simp⟩
  rw [List.foldlM_cons, hstep]
  rfl

/-- A sum in parentheses leaves nothing waiting. -/
theorem Readable.paren {ts : List Token} {e : Tree} (h : Readable .sum ts e) :
    Readable .factor (.leftParen :: (ts ++ [.rightParen])) e := by
  intro y hlen _
  simp only [List.length_cons, List.length_append, List.length_nil] at hlen
  obtain ⟨y₁, hopen, ho₁, hw₁⟩ := step_leftParen (y := y) (by omega)
  have hblocks : Blocks .sum y₁.waiting.items := by
    intro o _ t ht
    rw [hw₁] at ht
    obtain rfl : Token.leftParen = t := Option.some.inj ht
    rfl
  obtain ⟨y₂, hrun, emitted, pending, he, ho₂, hw₂, hp⟩ :=
    h y₁ (by rw [hw₁, List.length_cons]; omega) hblocks
  have hne : ∀ t ∈ pending, t ≠ .leftParen := by
    intro t ht
    obtain ⟨o, rfl, -⟩ := hp t ht
    exact Token.noConfusion
  obtain ⟨y₃, hclose, ho₃, hw₃⟩ := step_rightParen (by rw [hw₂, hw₁]) hne
  refine ⟨y₃, ?_, e.postfixed, [], by simp, ?_, by simp [hw₃], by simp⟩
  · rw [List.foldlM_cons, hopen]
    change (ts ++ [Token.rightParen]).foldlM step y₁ = _
    rw [List.foldlM_append, hrun]
    change [Token.rightParen].foldlM step y₂ = _
    rw [List.foldlM_cons, hclose]
    rfl
  · simp only [ho₃, ho₂, ho₁, he, List.reverse_append, List.append_assoc]

/-- **Every derived token list is read**, by induction on its derivation. -/
theorem readable_of_derives {r : Rank} {ts : List Token} {e : Tree} (h : Derives r ts e) :
    Readable r ts e := by
  induction h with
  | number v => exact .operand (fun _ => rfl) rfl
  | name s => exact .operand (fun _ => rfl) rfl
  | paren _ ih => exact ih.paren
  | ofFactor _ ih => exact ih.mono fun _ => False.elim
  | ofTerm _ ih => exact ih.mono fun _ _ => trivial
  | product _ tier _ ih₁ ih₂ =>
    refine ih₁.node ih₂ tier (fun o ho => ?_) (fun _ => False.elim) fun _ => False.elim
    rcases tier with rfl | rfl <;> rcases ho with rfl | rfl <;> rfl
  | sum _ tier _ ih₁ ih₂ =>
    refine ih₁.node ih₂ trivial (fun o _ => ?_) (fun o ho => ?_) fun _ _ => trivial
    · rcases tier with rfl | rfl <;> cases o <;> rfl
    · rcases tier with rfl | rfl <;> rcases ho with rfl | rfl <;> rfl

end Yard

theorem toPostfix_of_foldlM {ts : List Token} {y : Yard}
    (hrun : ts.foldlM Yard.step .start = .ok y) (hleft : .leftParen ∉ y.waiting.items) :
    toPostfix ts = .ok (y.output.reverse ++ y.waiting.items) := by
  have hclosed : y.waiting.items.contains .leftParen = false := by
    rw [Bool.eq_false_iff, ne_eq, List.contains_iff_mem]
    exact hleft
  rw [toPostfix, hrun]
  change y.finish = _
  rw [Yard.finish, hclosed]
  rfl

/-- **A sentence within the limit becomes the postfix form of its tree.** -/
theorem toPostfix_of_derives {ts : List Token} {e : Tree} (h : Derives .sum ts e)
    (hlen : ts.length ≤ Stack.limit) : toPostfix ts = .ok e.postfixed := by
  have hblocks : Yard.Blocks .sum Yard.start.waiting.items := fun _ _ t ht => by cases ht
  obtain ⟨y, hrun, emitted, pending, he, ho, hw, hp⟩ :=
    Yard.readable_of_derives h .start (by simpa [Yard.start, Stack.empty] using hlen) hblocks
  have hw : y.waiting.items = pending := hw.trans (List.append_nil _)
  have ho : y.output = emitted.reverse := ho.trans (List.append_nil _)
  have hleft : .leftParen ∉ y.waiting.items := by
    rw [hw]
    intro hmem
    obtain ⟨o, ht, -⟩ := hp _ hmem
    exact Token.noConfusion ht
  rw [toPostfix_of_foldlM hrun hleft, hw, ho, he, List.reverse_reverse]

end SketchPreview.Expr
