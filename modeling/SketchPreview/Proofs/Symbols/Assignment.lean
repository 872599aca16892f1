import SketchPreview.Proofs.Expr.Pieces
import SketchPreview.Proofs.Search
import SketchPreview.Proofs.WordSearch
import SketchPreview.Symbols.Definition

/-!
# Constants

A line defines a constant where a word is followed by a sign of equality and, behind it, by a
semicolon; the leftmost such word counts. The sign may not be the first of two, and some text has to
stand between it and the first semicolon behind it. A sign that belongs to a longer operator is
never found: either a second one follows it, or the character in front of it is neither blank nor
the end of a name.

* `Assigns`: a text that begins with such a word, and what it defines;
* `constantHere?_eq_some_iff`: what is read at the front of a text;
* `AssignsAt`, `InOperator`, `AssignsAt.exists_not_inOperator`: places of a line;
* **`constant_leftmost`**: the constant of a line.
-/

namespace SketchPreview.Symbols

open SketchPreview.Expr Text

/-- A text that begins with a name, a sign of equality behind it and the value of the name up to the
next semicolon. -/
inductive Assigns : List Char → Definition → Prop where
  | intro {c : Char} {run blanks value behind : List Char} (first : isWordStart c = true)
      (longest : IsRun isWordChar run (blanks ++ '=' :: (value ++ ';' :: behind)))
      (blank : ∀ b ∈ blanks, isBlank b = true) (single : value.head? ≠ some '=')
      (nonempty : value ≠ []) (stop : ';' ∉ value) :
      Assigns (c :: run ++ (blanks ++ '=' :: (value ++ ';' :: behind))) ⟨c :: run, trimStart value⟩

/-! ## What is read at the front of a text -/

theorem identifier?_eq_some_iff {s name rest : List Char} : identifier? s = some (name, rest) ↔
    ∃ c run, isWordStart c = true ∧ IsRun isWordChar run rest ∧ name = c :: run ∧
      s = name ++ rest := by
  constructor
  · intro h
    have hs := identifier?_append h
    cases s with
    | nil => cases h
    | cons c s =>
      simp only [identifier?, Option.ite_none_right_eq_some, Option.some.injEq, Prod.mk.injEq] at h
      obtain ⟨hc, rfl, rfl⟩ := h
      exact ⟨c, _, hc, isRun_takeWhile isWordChar s, rfl, hs.symm⟩
  · rintro ⟨c, run, hc, hrun, rfl, rfl⟩
    rw [List.cons_append, identifier?, if_pos hc, hrun.takeWhile_eq, hrun.dropWhile_eq]

theorem assigned?_eq_some_iff {s expression : List Char} : assigned? s = some expression ↔
    ∃ blanks value behind, (∀ b ∈ blanks, isBlank b = true) ∧ value.head? ≠ some '=' ∧
      value ≠ [] ∧ ';' ∉ value ∧ expression = trimStart value ∧
        s = blanks ++ '=' :: (value ++ ';' :: behind) := by
  have hsign {rest : List Char} : dropPrefix? ['='] (trimStart s) = some rest ↔
      ∃ blanks, (∀ b ∈ blanks, isBlank b = true) ∧ s = blanks ++ '=' :: rest :=
    dropPrefix?_eq_some_iff.trans (trimStart_eq_cons_iff (by decide))
  have hsingle {value behind : List Char} (hne : value ≠ []) :
      startsWith (value ++ ';' :: behind) ['='] = true ↔ value.head? = some '=' := by
    obtain ⟨a, value, rfl⟩ := List.exists_cons_of_ne_nil hne
    rw [startsWith_iff, List.cons_append, List.cons_prefix_cons]
    simp [eq_comm]
  simp only [assigned?, bind, Option.bind_eq_some_iff, hsign, Option.ite_none_left_eq_some,
    before?_singleton_eq_some_iff, Option.some.injEq, List.isEmpty_iff]
  constructor
  · rintro ⟨_, ⟨blanks, hblanks, rfl⟩, hequal, value, ⟨hstop, behind, rfl⟩, hne, rfl⟩
    refine ⟨blanks, value, behind, hblanks, fun h => ?_, hne, hstop, rfl, rfl⟩
    exact hequal ((hsingle hne).2 h)
  · rintro ⟨blanks, value, behind, hblanks, hequal, hne, hstop, rfl, rfl⟩
    exact ⟨_, ⟨blanks, hblanks, rfl⟩, fun h => hequal ((hsingle hne).1 h), value,
      ⟨hstop, behind, rfl⟩, hne, rfl⟩

/-- **What is read at the front of a text.** -/
theorem constantHere?_eq_some_iff {s : List Char} {d : Definition} :
    constantHere? s = some d ↔ Assigns s d := by
  simp only [constantHere?, bind, Option.bind_eq_some_iff, Prod.exists, identifier?_eq_some_iff,
    assigned?_eq_some_iff, Option.some.injEq]
  constructor
  · rintro ⟨name, rest, ⟨c, run, hc, hrun, rfl, rfl⟩, _,
      ⟨blanks, value, behind, hblanks, hequal, hne, hstop, rfl, rfl⟩, rfl⟩
    exact .intro hc hrun hblanks hequal hne hstop
  · rintro ⟨first, longest, blank, single, nonempty, stop⟩
    exact ⟨_, _, ⟨_, _, first, longest, rfl, rfl⟩, _,
      ⟨_, _, _, blank, single, nonempty, stop, rfl, rfl⟩, rfl⟩

/-! ## Places of a line -/

/-- The word that begins at place `i` of a line defines a constant. -/
def AssignsAt (text : List Char) (i : ℕ) (d : Definition) : Prop :=
  BeginsWord text i ∧ Assigns (text.drop i) d

/-- The sign of equality at place `k` is the first one of two, or a character in front of it makes
it a part of a comparison or of a compound assignment. -/
def InOperator (text : List Char) (k : ℕ) : Prop :=
  text[k + 1]? = some '=' ∨ (previous? text k).any ("=!<>+-*/%&|^".toList.contains ·) = true

instance (text : List Char) (k : ℕ) : Decidable (InOperator text k) :=
  inferInstanceAs (Decidable (_ ∨ _))

theorem constantFrom?_eq_firstWord? (previous : Option Char) (s : List Char) :
    constantFrom? previous s = firstWord? constantHere? (previous.any isWordChar) s := by
  induction s generalizing previous with
  | nil => rfl
  | cons c rest ih => rw [constantFrom?, firstWord?, ih, Option.any_some]

theorem Assigns.exists_sign {s : List Char} {d : Definition} (h : Assigns s d) :
    ∃ front last behind, s = front ++ last :: '=' :: behind ∧
      (isWordChar last = true ∨ isBlank last = true) ∧ behind.head? ≠ some '=' := by
  cases h with
  | @intro c run blanks value behind first longest blank single nonempty stop =>
    have hall : ∀ a ∈ c :: run ++ blanks, isWordChar a = true ∨ isBlank a = true := by
      intro a ha
      rcases List.mem_append.1 ha with ha | ha
      · rcases List.mem_cons.1 ha with rfl | ha
        · exact .inl (isWordChar_iff.2 (.inl first))
        · exact .inl (longest.all a ha)
      · exact .inr (blank a ha)
    obtain ⟨front, last, hfront⟩ : ∃ front last, c :: run ++ blanks = front ++ [last] :=
      ⟨_, _, (List.dropLast_append_getLast (by simp)).symm⟩
    refine ⟨front, last, value ++ ';' :: behind, ?_, ?_, ?_⟩
    · rw [← List.append_assoc, hfront, List.append_assoc, List.singleton_append]
    · exact hall last (hfront ▸ List.mem_append_right front List.mem_cons_self)
    · rwa [List.head?_append_of_ne_nil _ nonempty]

/-- **The sign of an assignment** belongs to no longer operator. -/
theorem AssignsAt.exists_not_inOperator {text : List Char} {i : ℕ} {d : Definition}
    (h : AssignsAt text i d) : ∃ k < text.length, text[k]? = some '=' ∧ ¬InOperator text k := by
  obtain ⟨front, last, behind, hs, hlast, hbehind⟩ := h.2.exists_sign
  have hline : text = text.take i ++ front ++ last :: '=' :: behind := by
    rw [List.append_assoc, ← hs, List.take_append_drop]
  generalize text.take i ++ front = before at hline
  subst hline
  refine ⟨before.length + 1, by simp, by simp, ?_⟩
  rintro (hnext | hoperator)
  · rw [Nat.add_assoc, List.getElem?_append_right (Nat.le_add_right _ _),
      Nat.add_sub_cancel_left] at hnext
    exact hbehind (List.head?_eq_getElem?.trans hnext)
  · replace hoperator : last ∈ "=!<>+-*/%&|^".toList := by simpa [previous?] using hoperator
    have hnot : ∀ a ∈ "=!<>+-*/%&|^".toList, isWordChar a = false ∧ isBlank a = false :=
      List.forall_iff_forall_mem.1 (by decide)
    simp [hnot last hoperator] at hlast

/-- **The constant of a line** is that of the leftmost word that is assigned a value, and there is
one just when there is such a word. A line in which each sign of equality belongs to a comparison or
to a compound assignment has none. -/
theorem constant_leftmost (text : List Char) :
    (∀ d, constant? text = some d ↔ ∃ i, IsFirst (AssignsAt text) i d) ∧
      ((constant? text).isSome ↔ ∃ i d, AssignsAt text i d) ∧
      ((∀ k < text.length, text[k]? = some '=' → InOperator text k) → constant? text = none) := by
  have hsome (d : Definition) : constant? text = some d ↔ ∃ i, IsFirst (AssignsAt text) i d := by
    rw [constant?, constantFrom?_eq_firstWord?]
    exact firstWord?_false_eq_some_iff (fun _ _ => constantHere?_eq_some_iff) rfl
  have hany : (constant? text).isSome ↔ ∃ i d, AssignsAt text i d := by
    rw [Option.isSome_iff_exists]
    constructor
    · rintro ⟨d, hd⟩
      obtain ⟨i, hi, -⟩ := (hsome d).1 hd
      exact ⟨i, d, hi⟩
    · intro h
      obtain ⟨i, d, hfirst⟩ := exists_isFirst_of_exists h
      exact ⟨d, (hsome d).2 ⟨i, hfirst⟩⟩
  refine ⟨hsome, hany, fun hoperators => ?_⟩
  rw [← Option.not_isSome_iff_eq_none, hany]
  rintro ⟨i, d, h⟩
  obtain ⟨k, hk, hsign, hnot⟩ := h.exists_not_inOperator
  exact hnot (hoperators k hk hsign)

/-- Comparisons of all kinds and compound assignments, with semicolons behind them. -/
theorem constant_leftmost_operators :
    let line := "for (i += 2; i <= n; j <<= 1) if (a == b) c = d != e;".toList
    let operators := "for (i += 2; i <= n; j <<= 1) if (a == b && c != d) e |= f;".toList
    constant? line = some ⟨"c".toList, "d != e".toList⟩ ∧
      (∀ k < operators.length, operators[k]? = some '=' → InOperator operators k) ∧
      constant? operators = none := by
  intro line operators
  have h : ∀ k < operators.length, operators[k]? = some '=' → InOperator operators k := by
    decide +kernel
  exact ⟨by decide +kernel, h, (constant_leftmost operators).2.2 h⟩

end SketchPreview.Symbols
