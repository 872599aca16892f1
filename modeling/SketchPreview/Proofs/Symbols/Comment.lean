import SketchPreview.Proofs.Expr.Pieces
import SketchPreview.Proofs.Search
import SketchPreview.SizeHint
import SketchPreview.Symbols.Define

/-!
# Comments behind a macro

What stands in front of a macro's expression is read in the same way whatever is put behind the
line, so a comment at the end of the line can only reach the run of characters that the expression
is taken from. A line comment is always cut off. A block comment is cut off too, unless the run goes
on into its text up to two strokes: those are taken for the beginning of a line comment, and what
stands between the two marks stays in the expression.

* `macroBody?`, `macro?_eq_some_iff`: a macro as its name and what its expression is taken from;
* `macroBody?_append`, `expressionOf_append`: texts put behind a line;
* `withoutComment_line`, `withoutComment_block`, `withoutComment_block_line`: where an expression
  ends;
* `Definition.Similar`, `Definitions.bind_eq_of_similar`: the blanks around an expression;
* **`comment_behind_macro`**: which comments leave a macro as it is;
* `block_comment_changes_macro`: one that does not.
-/

namespace SketchPreview.Symbols

open Text

/-! ## Reading from the front -/

section Front

variable {s rest : List Char} (t : List Char)

theorem takeWhile_dropWhile_append {p : Char → Bool} (h : s.dropWhile p ≠ []) :
    (s ++ t).takeWhile p = s.takeWhile p ∧ (s ++ t).dropWhile p = s.dropWhile p ++ t := by
  have hall : ∀ c ∈ s.takeWhile p, p c = true := List.all_eq_true.1 List.all_takeWhile
  have hstop : ∀ c ∈ (s.dropWhile p ++ t).head?, p c = false := by
    intro c hc
    rw [List.head?_append_of_ne_nil _ h] at hc
    have hhead := List.head?_dropWhile_not p s
    rw [Option.mem_def.1 hc] at hhead
    simpa using hhead
  have hcut := takeWhile_dropWhile_of_stop hall hstop
  rwa [← List.append_assoc, List.takeWhile_append_dropWhile] at hcut

theorem dropPrefix?_append_right {word : List Char} (h : dropPrefix? word s = some rest) :
    dropPrefix? word (s ++ t) = some (rest ++ t) := by
  rw [dropPrefix?_eq_some_iff.1 h, List.append_assoc]
  exact dropPrefix?_append_self word _

theorem dropPrefix?_trimStart_append {word : List Char} (hword : word ≠ [])
    (h : dropPrefix? word (trimStart s) = some rest) :
    dropPrefix? word (trimStart (s ++ t)) = some (rest ++ t) := by
  have hne : trimStart s ≠ [] := by
    rw [dropPrefix?_eq_some_iff.1 h]
    exact List.append_ne_nil_of_left_ne_nil hword rest
  rw [trimStart, (takeWhile_dropWhile_append t hne).2]
  exact dropPrefix?_append_right t h

theorem afterBlanks?_append (h : afterBlanks? s = some rest) (hne : rest ≠ []) :
    afterBlanks? (s ++ t) = some (rest ++ t) := by
  cases s with
  | nil => cases h
  | cons c s =>
    simp only [afterBlanks?, Option.ite_none_right_eq_some, Option.some.injEq] at h
    obtain ⟨hc, rfl⟩ := h
    rw [List.cons_append, afterBlanks?, if_pos hc, trimStart, (takeWhile_dropWhile_append t hne).2]
    rfl

theorem identifier?_append_right {name : List Char} (h : identifier? s = some (name, rest))
    (hne : rest ≠ []) : identifier? (s ++ t) = some (name, rest ++ t) := by
  cases s with
  | nil => cases h
  | cons c s =>
    simp only [identifier?, Option.ite_none_right_eq_some, Option.some.injEq, Prod.mk.injEq] at h
    obtain ⟨hc, rfl, rfl⟩ := h
    obtain ⟨htake, hdrop⟩ := takeWhile_dropWhile_append t hne
    rw [List.cons_append, identifier?, if_pos hc, htake, hdrop]

end Front

/-! ## A macro in its parts -/

/-- The name that a line defines as a macro, and the text that begins with its expression. -/
def macroBody? (line : List Char) : Option (List Char × List Char) := do
  let directive ← dropPrefix? ['#'] (trimStart line)
  let keyword ← dropPrefix? "define".toList (trimStart directive)
  let definition ← afterBlanks? keyword
  let (name, after) ← identifier? definition
  let body ← afterBlanks? after
  some (name, body)

/-- The expression at the front of a text. -/
def expressionOf (body : List Char) : List Char := withoutComment (body.takeWhile isMacroChar)

theorem macro?_eq_some_iff {line : List Char} {d : Definition} : macro? line = some d ↔
    ∃ body, macroBody? line = some (d.name, body) ∧ expressionOf body = d.expression ∧
      trim d.expression ≠ [] := by
  have hparts : macro? line = (macroBody? line).bind fun p =>
      if (trim (expressionOf p.2)).isEmpty then none else some ⟨p.1, expressionOf p.2⟩ := by
    simp only [macro?, macroBody?, expressionOf, bind, Option.bind_assoc, Option.bind_some]
    rfl
  rw [hparts, Option.bind_eq_some_iff]
  constructor
  · rintro ⟨⟨name, body⟩, hbody, h⟩
    simp only [Option.ite_none_left_eq_some, Option.some.injEq, List.isEmpty_iff] at h
    obtain ⟨hne, rfl⟩ := h
    exact ⟨body, hbody, rfl, hne⟩
  · rintro ⟨body, hbody, hexpression, hne⟩
    refine ⟨(d.name, body), hbody, ?_⟩
    rw [hexpression, if_neg (by simpa using hne)]

/-- **Text behind a line** is text behind the body of its macro. -/
theorem macroBody?_append {line name body : List Char} (h : macroBody? line = some (name, body))
    (hne : body ≠ []) (t : List Char) : macroBody? (line ++ t) = some (name, body ++ t) := by
  simp only [macroBody?, bind, Option.bind_eq_some_iff, Option.some.injEq] at h
  obtain ⟨directive, hdirective, keyword, hkeyword, definition, hdefinition, ⟨name', after⟩, hname,
    body', hbody, he⟩ := h
  cases he
  have hafter : after ≠ [] := by
    rintro rfl
    cases hbody
  have hfront : definition ≠ [] := by
    rintro rfl
    cases hname
  simp only [macroBody?, bind, dropPrefix?_trimStart_append t (List.cons_ne_nil _ _) hdirective,
    dropPrefix?_trimStart_append t (by decide) hkeyword, afterBlanks?_append t hdefinition hfront,
    identifier?_append_right t hname hafter, afterBlanks?_append t hbody hne, Option.bind_some]

theorem suffix_of_macroBody? {line name body : List Char}
    (h : macroBody? line = some (name, body)) : body <:+ line := by
  simp only [macroBody?, bind, Option.bind_eq_some_iff, Option.some.injEq] at h
  obtain ⟨directive, hdirective, keyword, hkeyword, definition, hdefinition, ⟨name', after⟩, hname,
    body', hbody, he⟩ := h
  cases he
  have hblanks {s rest : List Char} (h : afterBlanks? s = some rest) : rest <:+ s := by
    cases s with
    | nil => cases h
    | cons c s =>
      simp only [afterBlanks?, Option.ite_none_right_eq_some, Option.some.injEq] at h
      rw [← h.2]
      exact (List.dropWhile_suffix _).trans (List.suffix_cons c s)
  have hbegins {word s rest : List Char} (h : dropPrefix? word (trimStart s) = some rest) :
      rest <:+ s := by
    refine List.IsSuffix.trans ?_ (List.dropWhile_suffix isBlank)
    rw [← trimStart, dropPrefix?_eq_some_iff.1 h]
    exact List.suffix_append word rest
  have hafter : after <:+ definition := ⟨_, identifier?_append hname⟩
  exact (hblanks hbody).trans <| hafter.trans <| (hblanks hdefinition).trans <|
    (hbegins hkeyword).trans (hbegins hdirective)

/-! ## Where an expression ends -/

section Ends

variable {body : List Char}

theorem withoutComment_eq (s : List Char) :
    withoutComment s = ((before? lineMark s).or (before? openMark s)).getD s := rfl

theorem withoutComment_self (hline : ¬lineMark <:+: body) (hopen : ¬openMark <:+: body) :
    withoutComment body = body := by
  rw [withoutComment_eq, before?_eq_none_iff.2 hline, before?_eq_none_iff.2 hopen]
  rfl

theorem withoutComment_line {s : List Char} (h : ¬lineMark <:+: s ++ ['/']) (text : List Char) :
    withoutComment (s ++ lineMark ++ text) = s := by
  rw [withoutComment_eq, before?_append_word (by decide) h]
  rfl

theorem withoutComment_block {s text : List Char} (hopen : ¬openMark <:+: s ++ ['/'])
    (hline : ¬lineMark <:+: s ++ openMark ++ text) :
    withoutComment (s ++ openMark ++ text) = s := by
  rw [withoutComment_eq, before?_eq_none_iff.2 hline, before?_append_word (by decide) hopen]
  rfl

theorem lineMark_infix_iff {s text : List Char} :
    lineMark <:+: s ++ openMark ++ text ↔ lineMark <:+: s ++ ['/'] ∨ lineMark <:+: text := by
  have hsplit : s ++ openMark ++ text = s ++ ['/'] ++ '*' :: text := by simp [openMark]
  rw [hsplit]
  exact infix_append_cons_iff (by decide)

/-- Two strokes in a block comment are where the expression ends. -/
theorem withoutComment_block_line {s text : List Char} (hs : ¬lineMark <:+: s ++ ['/'])
    (htext : lineMark <:+: text) :
    ∃ inner, withoutComment (s ++ openMark ++ text) = s ++ openMark ++ inner := by
  cases hcut : cutAt? lineMark text with
  | none => exact absurd htext (cutAt?_eq_none_iff.1 hcut)
  | some p =>
    obtain ⟨inner, rest⟩ := p
    obtain ⟨rfl, hinner⟩ := (cutAt?_eq_some_iff (by decide)).1 hcut
    refine ⟨inner, ?_⟩
    have hfirst : ¬lineMark <:+: s ++ openMark ++ inner ++ ['/'] := by
      rw [List.append_assoc, lineMark_infix_iff, not_or]
      exact ⟨hs, hinner⟩
    have hjoin : s ++ openMark ++ (inner ++ lineMark ++ rest) =
        s ++ openMark ++ inner ++ lineMark ++ rest := by simp only [List.append_assoc]
    rw [hjoin]
    exact withoutComment_line hfirst rest

theorem not_infix_blank {mark : List Char} (hblank : ' ' ∉ mark) (hlength : 2 ≤ mark.length)
    (h : ¬mark <:+: body) : ¬mark <:+: body ++ [' '] ++ ['/'] := by
  rw [List.append_assoc, List.singleton_append, infix_append_cons_iff hblank, not_or]
  refine ⟨h, fun hholds => ?_⟩
  have hle := hholds.length_le
  rw [List.length_singleton] at hle
  omega

end Ends

/-! ## Expressions in front of a comment -/

section Behind

variable {body : List Char}

theorem expressionOf_append (h : ¬∀ c ∈ body, isMacroChar c = true) (t : List Char) :
    expressionOf (body ++ t) = expressionOf body := by
  have hne : body.dropWhile isMacroChar ≠ [] := fun hnil => h (List.dropWhile_eq_nil_iff.1 hnil)
  rw [expressionOf, (takeWhile_dropWhile_append t hne).1]
  rfl

theorem expressionOf_self (h : ∀ c ∈ body, isMacroChar c = true) (hline : ¬lineMark <:+: body)
    (hopen : ¬openMark <:+: body) : expressionOf body = body := by
  rw [expressionOf, List.takeWhile_eq_self_iff.2 h, withoutComment_self hline hopen]

theorem expressionOf_line (h : ∀ c ∈ body, isMacroChar c = true) (hline : ¬lineMark <:+: body)
    (text : List Char) : expressionOf (body ++ ' ' :: lineMark ++ text) = body ++ [' '] := by
  have hrun : (body ++ ' ' :: lineMark ++ text).takeWhile isMacroChar =
      body ++ [' '] ++ lineMark ++ text.takeWhile isMacroChar := by
    rw [List.append_assoc, List.takeWhile_append_of_pos h]
    simp [lineMark, isMacroChar]
  rw [expressionOf, hrun]
  exact withoutComment_line (not_infix_blank (by decide) (by decide) hline) _

theorem takeWhile_block (h : ∀ c ∈ body, isMacroChar c = true) (text : List Char) :
    (body ++ ' ' :: openMark ++ text ++ closeMark).takeWhile isMacroChar =
      body ++ [' '] ++ openMark ++ (text ++ closeMark).takeWhile isMacroChar := by
  rw [List.append_assoc, List.append_assoc, List.takeWhile_append_of_pos h]
  simp [openMark, isMacroChar]

theorem lineMark_infix_takeWhile_iff {text : List Char} :
    lineMark <:+: (text ++ closeMark).takeWhile isMacroChar ↔
      lineMark <:+: text.takeWhile isMacroChar := by
  by_cases htext : ∀ c ∈ text, isMacroChar c = true
  · have hclose : closeMark.takeWhile isMacroChar = ['*', '/'] := by decide
    rw [List.takeWhile_append_of_pos htext, List.takeWhile_eq_self_iff.2 htext, hclose,
      infix_append_cons_iff (by decide)]
    exact or_iff_left (by decide)
  · have hne : text.dropWhile isMacroChar ≠ [] :=
      fun hnil => htext (List.dropWhile_eq_nil_iff.1 hnil)
    rw [(takeWhile_dropWhile_append closeMark hne).1]

theorem trim_expressionOf_line (hline : ¬lineMark <:+: body) (hopen : ¬openMark <:+: body)
    (text : List Char) :
    trim (expressionOf (body ++ ' ' :: lineMark ++ text)) = trim (expressionOf body) := by
  by_cases hall : ∀ c ∈ body, isMacroChar c = true
  · rw [expressionOf_line hall hline, expressionOf_self hall hline hopen]
    exact trim_append (List.forall_mem_singleton.2 rfl) body
  · rw [List.append_assoc, expressionOf_append hall]

/-- **The expression in front of a block comment** goes on into the comment just when two strokes
end it there. -/
theorem trim_expressionOf_block_iff (hline : ¬lineMark <:+: body) (hopen : ¬openMark <:+: body)
    (text : List Char) :
    trim (expressionOf (body ++ ' ' :: openMark ++ text ++ closeMark)) = trim (expressionOf body) ↔
      ¬((∀ c ∈ body, isMacroChar c = true) ∧ lineMark <:+: text.takeWhile isMacroChar) := by
  by_cases hall : ∀ c ∈ body, isMacroChar c = true
  · have hlineFront := not_infix_blank (by decide) (by decide) hline
    rw [and_iff_right hall, ← lineMark_infix_takeWhile_iff, expressionOf_self hall hline hopen,
      expressionOf, takeWhile_block hall]
    constructor
    · intro hsame hholds
      obtain ⟨inner, hinner⟩ := withoutComment_block_line hlineFront hholds
      -- the opening mark would be in the body
      have hmark : ∀ c ∈ openMark, isBlank c = false := List.forall_iff_forall_mem.1 (by decide)
      have hinside : openMark <:+: trim (body ++ [' '] ++ openMark ++ inner) :=
        (infix_trim_iff hmark (by decide)).2 (List.infix_append _ _ _)
      rw [← hinner, hsame, infix_trim_iff hmark (by decide)] at hinside
      exact hopen hinside
    · intro hholds
      have hnoLine : ¬lineMark <:+: body ++ [' '] ++ openMark ++
          (text ++ closeMark).takeWhile isMacroChar := by
        rw [lineMark_infix_iff, not_or]
        exact ⟨hlineFront, hholds⟩
      rw [withoutComment_block (not_infix_blank (by decide) (by decide) hopen) hnoLine]
      exact trim_append (List.forall_mem_singleton.2 rfl) body
  · rw [List.append_assoc, List.append_assoc, expressionOf_append hall]
    exact iff_of_true rfl fun hnot => hall hnot.1

end Behind

/-! ## Blanks around an expression -/

/-- Two definitions of one name whose expressions differ in the blanks around them at most. -/
def Definition.Similar (d d' : Definition) : Prop :=
  d'.name = d.name ∧ trim d'.expression = trim d.expression

open SketchPreview.Expr in
theorem Definitions.bind_eq_of_similar {d d' : Definition} (h : d.Similar d') (ds : Definitions)
    (reportUnknown : Bool) (size : Dimensions) (n : Nat) :
    ds.bind reportUnknown size n d' = ds.bind reportUnknown size n d := by
  obtain ⟨name, expression⟩ := d
  obtain ⟨name', expression'⟩ := d'
  obtain ⟨rfl, htrim⟩ := h
  dsimp only at htrim
  have hlex : lex expression' = lex expression := by rw [← lex_trim, htrim, lex_trim]
  simp only [Definitions.bind, evaluate, hlex, undefinedValue, htrim]
  cases evalTokens ds.table (collapseAccessors size (lex expression)) with
  | ok value => rfl
  | error fault => simp only [Malformed.diagnostic, Malformed.detail, htrim]

/-- A text behind a line leaves its macro as it is just when the expression stays the same, but for
the blanks around it. -/
theorem exists_similar_append_iff {line body : List Char} {d : Definition}
    (hbody : macroBody? line = some (d.name, body)) (hexpression : expressionOf body = d.expression)
    (htrim : trim d.expression ≠ []) (t : List Char) :
    (∃ d', macro? (line ++ t) = some d' ∧ d.Similar d') ↔
      trim (expressionOf (body ++ t)) = trim (expressionOf body) := by
  have hne : body ≠ [] := by
    rintro rfl
    rw [← hexpression] at htrim
    exact htrim rfl
  have happend := macroBody?_append hbody hne t
  rw [hexpression]
  constructor
  · rintro ⟨d', hd', -, hsame⟩
    obtain ⟨body', hbody', hexpression', -⟩ := macro?_eq_some_iff.1 hd'
    obtain ⟨-, rfl⟩ := Prod.mk.inj (Option.some.inj (happend.symm.trans hbody'))
    rw [hexpression', hsame]
  · intro hsame
    refine ⟨⟨d.name, expressionOf (body ++ t)⟩, ?_, rfl, hsame⟩
    exact macro?_eq_some_iff.2 ⟨body ++ t, happend, rfl, hsame ▸ htrim⟩

/-! ## Comments -/

/-- **A comment behind a macro.** Put behind a line that holds no comment yet, a line comment leaves
the macro of the line as it is. So does a block comment, unless its text is read on as a part of the
expression and holds two strokes there. Macros that differ in the blanks around their expressions
are bound in the same way. -/
theorem comment_behind_macro {line : List Char} {d : Definition} (h : macro? line = some d)
    (hline : ¬lineMark <:+: line) (hopen : ¬openMark <:+: line) :
    ∃ body, macroBody? line = some (d.name, body) ∧
      (∀ text, ∃ d', macro? (line ++ ' ' :: lineMark ++ text) = some d' ∧ d.Similar d') ∧
      (∀ text, (∃ d', macro? (line ++ ' ' :: openMark ++ text ++ closeMark) = some d' ∧
          d.Similar d') ↔
        ¬((∀ c ∈ body, isMacroChar c = true) ∧ lineMark <:+: text.takeWhile isMacroChar)) ∧
      ∀ d', d.Similar d' → ∀ (ds : Definitions) reportUnknown size n,
        ds.bind reportUnknown size n d' = ds.bind reportUnknown size n d := by
  obtain ⟨body, hbody, hexpression, htrim⟩ := macro?_eq_some_iff.1 h
  have hsuffix := (suffix_of_macroBody? hbody).isInfix
  have hnoLine : ¬lineMark <:+: body := fun hholds => hline (hholds.trans hsuffix)
  have hnoOpen : ¬openMark <:+: body := fun hholds => hopen (hholds.trans hsuffix)
  have hsimilar := exists_similar_append_iff hbody hexpression htrim
  refine ⟨body, hbody, fun text => ?_, fun text => ?_, fun d' hd' =>
    Definitions.bind_eq_of_similar hd'⟩
  · rw [List.append_assoc, hsimilar, ← List.append_assoc]
    exact trim_expressionOf_line hnoLine hnoOpen text
  · rw [List.append_assoc, List.append_assoc, hsimilar, ← List.append_assoc, ← List.append_assoc]
    exact trim_expressionOf_block_iff hnoLine hnoOpen text

/-- A width with a comment of either kind behind it. -/
theorem comment_behind_macro_width :
    let line := "#define W 128".toList
    let d : Definition := ⟨"W".toList, "128".toList⟩
    macro? line = some d ∧ ¬lineMark <:+: line ∧ ¬openMark <:+: line ∧
      (∃ d', macro? "#define W 128 // of /* the panel".toList = some d' ∧ d.Similar d') ∧
      ∃ d', macro? "#define W 128 /* 2 * 64 */".toList = some d' ∧ d.Similar d' := by
  intro line d
  have h : macro? line = some d := by decide
  have hline : ¬lineMark <:+: line := by decide
  have hopen : ¬openMark <:+: line := by decide
  obtain ⟨body, -, hlineComment, hblockComment, -⟩ := comment_behind_macro h hline hopen
  refine ⟨h, hline, hopen, hlineComment " of /* the panel".toList, ?_⟩
  exact (hblockComment " 2 * 64 ".toList).2 fun hnot => absurd hnot.2 (by decide)

open SketchPreview.Expr in
/-- A block comment with two strokes in its text: the macro is accepted without it and has a value,
and with it the expression goes on into the comment and has none. -/
theorem block_comment_changes_macro :
    let line := "#define W 128".toList
    let text := " px // wide ".toList
    let commented : Definition := ⟨"W".toList, "128 /* px ".toList⟩
    macro? line = some ⟨"W".toList, "128".toList⟩ ∧ ¬lineMark <:+: line ∧ ¬openMark <:+: line ∧
      '\n' ∉ text ∧ ¬closeMark <:+: text ∧
      macro? (line ++ ' ' :: openMark ++ text ++ closeMark) = some commented ∧
      trim commented.expression ≠ trim "128".toList ∧
      (evaluate "128".toList .empty .standard).toOption = some 128 ∧
      (evaluate commented.expression .empty .standard).toOption = none := by
  decide +kernel

end SketchPreview.Symbols
