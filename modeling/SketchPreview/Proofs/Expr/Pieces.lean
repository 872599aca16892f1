import SketchPreview.Expr.Lexer
import SketchPreview.Proofs.Text

/-!
# The pieces of an expression

An expression is made of pieces with blanks before, between and behind them. A piece that begins
with a digit or with a letter goes on as long as its kind of characters does; any other piece is a
single character. So there is one way only to cut a text into pieces, and their tokens are those of
the text.

* `IsRun`: a run of characters of one kind that ends where the kind ends;
* `Piece`: the piece at the front of a text, with its token;
* `Pieces`: a text cut into pieces and blanks;
* `piece_lexeme`, `Piece.lexeme_eq`: the piece at the front is the lexeme;
* `pieces_lexemes`, `Pieces.eq_lexemes`: lexemes are pieces, and all pieces are lexemes;
* `lex_trim`: the blanks around an expression do not matter;
* `nextToken?`: reading one token more, which comes to an end;
* **`lex_pieces`**: every text has its pieces, they are unique, and they hold what is not blank.
-/

namespace SketchPreview.Expr

open Text

/-- Characters of one kind, as many as there are in front of `rest`. -/
structure IsRun (kind : Char → Bool) (run rest : List Char) : Prop where
  all : ∀ c ∈ run, kind c = true
  stop : ∀ c ∈ rest.head?, kind c = false

/-- A piece, what follows it, and its token. -/
inductive Piece : List Char → List Char → Token → Prop where
  | number {c : Char} {run rest : List Char} {value : Float} (first : c.isDigit = true)
      (longest : IsRun isNumberChar run rest)
      (literal : Decimal.ofLiteral? (c :: run) = some value) :
      Piece (c :: run) rest (.number value)
  | noNumber {c : Char} {run rest : List Char} (first : c.isDigit = true)
      (longest : IsRun isNumberChar run rest) (literal : Decimal.ofLiteral? (c :: run) = none) :
      Piece (c :: run) rest (.unknown (String.ofList (c :: run)))
  | name {c : Char} {run rest : List Char} (first : isWordStart c = true)
      (longest : IsRun isWordChar run rest) :
      Piece (c :: run) rest (.name (String.ofList (c :: run)))
  | plus (rest : List Char) : Piece ['+'] rest (.operator .plus)
  | minus (rest : List Char) : Piece ['-'] rest (.operator .minus)
  | times (rest : List Char) : Piece ['*'] rest (.operator .times)
  | divide (rest : List Char) : Piece ['/'] rest (.operator .divide)
  | leftParen (rest : List Char) : Piece ['('] rest .leftParen
  | rightParen (rest : List Char) : Piece [')'] rest .rightParen
  | dot (rest : List Char) : Piece ['.'] rest .dot
  | unknown {c : Char} (rest : List Char) (blank : isBlank c = false)
      (digit : c.isDigit = false) (word : isWordStart c = false)
      (sign : c ∉ ['+', '-', '*', '/', '(', ')', '.']) :
      Piece [c] rest (.unknown (String.singleton c))

/-- A text cut into pieces, with blanks before, between and behind them. -/
inductive Pieces : List Char → List (List Char × Token) → Prop where
  | blanks {gap : List Char} (blank : ∀ c ∈ gap, isBlank c = true) : Pieces gap []
  | piece {gap piece rest : List Char} {t : Token} {ps : List (List Char × Token)}
      (blank : ∀ c ∈ gap, isBlank c = true) (front : Piece piece rest t) (more : Pieces rest ps) :
      Pieces (gap ++ piece ++ rest) ((piece, t) :: ps)

/-! ## Runs -/

theorem isRun_takeWhile (kind : Char → Bool) (s : List Char) :
    IsRun kind (s.takeWhile kind) (s.dropWhile kind) where
  all c hc := List.all_eq_true.1 List.all_takeWhile c hc
  stop c hc := by
    have h := List.head?_dropWhile_not kind s
    rw [Option.mem_def.1 hc] at h
    simpa using h

namespace IsRun

variable {kind : Char → Bool} {run rest : List Char}

theorem takeWhile_eq (h : IsRun kind run rest) : (run ++ rest).takeWhile kind = run :=
  (takeWhile_dropWhile_of_stop h.all h.stop).1

theorem dropWhile_eq (h : IsRun kind run rest) : (run ++ rest).dropWhile kind = rest :=
  (takeWhile_dropWhile_of_stop h.all h.stop).2

theorem append (h : IsRun kind run rest) {gap : List Char}
    (hgap : ∀ c ∈ gap.head?, kind c = false) : IsRun kind run (rest ++ gap) where
  all := h.all
  stop := by
    cases rest with
    | nil => exact hgap
    | cons c rest => exact h.stop

end IsRun

theorem isBlank_of_isNumberChar {c : Char} (h : isNumberChar c = true) : isBlank c = false := by
  rw [isNumberChar, Bool.or_eq_true, beq_iff_eq] at h
  rcases h with h | rfl
  · exact isBlank_of_isWordChar (isWordChar_of_isDigit h)
  · decide

theorem isNumberChar_of_isDigit {c : Char} (h : c.isDigit = true) : isNumberChar c = true := by
  rw [isNumberChar, h, Bool.true_or]

/-! ## The piece at the front -/

theorem ofChar_of_not_mem {c : Char} (h : c ∉ ['+', '-', '*', '/', '(', ')', '.']) :
    Token.ofChar c = .unknown (String.singleton c) := by
  simp only [List.mem_cons, List.not_mem_nil, or_false, not_or] at h
  obtain ⟨hplus, hminus, htimes, hdivide, hleft, hright, hdot⟩ := h
  have hoperator : Operator.ofChar? c = none := by
    unfold Operator.ofChar?
    split <;> simp_all
  rw [Token.ofChar, hoperator]
  simp only [hleft, hright, hdot, if_false]

theorem piece_ofChar {c : Char} (hblank : isBlank c = false) (hdigit : c.isDigit = false)
    (hword : isWordStart c = false) (rest : List Char) : Piece [c] rest (.ofChar c) := by
  by_cases hsign : c ∈ ['+', '-', '*', '/', '(', ')', '.']
  · simp only [List.mem_cons, List.not_mem_nil, or_false] at hsign
    rcases hsign with rfl | rfl | rfl | rfl | rfl | rfl | rfl
    · exact .plus rest
    · exact .minus rest
    · exact .times rest
    · exact .divide rest
    · exact .leftParen rest
    · exact .rightParen rest
    · exact .dot rest
  · rw [ofChar_of_not_mem hsign]
    exact .unknown rest hblank hdigit hword hsign

/-- **The lexeme is a piece.** -/
theorem piece_lexeme {c : Char} (hblank : isBlank c = false) (rest : List Char) :
    Piece (lexeme c rest).1 (lexeme c rest).2 (.ofLexeme (lexeme c rest).1) := by
  unfold lexeme
  by_cases hdigit : c.isDigit = true
  · rw [if_pos hdigit, Token.ofLexeme, if_pos hdigit]
    split
    · next value hvalue => exact .number hdigit (isRun_takeWhile _ _) hvalue
    · next hvalue => exact .noNumber hdigit (isRun_takeWhile _ _) hvalue
  · rw [if_neg hdigit]
    by_cases hword : isWordStart c = true
    · rw [if_pos hword, Token.ofLexeme, if_neg hdigit, if_pos hword]
      exact .name hword (isRun_takeWhile _ _)
    · rw [if_neg hword, Token.ofLexeme, if_neg hdigit, if_neg hword]
      rw [Bool.not_eq_true] at hdigit hword
      exact piece_ofChar hblank hdigit hword rest

namespace Piece

variable {piece rest : List Char} {t : Token}

theorem not_blank (h : Piece piece rest t) : ∀ c ∈ piece, isBlank c = false := by
  cases h with
  | number first longest literal | noNumber first longest literal =>
    exact List.forall_mem_cons.2 ⟨isBlank_of_isNumberChar (isNumberChar_of_isDigit first),
      fun d hd => isBlank_of_isNumberChar (longest.all d hd)⟩
  | name first longest =>
    exact List.forall_mem_cons.2 ⟨isBlank_of_isWordChar (isWordChar_iff.2 (.inl first)),
      fun d hd => isBlank_of_isWordChar (longest.all d hd)⟩
  | unknown rest blank digit word sign => exact List.forall_mem_singleton.2 blank
  | _ => exact List.forall_mem_singleton.2 (by decide)

/-- **A piece is the lexeme**, and has its token. -/
theorem lexeme_eq (h : Piece piece rest t) :
    ∃ c run, piece = c :: run ∧ lexeme c (run ++ rest) = (piece, rest) ∧ .ofLexeme piece = t := by
  cases h with
  | @number c run rest value first longest literal =>
    refine ⟨c, run, rfl, ?_, ?_⟩
    · rw [lexeme, if_pos first, longest.takeWhile_eq, longest.dropWhile_eq]
    · rw [Token.ofLexeme, if_pos first, literal]
  | @noNumber c run rest first longest literal =>
    refine ⟨c, run, rfl, ?_, ?_⟩
    · rw [lexeme, if_pos first, longest.takeWhile_eq, longest.dropWhile_eq]
    · rw [Token.ofLexeme, if_pos first, literal]
  | @name c run rest first longest =>
    have hdigit : ¬c.isDigit = true := Bool.eq_false_iff.1 (isDigit_of_isWordStart first)
    refine ⟨c, run, rfl, ?_, ?_⟩
    · rw [lexeme, if_neg hdigit, if_pos first, longest.takeWhile_eq, longest.dropWhile_eq]
    · rw [Token.ofLexeme, if_neg hdigit, if_pos first]
  | @unknown c rest blank digit word sign =>
    refine ⟨c, [], rfl, ?_, ?_⟩
    · rw [lexeme, if_neg (Bool.eq_false_iff.1 digit), if_neg (Bool.eq_false_iff.1 word)]
      rfl
    · rw [Token.ofLexeme, if_neg (Bool.eq_false_iff.1 digit), if_neg (Bool.eq_false_iff.1 word),
        ofChar_of_not_mem sign]
  | _ => exact ⟨_, [], rfl, rfl, rfl⟩

theorem append (h : Piece piece rest t) {gap : List Char} (hgap : ∀ c ∈ gap, isBlank c = true) :
    Piece piece (rest ++ gap) t := by
  have hstop {kind : Char → Bool} (hkind : ∀ c, kind c = true → isBlank c = false) :
      ∀ c ∈ gap.head?, kind c = false := by
    intro c hc
    have hblank := hgap c (List.mem_of_mem_head? hc)
    cases hc : kind c with
    | false => rfl
    | true => exact absurd ((hkind c hc).symm.trans hblank) Bool.false_ne_true
  cases h with
  | number first longest literal =>
    exact .number first (longest.append (hstop fun _ => isBlank_of_isNumberChar)) literal
  | noNumber first longest literal =>
    exact .noNumber first (longest.append (hstop fun _ => isBlank_of_isNumberChar)) literal
  | name first longest =>
    exact .name first (longest.append (hstop fun _ => isBlank_of_isWordChar))
  | unknown rest blank digit word sign => exact .unknown _ blank digit word sign
  | plus => exact .plus _
  | minus => exact .minus _
  | times => exact .times _
  | divide => exact .divide _
  | leftParen => exact .leftParen _
  | rightParen => exact .rightParen _
  | dot => exact .dot _

end Piece

/-! ## A whole text -/

theorem lexemes_cons {c : Char} (h : isBlank c = false) (rest : List Char) :
    lexemes (c :: rest) = (lexeme c rest).1 :: lexemes (lexeme c rest).2 := by
  rw [lexemes, h, if_neg Bool.false_ne_true]

theorem lexemes_append {gap : List Char} (h : ∀ c ∈ gap, isBlank c = true) (s : List Char) :
    lexemes (gap ++ s) = lexemes s := by
  induction gap with
  | nil => rfl
  | cons c gap ih =>
    obtain ⟨hc, hgap⟩ := List.forall_mem_cons.1 h
    rw [List.cons_append, lexemes, if_pos hc, ih hgap]

/-- The lexemes of a text, with their tokens. -/
def lexemeTokens (s : List Char) : List (List Char × Token) :=
  (lexemes s).map fun l => (l, .ofLexeme l)

theorem Pieces.cons_blank {c : Char} (h : isBlank c = true) {s : List Char}
    {ps : List (List Char × Token)} (hs : Pieces s ps) : Pieces (c :: s) ps := by
  cases hs with
  | blanks blank => exact .blanks (List.forall_mem_cons.2 ⟨h, blank⟩)
  | @piece gap piece rest t ps blank front more =>
    have hgap : ∀ d ∈ c :: gap, isBlank d = true := List.forall_mem_cons.2 ⟨h, blank⟩
    exact .piece hgap front more

theorem Pieces.cons_piece {piece rest : List Char} {t : Token} {ps : List (List Char × Token)}
    (front : Piece piece rest t) (more : Pieces rest ps) :
    Pieces (piece ++ rest) ((piece, t) :: ps) :=
  .piece (List.forall_mem_nil _) front more

theorem Pieces.of_piece {s : List Char} {t : Token} (h : Piece s [] t) : Pieces s [(s, t)] := by
  have hs := Pieces.cons_piece h (.blanks (List.forall_mem_nil _))
  rwa [List.append_nil] at hs

/-- **Lexemes are pieces**, by the recursion that finds them. -/
theorem pieces_lexemes (s : List Char) : Pieces s (lexemeTokens s) := by
  unfold lexemeTokens
  fun_induction lexemes s with
  | case1 => exact .blanks (by simp)
  | case2 c rest hblank ih => exact ih.cons_blank hblank
  | case3 c rest hblank ih =>
    rw [Bool.not_eq_true] at hblank
    have h := Pieces.cons_piece (piece_lexeme hblank rest) ih
    rwa [lexeme_append] at h

/-- **Pieces are lexemes**, by induction on how the text is cut. -/
theorem Pieces.eq_lexemes {s : List Char} {ps : List (List Char × Token)} (h : Pieces s ps) :
    ps = lexemeTokens s := by
  unfold lexemeTokens
  induction h with
  | @blanks gap blank =>
    rw [← List.append_nil gap, lexemes_append blank, lexemes]
    rfl
  | @piece gap piece rest t ps blank front more ih =>
    obtain ⟨c, run, rfl, hlexeme, htoken⟩ := front.lexeme_eq
    have hc : isBlank c = false := front.not_blank c List.mem_cons_self
    rw [List.append_assoc, lexemes_append blank, List.cons_append, lexemes_cons hc, hlexeme,
      List.map_cons, htoken, ih]

theorem Pieces.flatten_eq {s : List Char} {ps : List (List Char × Token)} (h : Pieces s ps) :
    (ps.map (·.1)).flatten = s.filter (!isBlank ·) := by
  induction h with
  | blanks blank =>
    symm
    simpa using blank
  | @piece gap piece rest t ps blank front more ih =>
    have hgap : gap.filter (!isBlank ·) = [] := by simpa using blank
    have hpiece : piece.filter (!isBlank ·) = piece := by simpa using front.not_blank
    rw [List.filter_append, List.filter_append, hgap, hpiece, ← ih]
    rfl

/-- The tokens of a text are those of its pieces, however these have been found. -/
theorem Pieces.lex_eq {s : List Char} {ps : List (List Char × Token)} (h : Pieces s ps) :
    lex s = ps.map (·.2) := by
  rw [h.eq_lexemes, lex, lexemeTokens, List.map_map]
  rfl

theorem Pieces.append_blanks {s gap : List Char} {ps : List (List Char × Token)} (h : Pieces s ps)
    (hgap : ∀ c ∈ gap, isBlank c = true) : Pieces (s ++ gap) ps := by
  induction h with
  | blanks blank => exact .blanks (List.forall_mem_append.2 ⟨blank, hgap⟩)
  | @piece before piece rest t ps blank front more ih =>
    rw [List.append_assoc]
    exact .piece blank (front.append hgap) ih

theorem lex_trim (s : List Char) : lex (trim s) = lex s := by
  obtain ⟨before, behind, hbefore, hbehind, hs⟩ := exists_trim s
  have hpieces := (pieces_lexemes (trim s)).append_blanks hbehind
  have hlex : lex (before ++ trim s ++ behind) = lex (trim s ++ behind) := by
    rw [List.append_assoc, lex, lexemes_append hbefore]
    rfl
  rw [← hs] at hlex
  rw [hlex, hpieces.lex_eq, (pieces_lexemes (trim s)).lex_eq]

/-! ## One token after the other -/

/-- The next token of a text and what is left behind it. Where only blanks are left there is
none. -/
def nextToken? (s : List Char) : Option (Token × List Char) :=
  match trimStart s with
  | [] => none
  | c :: rest => some (.ofLexeme (lexeme c rest).1, (lexeme c rest).2)

theorem lexemes_trimStart (s : List Char) : lexemes (trimStart s) = lexemes s := by
  have hgap : ∀ c ∈ s.takeWhile isBlank, isBlank c = true :=
    List.all_eq_true.1 List.all_takeWhile
  have h := lexemes_append hgap (trimStart s)
  rw [trimStart, List.takeWhile_append_dropWhile] at h
  exact h.symm

theorem lex_of_nextToken?_eq_none {s : List Char} (h : nextToken? s = none) : lex s = [] := by
  unfold nextToken? at h
  split at h
  · next hs =>
    rw [lex, ← lexemes_trimStart, hs, lexemes]
    rfl
  · cases h

theorem lex_of_nextToken?_eq_some {s rest : List Char} {t : Token}
    (h : nextToken? s = some (t, rest)) : rest.length < s.length ∧ lex s = t :: lex rest := by
  unfold nextToken? at h
  split at h
  · cases h
  · next c behind hs =>
    obtain ⟨rfl, rfl⟩ := Prod.mk.inj (Option.some.inj h)
    constructor
    · have hle := length_trimStart_le s
      rw [hs, List.length_cons] at hle
      exact Nat.lt_of_lt_of_le (Nat.lt_succ_of_le (length_lexeme_snd_le c behind)) hle
    · have hc : isBlank c = false := by
        have hhead := List.head?_dropWhile_not isBlank s
        rw [← trimStart, hs] at hhead
        simpa using hhead
      rw [lex, ← lexemes_trimStart, hs, lexemes_cons hc]
      rfl

/-- **A text is its pieces and blanks.** Every text can be cut into pieces, in one way only; the
tokens of the text are those of its pieces, and the pieces hold just what is not blank. Reading one
token after the other gives the same tokens, and each of them leaves less to be read. -/
theorem lex_pieces (s : List Char) :
    (∃ ps, Pieces s ps ∧ (∀ qs, Pieces s qs → qs = ps) ∧ lex s = ps.map (·.2) ∧
      (ps.map (·.1)).flatten = s.filter (!isBlank ·)) ∧
      (nextToken? s = none → lex s = []) ∧
      ∀ t rest, nextToken? s = some (t, rest) → rest.length < s.length ∧ lex s = t :: lex rest := by
  have h := pieces_lexemes s
  exact ⟨⟨lexemeTokens s, h, fun qs hqs => hqs.eq_lexemes, h.lex_eq, h.flatten_eq⟩,
    lex_of_nextToken?_eq_none, fun t rest => lex_of_nextToken?_eq_some⟩

end SketchPreview.Expr
