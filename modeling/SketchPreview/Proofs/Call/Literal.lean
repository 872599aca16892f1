import Mathlib.Data.List.Forall2
import SketchPreview.Proofs.Call.Coordinate
import SketchPreview.Proofs.Call.Scan

/-!
# Literals

A literal goes through five steps until it is drawn: the search for the parenthesis that closes the
call, the cut at the commas, the blanks dropped around arguments, the commas put back, and the
quotes taken off. Both searches have to see where it ends, and neither may stop inside it.

* `Quotable`, `literal`: texts that can stand between two quotes;
* `Unclosed`, `Unsplit`: texts in which the search for the parenthesis and the cut at the commas
  find nothing;
* `closing?_quoted`, `topPieces_quoted`, `unclosed_literal`, `unsplit_literal`: literals are such;
* `IsArgument`, `splitArguments_intercalate`: arguments are read back;
* `TextCall`, `scanCalls_callLine`, `operation_textCall`: calls with a literal on a line;
* **`extract_literal`**.
-/

namespace SketchPreview.Call

open Text

/-- A text that can stand between two quotes `q`: each `q` in it follows a backslash, and its last
character is none. The opening quote is none either, so `q` is not the first character. -/
structure Quotable (q : Char) (b : List Char) : Prop where
  isQuote : q = '"' ∨ q = '\''
  escaped : (q :: b).IsChain fun a c => c = q → a = '\\'
  ending : b.getLast? ≠ some '\\'

/-- A text between two quotes. -/
def literal (q : Char) (b : List Char) : List Char := q :: (b ++ [q])

theorem literal?_literal {q : Char} {b : List Char} (hq : q = '"' ∨ q = '\'') :
    literal? (literal q b) = some b := by
  rw [literal, literal?, if_pos ⟨hq, by simp⟩, List.dropLast_concat]

/-! ## What the two searches pass over -/

/-- A text in which the search for the parenthesis finds nothing. -/
def Unclosed (s : List Char) : Prop :=
  ∀ t, closing? .inside (s ++ t) = (closing? .inside t).map fun r => (s ++ r.1, r.2)

/-- A text that is not cut at commas. -/
def Unsplit (s : List Char) : Prop :=
  ∀ t, topPieces .start (s ++ t) = (topPieces .start t).modifyHead (s ++ ·)

theorem unclosed_nil : Unclosed [] := fun t => by simp

theorem unsplit_nil : Unsplit [] := by
  intro t
  rw [List.nil_append]
  cases topPieces .start t <;> rfl

theorem Unclosed.append {s s' : List Char} (h : Unclosed s) (h' : Unclosed s') :
    Unclosed (s ++ s') := by
  intro t
  rw [List.append_assoc, h, h', Option.map_map]
  simp only [Function.comp_def, List.append_assoc]

theorem Unsplit.append {s s' : List Char} (h : Unsplit s) (h' : Unsplit s') :
    Unsplit (s ++ s') := by
  intro t
  rw [List.append_assoc, h, h', List.modifyHead_modifyHead]
  simp only [Function.comp_def, List.append_assoc]

section Compose

variable {p : List Char → Prop} (hnil : p []) (happend : ∀ {s s'}, p s → p s' → p (s ++ s'))

include hnil happend

theorem of_chars {s : List Char} (h : ∀ c ∈ s, p [c]) : p s := by
  induction s with
  | nil => exact hnil
  | cons c s ih =>
    exact happend (h c List.mem_cons_self) (ih fun a ha => h a (List.mem_cons_of_mem c ha))

theorem of_padded (hblank : ∀ c, isBlank c = true → p [c]) {s t : List Char} (hs : p s)
    (h : Padded s t) : p t := by
  obtain ⟨before, behind, hbefore, hbehind, rfl⟩ := h
  have hblanks {b : List Char} (hb : ∀ c ∈ b, isBlank c = true) : p b :=
    of_chars hnil happend fun c hc => hblank c (hb c hc)
  exact happend (happend (hblanks hbefore) hs) (hblanks hbehind)

end Compose

theorem topPieces_ne_nil (n : Nesting) (s : List Char) : topPieces n s ≠ [] := by
  cases s with
  | nil => simp [topPieces]
  | cons c rest =>
    rw [topPieces]
    split
    · simp
    · split <;> simp

theorem topPieces_cons {n : Nesting} {c : Char} (h : ¬(c = ',' ∧ n.isTop)) (rest : List Char) :
    topPieces n (c :: rest) = (topPieces (n.step c) rest).modifyHead (c :: ·) := by
  rw [topPieces, if_neg h]
  obtain ⟨p, ps, hps⟩ := List.exists_cons_of_ne_nil (topPieces_ne_nil (n.step c) rest)
  rw [hps]
  rfl

theorem closing?_cons {n : Nesting} {c : Char} (h : (n.step c).isTop = false) (rest : List Char) :
    closing? n (c :: rest) = (closing? (n.step c) rest).map fun r => (c :: r.1, r.2) := by
  rw [closing?, h, if_neg Bool.false_ne_true]

/-- A character that means nothing outside of quotes, commas apart. -/
def IsPlain (c : Char) : Prop := c ≠ '"' ∧ c ≠ '\'' ∧ c ≠ '(' ∧ c ≠ ')' ∧ c ≠ '\\'

instance : DecidablePred IsPlain := fun c =>
  inferInstanceAs (Decidable (c ≠ '"' ∧ c ≠ '\'' ∧ c ≠ '(' ∧ c ≠ ')' ∧ c ≠ '\\'))

theorem IsPlain.step_eq {c : Char} (h : IsPlain c) (d : Int) :
    Nesting.step ⟨d, none, false⟩ c = ⟨d, none, false⟩ := by
  obtain ⟨hdouble, hsingle, hopen, hclose, hbackslash⟩ := h
  simp [Nesting.step, hdouble, hsingle, hopen, hclose, hbackslash]

theorem IsPlain.unclosed {c : Char} (h : IsPlain c) : Unclosed [c] := by
  intro t
  have hstep : Nesting.inside.step c = .inside := h.step_eq 1
  rw [List.singleton_append, closing?_cons (by rw [hstep]; rfl), hstep]
  rfl

theorem IsPlain.unsplit {c : Char} (h : IsPlain c) (hcomma : c ≠ ',') : Unsplit [c] := by
  intro t
  have hstep : Nesting.start.step c = .start := h.step_eq 0
  rw [List.singleton_append, topPieces_cons (fun hc => hcomma hc.1), hstep]
  rfl

theorem step_quoted {d : Int} {q a c : Char} (h : c = q → a = '\\') :
    Nesting.step ⟨d, some q, a == '\\'⟩ c = ⟨d, some q, c == '\\'⟩ := by
  simp only [Nesting.step]
  rw [if_neg fun hc => hc.2 (by simp [h hc.1])]

theorem step_quote {d : Int} {q a : Char} (hq : q = '"' ∨ q = '\'') (ha : a ≠ '\\') :
    Nesting.step ⟨d, some q, a == '\\'⟩ q = ⟨d, none, false⟩ := by
  have hbackslash : q ≠ '\\' := by rcases hq with rfl | rfl <;> decide
  simp [Nesting.step, ha, hbackslash]

theorem step_open {d : Int} {q : Char} (hq : q = '"' ∨ q = '\'') :
    Nesting.step ⟨d, none, false⟩ q = ⟨d, some q, q == '\\'⟩ := by
  simp [Nesting.step, hq]

theorem closing?_quoted {q a : Char} {b : List Char} (hq : q = '"' ∨ q = '\'')
    (h : (a :: b).IsChain fun a c => c = q → a = '\\') (hend : (a :: b).getLast? ≠ some '\\')
    (t : List Char) :
    closing? ⟨1, some q, a == '\\'⟩ (b ++ q :: t) =
      (closing? .inside t).map fun r => (b ++ q :: r.1, r.2) := by
  -- along the text, of which only the character before counts
  induction b generalizing a with
  | nil =>
    have hstep := step_quote (d := 1) hq (a := a) (by simpa using hend)
    rw [List.nil_append, closing?_cons (by rw [hstep]; rfl), hstep]
    rfl
  | cons c b ih =>
    have hstep := step_quoted (d := 1) (List.isChain_cons_cons.1 h).1
    have hrest := ih (List.isChain_cons_cons.1 h).2 (by simpa using hend)
    rw [List.cons_append, closing?_cons (by rw [hstep]; rfl), hstep, hrest, Option.map_map]
    rfl

theorem topPieces_quoted {q a : Char} {b : List Char} (hq : q = '"' ∨ q = '\'')
    (h : (a :: b).IsChain fun a c => c = q → a = '\\') (hend : (a :: b).getLast? ≠ some '\\')
    (t : List Char) :
    topPieces ⟨0, some q, a == '\\'⟩ (b ++ q :: t) =
      (topPieces .start t).modifyHead (b ++ q :: ·) := by
  have hquote {a c : Char} : ¬(c = ',' ∧ Nesting.isTop ⟨0, some q, a == '\\'⟩ = true) :=
    fun hc => Bool.false_ne_true hc.2
  induction b generalizing a with
  | nil =>
    have hstep := step_quote (d := 0) hq (a := a) (by simpa using hend)
    rw [List.nil_append, topPieces_cons hquote, hstep]
    rfl
  | cons c b ih =>
    have hstep := step_quoted (d := 0) (List.isChain_cons_cons.1 h).1
    have hrest := ih (List.isChain_cons_cons.1 h).2 (by simpa using hend)
    rw [List.cons_append, topPieces_cons hquote, hstep, hrest, List.modifyHead_modifyHead]
    rfl

theorem Quotable.getLast?_cons_ne {q : Char} {b : List Char} (hb : Quotable q b) :
    (q :: b).getLast? ≠ some '\\' := by
  rw [List.getLast?_cons]
  intro h
  cases hlast : b.getLast? with
  | none =>
    rw [hlast] at h
    rcases hb.isQuote with rfl | rfl <;> cases h
  | some c =>
    rw [hlast] at h
    exact hb.ending (hlast.trans h)

theorem unclosed_literal {q : Char} {b : List Char} (hb : Quotable q b) :
    Unclosed (literal q b) := by
  intro t
  have hstep := step_open (d := 1) hb.isQuote
  have hquoted := closing?_quoted hb.isQuote hb.escaped hb.getLast?_cons_ne t
  rw [literal, List.cons_append, List.append_assoc, List.singleton_append]
  show closing? ⟨1, none, false⟩ (q :: (b ++ q :: t)) = _
  rw [closing?_cons (by rw [hstep]; rfl), hstep, hquoted, Option.map_map]
  simp [Function.comp_def]

theorem unsplit_literal {q : Char} {b : List Char} (hb : Quotable q b) :
    Unsplit (literal q b) := by
  intro t
  have hcomma : q ≠ ',' := by rcases hb.isQuote with rfl | rfl <;> decide
  have hstep := step_open (d := 0) hb.isQuote
  have hquoted := topPieces_quoted hb.isQuote hb.escaped hb.getLast?_cons_ne t
  rw [literal, List.cons_append, List.append_assoc, List.singleton_append]
  show topPieces ⟨0, none, false⟩ (q :: (b ++ q :: t)) = _
  rw [topPieces_cons (fun hc => hcomma hc.1), hstep, hquoted, List.modifyHead_modifyHead]
  simp [Function.comp_def]

/-! ## Arguments -/

/-- A text that is read back as an argument, whatever blanks stand around it. -/
structure IsArgument (s : List Char) : Prop where
  ne_nil : s ≠ []
  head : ∀ c ∈ s.head?, isBlank c = false
  last : ∀ c ∈ s.getLast?, isBlank c = false
  unclosed : Unclosed s
  unsplit : Unsplit s

theorem isPlain_of_isBlank {c : Char} (h : isBlank c = true) : IsPlain c ∧ c ≠ ',' := by
  refine ⟨⟨?_, ?_, ?_, ?_, ?_⟩, ?_⟩ <;> rintro rfl <;> exact absurd h (by decide)

theorem isPlain_of_isDigit {c : Char} (h : c.isDigit = true) : IsPlain c ∧ c ≠ ',' := by
  refine ⟨⟨?_, ?_, ?_, ?_, ?_⟩, ?_⟩ <;> rintro rfl <;> exact absurd h (by decide)

theorem isArgument_of_isDigits {s : List Char} (h : IsDigits s) : IsArgument s where
  ne_nil := h.1
  head := fun c hc => isBlank_of_isDigit (h.2 c (List.mem_of_head? hc))
  last := fun c hc => isBlank_of_isDigit (h.2 c (List.mem_of_getLast? hc))
  unclosed := of_chars unclosed_nil .append fun c hc => (isPlain_of_isDigit (h.2 c hc)).1.unclosed
  unsplit := of_chars unsplit_nil .append fun c hc =>
    (isPlain_of_isDigit (h.2 c hc)).1.unsplit (isPlain_of_isDigit (h.2 c hc)).2

theorem isArgument_literal {q : Char} {b : List Char} (hb : Quotable q b) :
    IsArgument (literal q b) := by
  have hq : isBlank q = false := by rcases hb.isQuote with rfl | rfl <;> decide
  refine ⟨by simp [literal], fun c hc => ?_, fun c hc => ?_, unclosed_literal hb,
    unsplit_literal hb⟩
  · obtain rfl : q = c := Option.some.inj hc
    exact hq
  · obtain rfl : q = c := by simpa [literal, List.getLast?_cons] using hc
    exact hq

theorem unclosed_of_padded {s t : List Char} (hs : IsArgument s) (h : Padded s t) : Unclosed t :=
  of_padded unclosed_nil .append (fun _ hc => (isPlain_of_isBlank hc).1.unclosed) hs.unclosed h

theorem unsplit_of_padded {s t : List Char} (hs : IsArgument s) (h : Padded s t) : Unsplit t :=
  of_padded unsplit_nil .append
    (fun _ hc => (isPlain_of_isBlank hc).1.unsplit (isPlain_of_isBlank hc).2) hs.unsplit h

theorem unclosed_intercalate {args : List (List Char)} (h : ∀ s ∈ args, Unclosed s) :
    Unclosed ([','].intercalate args) := by
  have hcomma : Unclosed [','] := IsPlain.unclosed (by decide)
  induction args with
  | nil => exact unclosed_nil
  | cons s args ih =>
    cases args with
    | nil => exact List.intercalate_singleton ▸ h s List.mem_cons_self
    | cons s' args =>
      rw [List.intercalate_cons_cons]
      exact ((h s List.mem_cons_self).append hcomma).append
        (ih fun s hs => h s (List.mem_cons_of_mem _ hs))

theorem Unsplit.topPieces_eq {s : List Char} (h : Unsplit s) : topPieces .start s = [s] := by
  rw [← List.append_nil s, h]
  rfl

/-- Texts with commas between them are cut at these commas, if none of them is cut itself and the
nesting behind each but the last is that in front of it. -/
theorem topPieces_intercalate {args : List (List Char)} (hne : args ≠ [])
    (huncut : ∀ s ∈ args, topPieces .start s = [s]) (hunsplit : ∀ s ∈ args.dropLast, Unsplit s) :
    topPieces .start ([','].intercalate args) = args := by
  induction args with
  | nil => exact absurd rfl hne
  | cons s args ih =>
    cases args with
    | nil =>
      rw [List.intercalate_singleton]
      exact huncut s List.mem_cons_self
    | cons s' args =>
      rw [List.dropLast_cons_of_ne_nil (List.cons_ne_nil _ _)] at hunsplit
      obtain ⟨hs, hargs⟩ := List.forall_mem_cons.1 hunsplit
      have hrest := ih (List.cons_ne_nil _ _) (List.forall_mem_cons.1 huncut).2 hargs
      have hcut : topPieces .start (',' :: [','].intercalate (s' :: args)) = [] :: s' :: args := by
        rw [topPieces, if_pos ⟨rfl, rfl⟩]
        exact congrArg _ hrest
      rw [List.intercalate_cons_cons, List.append_assoc, List.singleton_append, hs, hcut]
      simp

theorem padded_arguments {texts args : List (List Char)} (htexts : ∀ s ∈ texts, IsArgument s)
    (h : List.Forall₂ Padded texts args) :
    (∀ t ∈ args, Unclosed t ∧ Unsplit t) ∧ args.map trim = texts := by
  induction h with
  | nil => exact ⟨fun t ht => absurd ht List.not_mem_nil, rfl⟩
  | cons hst _ ih =>
    have hs := htexts _ List.mem_cons_self
    obtain ⟨hargs, htrim⟩ := ih fun s hs => htexts s (List.mem_cons_of_mem _ hs)
    refine ⟨fun t ht => ?_, ?_⟩
    · rcases List.mem_cons.1 ht with rfl | ht
      · exact ⟨unclosed_of_padded hs hst, unsplit_of_padded hs hst⟩
      · exact hargs t ht
    · rw [List.map_cons, htrim, hst.trim_eq hs.ne_nil hs.head hs.last]

/-- **Arguments with blanks around them** are read back. -/
theorem splitArguments_intercalate {texts args : List (List Char)} (hne : texts ≠ [])
    (htexts : ∀ s ∈ texts, IsArgument s) (h : List.Forall₂ Padded texts args) :
    splitArguments ([','].intercalate args) = texts := by
  obtain ⟨hargs, htrim⟩ := padded_arguments htexts h
  have hne' : args ≠ [] := by
    rintro rfl
    exact hne htrim.symm
  have hpieces := topPieces_intercalate hne' (fun t ht => (hargs t ht).2.topPieces_eq)
    fun t ht => (hargs t (List.mem_of_mem_dropLast ht)).2
  rw [splitArguments, hpieces, htrim, dropBlankLast, if_neg]
  intro hlast
  exact (htexts _ (List.mem_of_getLast? hlast)).ne_nil rfl

/-! ## Calls with a literal -/

/-- The calls that draw a text or name a font, with the numbers in front of it and the operation
that they stand for. -/
inductive TextCall : Verb → List (List Char) → (String → Operation) → Prop
  | drawStr {x y : List Char} (hx : IsDigits x) (hy : IsDigits y)
      (hxmax : (readNat x : Int) ≤ max32) (hymax : (readNat y : Int) ≤ max32) :
      TextCall .drawStr [x, y]
        (.drawStr (Int32.ofNat (readNat x)) (Int32.ofNat (readNat y)))
  | setFont : TextCall .setFont [] .setFont
  | print : TextCall .print [] .print
  | println : TextCall .println [] .println

/-- A line with one call. -/
def callLine (qualifier : List Char) (v : Verb) (arguments : List (List Char)) : List Char :=
  qualifier ++ '.' :: (v.name.toList ++ '(' :: ([','].intercalate arguments ++ ");".toList))

theorem TextCall.isArgument {v : Verb} {numbers : List (List Char)} {draw : String → Operation}
    (h : TextCall v numbers draw) : ∀ s ∈ numbers, IsArgument s := by
  cases h with
  | drawStr hx hy =>
    intro s hs
    rcases List.mem_pair.1 hs with rfl | rfl
    · exact isArgument_of_isDigits hx
    · exact isArgument_of_isDigits hy
  | setFont | print | println => exact fun s hs => absurd hs List.not_mem_nil

theorem scanCalls_callLine {qualifier : List Char} (hq : ∀ c ∈ qualifier, isWordChar c = true)
    (v : Verb) {arguments : List (List Char)} (h : ∀ s ∈ arguments, Unclosed s) :
    ∃ start stop, scanCalls (callLine qualifier v arguments) =
      [⟨start, stop, v, [','].intercalate arguments⟩] := by
  have hinner := unclosed_intercalate h
  unfold callLine
  generalize [','].intercalate arguments = inner at hinner ⊢
  obtain ⟨call, hcall⟩ : ∃ call, v.name.toList ++ '(' :: (inner ++ [')']) = call := ⟨_, rfl⟩
  have hline : qualifier ++ '.' :: (v.name.toList ++ '(' :: (inner ++ ");".toList)) =
      (qualifier ++ ['.']) ++ (call ++ [';']) := by simp [← hcall]
  -- the qualifier and the point are passed over, and so is what follows the parenthesis
  have hbefore : ∀ t, t ≠ [] → t <:+ qualifier ++ ['.'] →
      verbAt? (t ++ (call ++ [';'])) = none := by
    rintro t hne ⟨pre, hpre⟩
    obtain ⟨w, c, rfl⟩ := List.eq_nil_or_concat t |>.resolve_left hne
    rw [List.concat_eq_append, ← List.append_assoc] at hpre
    obtain ⟨hw, hc⟩ := List.append_inj' hpre rfl
    obtain rfl := List.cons.inj hc |>.1
    rw [List.concat_eq_append, List.append_assoc, List.singleton_append]
    exact verbAt?_eq_none (fun a ha => hq a (hw ▸ List.mem_append_right _ ha)) rfl rfl (by decide)
  have hsite (start : Nat) : siteAt? start (call ++ [';']) =
      some ⟨start, start + call.length, v, inner⟩ := by
    have hverb : verbAt? (call ++ [';']) = some (v, inner ++ [')', ';']) := by
      rw [← hcall, List.append_assoc, List.cons_append, List.append_assoc]
      exact verbAt?_spelled v _ (List.forall_mem_nil _)
    have hclosing : closing? .inside (inner ++ [')', ';']) = some (inner, [';']) := by
      rw [hinner]
      show some (inner ++ [], [';']) = _
      rw [List.append_nil]
    simp only [siteAt?, hverb, hclosing, Option.bind_eq_bind, Option.bind_some, List.length_append,
      Nat.add_sub_cancel]
  have hpos : 0 < call.length := by simp [← hcall]
  obtain ⟨start, hstart⟩ : ∃ start, 0 + (qualifier ++ ['.']).length = start := ⟨_, rfl⟩
  refine ⟨start, start + call.length, ?_⟩
  rw [hline, scanCalls, scanFrom_append hbefore, hstart,
    scanFrom_of_siteAt? (hsite start) (Nat.lt_add_of_pos_right hpos)]
  simp only [Nat.add_sub_cancel_left, List.drop_left]
  rfl

theorem text_literal {q : Char} {b : List Char} (hb : Quotable q b) (scope : Scope) :
    scope.text (literal q b) = (String.ofList b, none) := by
  have hargument := isArgument_literal hb
  have htrim : trim (literal q b) = literal q b :=
    Padded.trim_eq ⟨[], [], by simp, by simp, by simp⟩ hargument.ne_nil hargument.head
      hargument.last
  rw [Scope.text, htrim, literal?_literal hb.isQuote]

theorem operation_textCall {v : Verb} {numbers : List (List Char)} {draw : String → Operation}
    (h : TextCall v numbers draw) {q : Char} {b : List Char} (hb : Quotable q b) (scope : Scope) :
    scope.operation v (numbers ++ [literal q b]) = .ok (draw (String.ofList b), none) := by
  have hjoined : Scope.joined [literal q b] = literal q b := List.intercalate_singleton
  cases h with
  | @drawStr x y hx hy hxmax hymax =>
    have hfirst : ([x, y] ++ [literal q b])[0]? = some x := rfl
    have hsecond : ([x, y] ++ [literal q b])[1]? = some y := rfl
    have htexts : Scope.joined (([x, y] ++ [literal q b]).drop 2) = literal q b := hjoined
    simp only [Scope.operation, scope.number_of_isDigits .drawStr hfirst hx hxmax,
      scope.number_of_isDigits .drawStr hsecond hy hymax, htexts, Scope.withText, text_literal hb]
    rfl
  | setFont =>
    show Except.ok (scope.withText (literal q b) .setFont) = _
    rw [Scope.withText, text_literal hb]
  | print =>
    show Except.ok (scope.withText (Scope.joined [literal q b]) .print) = _
    rw [hjoined, Scope.withText, text_literal hb]
  | println =>
    show Except.ok (scope.withText (Scope.joined [literal q b]) .println) = _
    rw [hjoined, Scope.withText, text_literal hb]

/-- **A literal is drawn as it stands** between its quotes, whatever it is made of, and nothing is
reported. -/
theorem extract_literal {q : Char} {b : List Char} (hb : Quotable q b) {v : Verb}
    {numbers : List (List Char)} {draw : String → Operation} (hcall : TextCall v numbers draw)
    {qualifier : List Char} (hqualifier : ∀ c ∈ qualifier, isWordChar c = true)
    {arguments : List (List Char)}
    (harguments : List.Forall₂ Padded (numbers ++ [literal q b]) arguments) (scope : Scope) :
    scope.extract [callLine qualifier v arguments] = ([draw (String.ofList b)], []) := by
  have htexts : ∀ s ∈ numbers ++ [literal q b], IsArgument s := by
    intro s hs
    rcases List.mem_append.1 hs with hs | hs
    · exact hcall.isArgument s hs
    · exact List.mem_singleton.1 hs ▸ isArgument_literal hb
  have hne : numbers ++ [literal q b] ≠ [] := by simp
  have hunclosed := fun t ht => ((padded_arguments htexts harguments).1 t ht).1
  obtain ⟨start, stop, hscan⟩ := scanCalls_callLine hqualifier v hunclosed
  have houtcome : scope.outcome 1 ⟨start, stop, v, [','].intercalate arguments⟩ =
      (some (draw (String.ofList b)), none) := by
    rw [Scope.outcome, splitArguments_intercalate hne htexts harguments,
      operation_textCall hcall hb]
    rfl
  simp only [Scope.extract, Scope.outcomesFrom, hscan, List.map_singleton, houtcome]
  rfl

/-- Commas, parentheses, a call, the other quote and backslashes between quotes. -/
theorem extract_literal_call :
    let b := "a, (print(1); it's \\\"so\\\" \\n ".toList
    let line := "u8g2.drawStr( 7, 2147483647 ,\t\"a, (print(1); it's \\\"so\\\" \\n \");".toList
    let scope : Scope := ⟨.ofSize ⟨128, 64⟩, ⟨128, 64⟩, ⟨2024, 3, 7, 9, 5, 0⟩⟩
    Quotable '"' b ∧ (∀ c ∈ "u8g2".toList, isWordChar c = true) ∧
      scope.extract [line] =
        ([.drawStr 7 2147483647 "a, (print(1); it's \\\"so\\\" \\n "], []) := by
  intro b line scope
  have hb : Quotable '"' b := ⟨.inl rfl, by decide, by decide⟩
  have hqualifier : ∀ c ∈ "u8g2".toList, isWordChar c = true := List.all_eq_true.1 (by decide)
  have hspace : ∀ c ∈ [' '], isBlank c = true := List.all_eq_true.1 (by decide)
  have htab : ∀ c ∈ ['\t'], isBlank c = true := List.all_eq_true.1 (by decide)
  have hcall := TextCall.drawStr (x := "7".toList) (y := "2147483647".toList) (by decide)
    (by decide) (by decide) (by decide)
  have hpadded : List.Forall₂ Padded (["7".toList, "2147483647".toList] ++ [literal '"' b])
      [' ' :: "7".toList, ' ' :: "2147483647 ".toList, '\t' :: literal '"' b] :=
    .cons ⟨[' '], [], hspace, List.forall_mem_nil _, rfl⟩
      (.cons ⟨[' '], [' '], hspace, hspace, rfl⟩
        (.cons ⟨['\t'], [], htab, List.forall_mem_nil _, rfl⟩ .nil))
  refine ⟨hb, hqualifier, ?_⟩
  exact extract_literal hb hcall hqualifier hpadded scope

end SketchPreview.Call
