import SketchPreview.Proofs.Compile.Accounts

/-!
# What the clock reaches

The words for the time and the date stand for the text of a call only, and only where they are the
whole text argument. The clock may run on while a sketch is compiled. A call asks it once at most,
so a clock is given by the moments that it shows at the calls, one after the other.

* `Operation.withText`, `AsksClock`: an operation with another text, and the calls that ask the
  clock;
* `Alike`, `Alike.bind_number`, `Alike.withText`, `alike_operation`: the answers to one call at two
  moments;
* `compileLinesAt`, `compileLinesAt_const`: compiling while the clock runs on;
* `DrawnAt`, `drawn_or_refused`: the operations of a call under two clocks;
* **`clock_reaches_texts`**.
-/

namespace SketchPreview

open Call Text

/-- An operation with another text, if it has one. -/
def Operation.withText (text : String) : Operation → Operation
  | drawStr x y _ => drawStr x y text
  | setFont _ => setFont text
  | print _ => print text
  | println _ => println text
  | op => op

namespace Call

/-- The words that stand for the time and for the date. -/
def IsClockWord (s : List Char) : Prop := s = "PvTime".toList ∨ s = "PvDate".toList

/-- A call whose text argument is the word for the time or for the date. -/
def AsksClock (v : Verb) (args : List (List Char)) : Prop :=
  ∃ arg, textArgument? args v = some arg ∧ IsClockWord (trim arg)

/-! ## One call at two moments -/

/-- Two answers to a call: the same report, or operations that differ in their text at most, and
only where the call asks the clock. -/
inductive Alike (v : Verb) (args : List (List Char)) :
    Except Diagnostic (Operation × Option Diagnostic) →
      Except Diagnostic (Operation × Option Diagnostic) → Prop
  | drawn {op op' : Operation} {report : Option Diagnostic}
      (fields : op.withText "" = op'.withText "") (text : op = op' ∨ AsksClock v args) :
      Alike v args (.ok (op, report)) (.ok (op', report))
  | refused (report : Diagnostic) : Alike v args (.error report) (.error report)

section Alike

variable {symbols : SymbolTable} {size : Dimensions} {now now' : Moment} {v : Verb}
  {args : List (List Char)}

theorem Alike.plain (op : Operation) : Alike v args (.ok (op, none)) (.ok (op, none)) :=
  .drawn rfl (.inl rfl)

theorem Alike.bind_number {index : Nat}
    {f f' : Int32 → Except Diagnostic (Operation × Option Diagnostic)}
    (h : ∀ value, Alike v args (f value) (f' value)) :
    Alike v args (Scope.number ⟨symbols, size, now⟩ v args index >>= f)
      (Scope.number ⟨symbols, size, now'⟩ v args index >>= f') := by
  have hnumber : Scope.number ⟨symbols, size, now'⟩ v args index =
      Scope.number ⟨symbols, size, now⟩ v args index := rfl
  rw [hnumber]
  cases Scope.number ⟨symbols, size, now⟩ v args index with
  | error report => exact .refused report
  | ok value => exact h value

/-- A text is reported at all moments or at none, and is the same unless it is a word for the time
or the date. -/
theorem text_alike (symbols : SymbolTable) (size : Dimensions) (now now' : Moment)
    (arg : List Char) :
    (Scope.text ⟨symbols, size, now⟩ arg).2 = (Scope.text ⟨symbols, size, now'⟩ arg).2 ∧
      (Scope.text ⟨symbols, size, now⟩ arg = Scope.text ⟨symbols, size, now'⟩ arg ∨
        IsClockWord (trim arg)) := by
  unfold Scope.text
  dsimp only
  cases literal? (trim arg) with
  | some inner => exact ⟨rfl, .inl rfl⟩
  | none =>
    dsimp only
    by_cases hempty : (trim arg).isEmpty
    · rw [if_pos hempty, if_pos hempty]
      exact ⟨rfl, .inl rfl⟩
    rw [if_neg hempty, if_neg hempty]
    by_cases htime : trim arg = "PvTime".toList
    · rw [if_pos htime, if_pos htime]
      exact ⟨rfl, .inr (.inl htime)⟩
    rw [if_neg htime, if_neg htime]
    by_cases hdate : trim arg = "PvDate".toList
    · rw [if_pos hdate, if_pos hdate]
      exact ⟨rfl, .inr (.inr hdate)⟩
    rw [if_neg hdate, if_neg hdate]
    exact ⟨rfl, .inl rfl⟩

theorem Alike.withText {arg : List Char} (harg : textArgument? args v = some arg)
    {draw : String → Operation} (hdraw : ∀ text, (draw text).withText "" = draw "") :
    Alike v args (.ok (Scope.withText ⟨symbols, size, now⟩ arg draw))
      (.ok (Scope.withText ⟨symbols, size, now'⟩ arg draw)) := by
  obtain ⟨hreport, htext⟩ := text_alike symbols size now now' arg
  unfold Scope.withText
  dsimp only
  rw [hreport]
  refine .drawn ((hdraw _).trans (hdraw _).symm) ?_
  rcases htext with htext | hword
  · exact .inl (by rw [htext])
  · exact .inr ⟨arg, harg, hword⟩

/-- **A call at two moments**: the clock reaches nothing but the text, and only of a call that asks
for it. -/
theorem alike_operation (symbols : SymbolTable) (size : Dimensions) (now now' : Moment) (v : Verb)
    (args : List (List Char)) :
    Alike v args (Scope.operation ⟨symbols, size, now⟩ v args)
      (Scope.operation ⟨symbols, size, now'⟩ v args) := by
  cases v with
  | setDrawColor => exact .bind_number fun _ => .plain _
  | drawPixel | setCursor => exact .bind_number fun _ => .bind_number fun _ => .plain _
  | drawCircle | drawDisc | drawFastVLine | drawFastHLine =>
    exact .bind_number fun _ => .bind_number fun _ => .bind_number fun _ => .plain _
  | drawLine | drawBox | drawFrame | drawRect | fillRect =>
    exact .bind_number fun _ => .bind_number fun _ => .bind_number fun _ => .bind_number fun _ =>
      .plain _
  | drawStr => exact .bind_number fun _ => .bind_number fun _ => .withText rfl fun _ => rfl
  | setFont =>
    cases args with
    | nil => exact .refused _
    | cons name rest => exact .withText rfl fun _ => rfl
  | print | println => exact .withText rfl fun _ => rfl

end Alike

theorem Alike.draft?_eq {v : Verb} {args : List (List Char)}
    {answer answer' : Except Diagnostic (Operation × Option Diagnostic)}
    (h : Alike v args answer answer') : draft? answer = draft? answer' := by
  cases h with
  | drawn | refused => rfl

end Call

/-! ## All calls of a sketch -/

/-- The calls of a sketch, numbered from zero. -/
def numberedSites (lines : List (List Char)) : List ((Nat × Site) × Nat) :=
  (sitesFrom 1 lines).zipIdx

section

variable (lines : List (List Char)) (size : Dimensions) (clock clock' : Nat → Moment)

/-- The answer to a call, when the clock shows `clock k` at call `k`. -/
def answerAt (call : (Nat × Site) × Nat) : Except Diagnostic (Operation × Option Diagnostic) :=
  (scopeOf lines size (clock call.2)).operation call.1.2.verb (splitArguments call.1.2.arguments)

/-- A call with its answer. -/
def entryAt (call : (Nat × Site) × Nat) : Entry :=
  ⟨call.1.1, call.1.2, answerAt lines size clock call⟩

/-- Compiles the lines of a sketch while the clock runs on. -/
def compileLinesAt : Compilation :=
  let macros := Symbols.defineMacros (.ofSize size) size lines
  let constants := Symbols.defineConstants macros.table size lines
  let entries := (numberedSites lines).map (entryAt lines size clock)
  { operations := entries.filterMap (·.operation?)
    statistics := ⟨lines.length, macros.count, constants.count⟩
    diagnostics := macros.diagnostics ++ constants.diagnostics ++ entries.filterMap (·.report?) }

theorem map_entryAt_const (now : Moment) :
    (numberedSites lines).map (entryAt lines size fun _ => now) =
      (scopeOf lines size now).entries lines := by
  rw [Scope.entries, ← List.zipIdx_map_fst 0 (sitesFrom 1 lines), List.map_map]
  rfl

theorem compileLinesAt_const (now : Moment) :
    compileLinesAt lines size (fun _ => now) = compileLines lines size now := by
  simp only [compileLinesAt, compileLines, map_entryAt_const, extract_eq]
  rfl

theorem operations_compileLinesAt :
    (compileLinesAt lines size clock).operations =
      (numberedSites lines).filterMap fun call => (entryAt lines size clock call).operation? :=
  List.filterMap_map

theorem alike_answerAt (call : (Nat × Site) × Nat) :
    Alike call.1.2.verb (splitArguments call.1.2.arguments) (answerAt lines size clock call)
      (answerAt lines size clock' call) :=
  alike_operation _ size (clock call.2) (clock' call.2) _ _

theorem report?_entryAt (call : (Nat × Site) × Nat) :
    (entryAt lines size clock call).report? = (entryAt lines size clock' call).report? := by
  rw [Entry.report?, Entry.report?]
  exact congrArg (·.map (·.atLine call.1.1)) (alike_answerAt lines size clock clock' call).draft?_eq

theorem statistics_compileLinesAt :
    (compileLinesAt lines size clock).statistics =
      (compileLinesAt lines size clock').statistics := by
  rw [compileLinesAt, compileLinesAt]

theorem diagnostics_compileLinesAt :
    (compileLinesAt lines size clock).diagnostics =
      (compileLinesAt lines size clock').diagnostics := by
  have hreports : (numberedSites lines).filterMap (Entry.report? ∘ entryAt lines size clock) =
      (numberedSites lines).filterMap (Entry.report? ∘ entryAt lines size clock') :=
    List.filterMap_congr fun call _ => report?_entryAt lines size clock clock' call
  simp only [compileLinesAt, List.filterMap_map]
  rw [hreports]

/-- Two operations of one call: they differ in their text at most, and only where the call asks the
clock. -/
structure DrawnAt (call : (Nat × Site) × Nat) (op op' : Operation) : Prop where
  answers : ∃ report, answerAt lines size clock call = .ok (op, report) ∧
    answerAt lines size clock' call = .ok (op', report)
  fields : op.withText "" = op'.withText ""
  text : op = op' ∨ AsksClock call.1.2.verb (splitArguments call.1.2.arguments)

theorem drawn_or_refused (call : (Nat × Site) × Nat) :
    ((entryAt lines size clock call).operation? = none ∧
        (entryAt lines size clock' call).operation? = none) ∨
      ∃ op op', (entryAt lines size clock call).operation? = some op ∧
        (entryAt lines size clock' call).operation? = some op' ∧
        DrawnAt lines size clock clock' call op op' := by
  have halike := alike_answerAt lines size clock clock' call
  unfold entryAt Entry.operation?
  dsimp only
  generalize hanswer : answerAt lines size clock call = answer at halike ⊢
  generalize hanswer' : answerAt lines size clock' call = answer' at halike ⊢
  cases halike with
  | refused => exact .inl ⟨rfl, rfl⟩
  | drawn fields text => exact .inr ⟨_, _, rfl, rfl, ⟨_, hanswer, hanswer'⟩, fields, text⟩

end

theorem exists_sublist_filterMap {α β : Type} {f g : α → Option β} {r : α → β → β → Prop}
    (h : ∀ a, f a = none ∧ g a = none ∨ ∃ b c, f a = some b ∧ g a = some c ∧ r a b c)
    (l : List α) :
    (l.filterMap f).length = (l.filterMap g).length ∧
      ∃ l' : List α, l'.Sublist l ∧
        List.Forall₂ (fun a p => r a p.1 p.2) l' ((l.filterMap f).zip (l.filterMap g)) := by
  induction l with
  | nil => exact ⟨rfl, [], .refl _, .nil⟩
  | cons a l ih =>
    obtain ⟨hlength, l', hsublist, hrelated⟩ := ih
    rcases h a with ⟨hf, hg⟩ | ⟨b, c, hf, hg, hr⟩
    · rw [List.filterMap_cons_none hf, List.filterMap_cons_none hg]
      exact ⟨hlength, l', hsublist.cons a, hrelated⟩
    · rw [List.filterMap_cons_some hf, List.filterMap_cons_some hg]
      exact ⟨congrArg (· + 1) hlength, a :: l', hsublist.cons_cons a, .cons hr hrelated⟩

/-- **The clock reaches the texts of calls that ask for it**, and nothing else, whether it stands
still or runs on. -/
theorem clock_reaches_texts (source : String) (size : Dimensions) :
    (∀ now, compileLinesAt (Text.lines source.toList) size (fun _ => now) =
        compile source size now) ∧
      ∀ clock clock' : Nat → Moment,
        let lines := Text.lines source.toList
        let c := compileLinesAt lines size clock
        let c' := compileLinesAt lines size clock'
        c.statistics = c'.statistics ∧ c.diagnostics = c'.diagnostics ∧
          c.operations.length = c'.operations.length ∧
          ∃ drawn, drawn.Sublist (numberedSites lines) ∧
            List.Forall₂ (fun call ops => DrawnAt lines size clock clock' call ops.1 ops.2) drawn
              (c.operations.zip c'.operations) := by
  refine ⟨fun now => compileLinesAt_const _ size now, fun clock clock' => ?_⟩
  intro lines c c'
  refine ⟨statistics_compileLinesAt lines size clock clock',
    diagnostics_compileLinesAt lines size clock clock', ?_⟩
  have hcalls := exists_sublist_filterMap (drawn_or_refused lines size clock clock')
    (numberedSites lines)
  rwa [← operations_compileLinesAt, ← operations_compileLinesAt] at hcalls

example : (compile "u8g2.print(PvTime);" ⟨128, 64⟩ ⟨2024, 3, 7, 9, 5, 0⟩).operations =
    [.print "09:05"] := by decide +kernel

end SketchPreview
