import SketchPreview.Call.Extract

/-!
# What becomes of a call

A call is drawn, or it is drawn with its text as it stands, or one of its arguments is missing or no
number. In each case it is reported at most once, and it is drawn or reported.

* `Operation.text?`, `textArgument?`: the text of an operation and the argument that it comes from;
* `Account`, `Account.bind_number`, `Account.withText`: the four cases, one step at a time;
* **`account_operation`**: every call with every list of arguments;
* `Scope.Entry`, `Scope.entries`: the calls of a sketch with their lines and answers;
* `outcomesFrom_eq`: operations and reports are those of the entries.
-/

namespace SketchPreview

/-- The text of an operation: what is drawn, or the name of a font. -/
def Operation.text? : Operation → Option String
  | drawStr _ _ text | setFont text | print text | println text => some text
  | _ => none

namespace Call

open SketchPreview.Expr Text

/-- The argument of a call that stands for a text. -/
def textArgument? (args : List (List Char)) : Verb → Option (List Char)
  | .drawStr => some (Scope.joined (args.drop 2))
  | .setFont => args.head?
  | .print | .println => some (Scope.joined args)
  | _ => none

/-- What can become of a call: an operation, with a report only where its text is malformed and
drawn as it stands, or else a report on an argument that is missing or no number. -/
inductive Account (scope : Scope) (v : Verb) (args : List (List Char)) :
    Except Diagnostic (Operation × Option Diagnostic) → Prop
  | drawn (op : Operation) : Account scope v args (.ok (op, none))
  | asItStands {op : Operation} {arg : List Char} {malformed : Malformed}
      (argument : textArgument? args v = some arg)
      (fault : evaluate (trim arg) scope.symbols scope.size = .error malformed)
      (text : op.text? = some (String.ofList (trim arg))) :
      Account scope v args (.ok (op, some malformed.diagnostic))
  | missing {index : Nat} (absent : args.length ≤ index) :
      Account scope v args (.error (missingArgument v index))
  | unevaluable {index : Nat} (present : index < args.length) (reason : String) :
      Account scope v args (.error (unevaluableArgument v index reason))

/-! ## One call -/

section Account

variable {scope : Scope} {v : Verb} {args : List (List Char)}

theorem Account.bind_number {index : Nat}
    {f : Int32 → Except Diagnostic (Operation × Option Diagnostic)}
    (h : ∀ value, Account scope v args (f value)) :
    Account scope v args (scope.number v args index >>= f) := by
  unfold Scope.number
  split
  · next hnone => exact .missing (List.getElem?_eq_none_iff.1 hnone)
  · next expr hexpr =>
    have hindex : index < args.length := (List.getElem?_eq_some_iff.1 hexpr).1
    split
    · split
      · exact .unevaluable hindex _
      · exact h _
    · exact .unevaluable hindex _

theorem Account.withText {arg : List Char} (harg : textArgument? args v = some arg)
    {draw : String → Operation} (hdraw : ∀ text, (draw text).text? = some text) :
    Account scope v args (.ok (scope.withText arg draw)) := by
  unfold Scope.withText Scope.text
  dsimp only
  split
  · exact .drawn _
  · by_cases hempty : (trim arg).isEmpty
    · rw [if_pos hempty]
      exact .drawn _
    by_cases htime : trim arg = "PvTime".toList
    · rw [if_neg hempty, if_pos htime]
      exact .drawn _
    by_cases hdate : trim arg = "PvDate".toList
    · rw [if_neg hempty, if_neg htime, if_pos hdate]
      exact .drawn _
    rw [if_neg hempty, if_neg htime, if_neg hdate, Scope.evaluatedText]
    split
    · exact .drawn _
    · next malformed hmalformed => exact .asItStands harg hmalformed (hdraw _)

/-- **Every call is accounted for.** -/
theorem account_operation (scope : Scope) (v : Verb) (args : List (List Char)) :
    Account scope v args (scope.operation v args) := by
  cases v with
  | setDrawColor => exact .bind_number fun _ => .drawn _
  | drawPixel | setCursor => exact .bind_number fun _ => .bind_number fun _ => .drawn _
  | drawCircle | drawDisc | drawFastVLine | drawFastHLine =>
    exact .bind_number fun _ => .bind_number fun _ => .bind_number fun _ => .drawn _
  | drawLine | drawBox | drawFrame | drawRect | fillRect =>
    exact .bind_number fun _ => .bind_number fun _ => .bind_number fun _ => .bind_number fun _ =>
      .drawn _
  | drawStr => exact .bind_number fun _ => .bind_number fun _ => .withText rfl fun _ => rfl
  | setFont =>
    cases args with
    | nil => exact .missing (Nat.le_refl 0)
    | cons name rest => exact .withText rfl fun _ => rfl
  | print | println => exact .withText rfl fun _ => rfl

end Account

/-! ## The calls of a sketch -/

/-- The calls of lines that are numbered from `n`, with their line numbers. -/
def sitesFrom (n : Nat) (lines : List (List Char)) : List (Nat × Site) :=
  (lines.zipIdx n).flatMap fun p => (scanCalls p.1).map fun site => (p.2, site)

theorem sitesFrom_cons (n : Nat) (line : List Char) (rest : List (List Char)) :
    sitesFrom n (line :: rest) =
      (scanCalls line).map (fun site => (n, site)) ++ sitesFrom (n + 1) rest := by
  rw [sitesFrom, List.zipIdx_cons, List.flatMap_cons, sitesFrom]

/-- A call of a sketch: its line, its place there, and what became of it. -/
structure Entry where
  line : Nat
  site : Site
  answer : Except Diagnostic (Operation × Option Diagnostic)

/-- The operation of a call. -/
def Entry.operation? (e : Entry) : Option Operation :=
  match e.answer with
  | .ok (op, _) => some op
  | .error _ => none

/-- The report on a call, before it is referred to a line. -/
def draft? : Except Diagnostic (Operation × Option Diagnostic) → Option Diagnostic
  | .ok (_, report) => report
  | .error report => some report

/-- The report on a call. -/
def Entry.report? (e : Entry) : Option Diagnostic := (draft? e.answer).map (·.atLine e.line)

theorem Account.draft {scope : Scope} {v : Verb} {args : List (List Char)}
    {answer : Except Diagnostic (Operation × Option Diagnostic)}
    (h : Account scope v args answer) {d : Diagnostic} (hd : draft? answer = some d) :
    d.line = none ∧ d.code ∈ [.malformedExpression, .missingArgument, .unevaluableArgument] := by
  cases h with
  | drawn op => cases hd
  | asItStands => cases hd; exact ⟨rfl, by simp [Malformed.diagnostic, Diagnostic.ofDetail]⟩
  | missing => cases hd; exact ⟨rfl, by simp [missingArgument, Diagnostic.ofDetail]⟩
  | unevaluable => cases hd; exact ⟨rfl, by simp [unevaluableArgument, Diagnostic.ofDetail]⟩

/-- The calls of a sketch. -/
def Scope.entries (scope : Scope) (lines : List (List Char)) : List Entry :=
  (sitesFrom 1 lines).map fun s =>
    ⟨s.1, s.2, scope.operation s.2.verb (splitArguments s.2.arguments)⟩

theorem outcome_eq (scope : Scope) (n : Nat) (site : Site) :
    scope.outcome n site =
      let e : Entry := ⟨n, site, scope.operation site.verb (splitArguments site.arguments)⟩
      (e.operation?, e.report?) := by
  rw [Scope.outcome]
  rcases scope.operation site.verb (splitArguments site.arguments) with report | ⟨op, report⟩
  · rfl
  · rfl

theorem outcomesFrom_eq (scope : Scope) (n : Nat) (lines : List (List Char)) :
    scope.outcomesFrom n lines = (sitesFrom n lines).map fun s => scope.outcome s.1 s.2 := by
  induction lines generalizing n with
  | nil => rfl
  | cons line rest ih =>
    rw [Scope.outcomesFrom, sitesFrom_cons, List.map_append, List.map_map, ih]
    rfl

theorem extract_eq (scope : Scope) (lines : List (List Char)) :
    scope.extract lines = ((scope.entries lines).filterMap Entry.operation?,
      (scope.entries lines).filterMap Entry.report?) := by
  rw [Scope.extract, outcomesFrom_eq, Scope.entries]
  simp only [List.filterMap_map, outcome_eq]
  rfl

theorem start_of_siteAt? {start : Nat} {s : List Char} {site : Site}
    (h : siteAt? start s = some site) : site.start = start := by
  simp only [siteAt?, Option.bind_eq_bind, Option.bind_eq_some_iff, Option.some.injEq] at h
  obtain ⟨_, _, _, _, rfl⟩ := h
  rfl

/-- What is scanned behind the first `skip` characters begins behind them, one call after the
other. -/
theorem scanFrom_pairwise (start skip : Nat) (s : List Char) :
    (scanFrom start skip s).Pairwise (fun s t => s.stop ≤ t.start) ∧
      ∀ t ∈ scanFrom start skip s, start + skip ≤ t.start := by
  induction s generalizing start skip with
  | nil => exact ⟨.nil, by simp [scanFrom]⟩
  | cons c rest ih =>
    cases skip with
    | succ skip =>
      obtain ⟨hordered, hbehind⟩ := ih (start + 1) skip
      exact ⟨hordered, fun t ht => by have := hbehind t ht; omega⟩
    | zero =>
      rw [scanFrom]
      split
      · next site hsite =>
        obtain ⟨hordered, hbehind⟩ := ih (start + 1) (site.stop - start - 1)
        have hstart := start_of_siteAt? hsite
        refine ⟨List.pairwise_cons.2 ⟨fun t ht => ?_, hordered⟩, fun t ht => ?_⟩
        · have := hbehind t ht
          omega
        · rcases List.mem_cons.1 ht with rfl | ht
          · omega
          · have := hbehind t ht
            omega
      · obtain ⟨hordered, hbehind⟩ := ih (start + 1) 0
        exact ⟨hordered, fun t ht => by have := hbehind t ht; omega⟩

theorem scanCalls_pairwise (line : List Char) :
    (scanCalls line).Pairwise fun s t => s.stop ≤ t.start := (scanFrom_pairwise 0 0 line).1

theorem sitesFrom_lines (n : Nat) (lines : List (List Char)) :
    (sitesFrom n lines).Pairwise (fun s t => s.1 ≤ t.1) ∧
      ∀ s ∈ sitesFrom n lines, n ≤ s.1 ∧ s.1 < n + lines.length := by
  induction lines generalizing n with
  | nil => exact ⟨.nil, by simp [sitesFrom]⟩
  | cons line rest ih =>
    obtain ⟨hordered, hrange⟩ := ih (n + 1)
    rw [sitesFrom_cons]
    have hfirst : ∀ s ∈ (scanCalls line).map (fun site => (n, site)), s.1 = n := by
      simp
    refine ⟨List.pairwise_append.2 ⟨?_, hordered, fun s hs t ht => ?_⟩, fun s hs => ?_⟩
    · exact List.pairwise_map.2 (List.pairwise_of_forall fun _ _ => Nat.le_refl n)
    · rw [hfirst s hs]
      exact Nat.le_of_succ_le (hrange t ht).1
    · rw [List.length_cons]
      rcases List.mem_append.1 hs with hs | hs
      · rw [hfirst s hs]
        omega
      · have := hrange s hs
        omega

end Call

end SketchPreview
