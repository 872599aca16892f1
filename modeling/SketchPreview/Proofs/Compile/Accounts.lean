import SketchPreview.Compile
import SketchPreview.Proofs.Compile.Call
import SketchPreview.Proofs.Compile.Definitions
import SketchPreview.Proofs.Expr.Stray

/-!
# A compilation accounts for everything in its sketch

* `Diagnostic.describe?`, `Diagnostic.stamp?`: reports that must not be described or referred to a
  line twice;
* `compile?`: compiling with such reports;
* `pass?_eq`, `compile?_eq`: none of them is refused;
* `scopeOf`, `Compilation.Accounts`: calls, definitions and reports of a sketch;
* **`compile_accounts`**.
-/

namespace SketchPreview

open Symbols Call SketchPreview.Expr

/-! ## Reports that are described and stamped once -/

/-- A report as it is begun. -/
def Diagnostic.fresh (code : Code) : Diagnostic := ⟨code, none, ""⟩

/-- Adds the particulars of a report that has none. -/
def Diagnostic.describe? (d : Diagnostic) (detail : String) : Option Diagnostic :=
  if d.detail = "" then some { d with detail } else none

/-- Refers a report to a line that refers to none. -/
def Diagnostic.stamp? (d : Diagnostic) (n : Nat) : Option Diagnostic :=
  if d.line = none then some (d.atLine n) else none

theorem Diagnostic.stamp?_of_line {d : Diagnostic} (h : d.line = none) (n : Nat) :
    d.stamp? n = some (d.atLine n) := if_pos h

/-- Takes in a definition with reports that are described and stamped once. -/
def Symbols.Definitions.bind? (ds : Definitions) (reportUnknown : Bool) (size : Dimensions)
    (n : Nat) (d : Definition) : Option Definitions :=
  match evaluate d.expression ds.table size with
  | .ok value => do
    let bound : Definitions :=
      { ds with table := ds.table.insert (String.ofList d.name) value, count := ds.count + 1 }
    if reportUnknown && value.isNaN then
      let stamped ← (Diagnostic.fresh .undefinedValue).stamp? n
      let report ← stamped.describe? (undefinedValue d).detail
      some { bound with diagnostics := ds.diagnostics ++ [report] }
    else some bound
  | .error malformed => do
    let report ← malformed.diagnostic.stamp? n
    some { ds with diagnostics := ds.diagnostics ++ [report] }

/-- A pass with such reports. -/
def Symbols.Definitions.pass? (match? : List Char → Option Definition) (reportUnknown : Bool)
    (size : Dimensions) (n : Nat) (ds : Definitions) : List (List Char) → Option Definitions
  | [] => some ds
  | line :: rest => do
    let ds ← match match? line with
      | some d => ds.bind? reportUnknown size n d
      | none => some ds
    ds.pass? match? reportUnknown size (n + 1) rest

/-- The report on a call, if there is one, stamped once. -/
def Call.Entry.stamped? (e : Entry) : Option (Option Diagnostic) :=
  match draft? e.answer with
  | some report => (report.stamp? e.line).map some
  | none => some none

/-- The reports on calls, each of them stamped once. -/
def Call.stampAll? : List Entry → Option (List Diagnostic)
  | [] => some []
  | e :: rest => do
    let report ← e.stamped?
    let reports ← stampAll? rest
    some (report.toList ++ reports)

/-- Compiles a sketch with reports that are described and stamped once. -/
def compile? (source : String) (size : Dimensions) (now : Moment) : Option Compilation := do
  let lines := Text.lines source.toList
  let macros ← Definitions.pass? macro? false size 1 ⟨.ofSize size, 0, []⟩ lines
  let constants ← Definitions.pass? constant? true size 1 ⟨macros.table, 0, []⟩ lines
  let entries := Scope.entries ⟨constants.table, size, now⟩ lines
  let reports ← stampAll? entries
  some
    { operations := entries.filterMap (·.operation?)
      statistics := ⟨lines.length, macros.count, constants.count⟩
      diagnostics := macros.diagnostics ++ constants.diagnostics ++ reports }

theorem bind?_eq (ds : Definitions) (reportUnknown : Bool) (size : Dimensions) (n : Nat)
    (d : Definition) :
    ds.bind? reportUnknown size n d = some (ds.bind reportUnknown size n d) := by
  rw [Definitions.bind?, Definitions.bind]
  cases evaluate d.expression ds.table size with
  | error malformed => rfl
  | ok value =>
    dsimp only
    by_cases hreport : reportUnknown && value.isNaN
    · rw [if_pos hreport, if_pos hreport]
      rfl
    · rw [if_neg hreport, if_neg hreport]

theorem pass?_eq (match? : List Char → Option Definition) (reportUnknown : Bool) (size : Dimensions)
    (n : Nat) (ds : Definitions) (lines : List (List Char)) :
    ds.pass? match? reportUnknown size n lines =
      some (ds.pass match? reportUnknown size n lines) := by
  induction lines generalizing n ds with
  | nil => rfl
  | cons line rest ih =>
    rw [Definitions.pass?, Definitions.pass]
    cases match? line with
    | some d => simp only [bind?_eq, Option.bind_eq_bind, Option.bind_some, ih]
    | none => exact ih _ _

theorem stamped?_eq {scope : Scope} {e : Entry}
    (h : Account scope e.site.verb (splitArguments e.site.arguments) e.answer) :
    e.stamped? = some e.report? := by
  unfold Entry.stamped? Entry.report?
  cases hdraft : draft? e.answer with
  | none => rfl
  | some report => exact congrArg (Option.map some) (Diagnostic.stamp?_of_line (h.draft hdraft).1 _)

theorem stampAll?_eq {scope : Scope} {entries : List Entry}
    (h : ∀ e ∈ entries, Account scope e.site.verb (splitArguments e.site.arguments) e.answer) :
    stampAll? entries = some (entries.filterMap (·.report?)) := by
  induction entries with
  | nil => rfl
  | cons e rest ih =>
    rw [stampAll?, stamped?_eq (h e List.mem_cons_self),
      ih fun e' he' => h e' (List.mem_cons_of_mem _ he'), List.filterMap_cons]
    cases e.report? <;> rfl

theorem account_of_mem_entries {scope : Scope} {lines : List (List Char)} {e : Entry}
    (h : e ∈ scope.entries lines) :
    Account scope e.site.verb (splitArguments e.site.arguments) e.answer := by
  obtain ⟨s, -, rfl⟩ := List.mem_map.1 h
  exact account_operation _ _ _

/-- **No report is described or stamped twice.** -/
theorem compile?_eq (source : String) (size : Dimensions) (now : Moment) :
    compile? source size now = some (compile source size now) := by
  rw [compile?, compile, compileLines, defineMacros, defineConstants]
  simp only [pass?_eq, Option.bind_eq_bind, Option.bind_some, extract_eq,
    stampAll?_eq fun e he => account_of_mem_entries he]

/-! ## The accounts -/

/-- What the calls of a sketch may refer to. -/
def scopeOf (lines : List (List Char)) (size : Dimensions) (now : Moment) : Scope :=
  ⟨(defineConstants (defineMacros (.ofSize size) size lines).table size lines).table, size, now⟩

/-- How the calls, definitions and reports of a sketch hang together: `macros` and `constants` are
the reports of the first two passes, and `entries` the calls. -/
structure Compilation.Accounts (c : Compilation) (lines : List (List Char)) (scope : Scope)
    (macros constants : List Diagnostic) (entries : List Entry) : Prop where
  /-- The calls line by line, and from left to right. -/
  sites : entries.map (fun e => (e.line, e.site)) = sitesFrom 1 lines
  leftToRight : ∀ line ∈ lines, (scanCalls line).Pairwise fun s t => s.stop ≤ t.start
  answers : ∀ e ∈ entries, Account scope e.site.verb (splitArguments e.site.arguments) e.answer
  operations : c.operations = entries.filterMap (·.operation?)
  diagnostics : c.diagnostics = macros ++ constants ++ entries.filterMap (·.report?)
  lineCount : c.statistics.lines = lines.length
  macroCount : lines.countP (fun line => (macro? line).isSome) = c.statistics.macros + macros.length
  constantCount : lines.countP (fun line => (constant? line).isSome) =
    c.statistics.constants + constants.countP (fun d => d.code = .malformedExpression)
  macroReports : Located c.statistics.lines macros
  constantReports : Located c.statistics.lines constants
  callReports : Located c.statistics.lines (entries.filterMap (·.report?))
  noInternalError : ∀ d ∈ c.diagnostics, d.code ≠ .internalError

theorem located_reports (scope : Scope) (lines : List (List Char)) :
    Located lines.length ((scope.entries lines).filterMap (·.report?)) := by
  obtain ⟨hordered, hrange⟩ := sitesFrom_lines 1 lines
  have hline : ∀ e : Entry, ∀ d, e.report? = some d → d.line = some e.line := by
    intro e d hd
    obtain ⟨draft, -, rfl⟩ := Option.map_eq_some_iff.1 hd
    rfl
  refine ⟨fun d hd => ?_, ?_⟩
  · obtain ⟨e, he, hd⟩ := List.mem_filterMap.1 hd
    obtain ⟨s, hs, rfl⟩ := List.mem_map.1 he
    have := hrange s hs
    exact ⟨s.1, hline _ d hd, this.1, by omega⟩
  · have hentries : (scope.entries lines).Pairwise fun e e' => e.line ≤ e'.line :=
      List.pairwise_map.2 hordered
    refine hentries.filterMap _ fun e e' hle d hd d' hd' k k' hk hk' => ?_
    obtain rfl := Option.some.inj ((hline e d hd).symm.trans hk)
    obtain rfl := Option.some.inj ((hline e' d' hd').symm.trans hk')
    exact hle

theorem code_of_report {scope : Scope} {lines : List (List Char)} {d : Diagnostic}
    (h : d ∈ (scope.entries lines).filterMap (·.report?)) : d.code ≠ .internalError := by
  obtain ⟨e, he, hd⟩ := List.mem_filterMap.1 h
  obtain ⟨draft, hdraft, rfl⟩ := Option.map_eq_some_iff.1 hd
  have hcode := ((account_of_mem_entries he).draft hdraft).2
  intro hinternal
  rw [show draft.code = .internalError from hinternal] at hcode
  simp at hcode

/-- **A compilation accounts for everything in its sketch**, no report is described or stamped
twice, and no expression fails for a fault of the compiler. -/
theorem compile_accounts (source : String) (size : Dimensions) (now : Moment) :
    (compile source size now).Accounts (Text.lines source.toList)
        (scopeOf (Text.lines source.toList) size now)
        (defineMacros (.ofSize size) size (Text.lines source.toList)).diagnostics
        (defineConstants (defineMacros (.ofSize size) size (Text.lines source.toList)).table size
          (Text.lines source.toList)).diagnostics
        ((scopeOf (Text.lines source.toList) size now).entries (Text.lines source.toList)) ∧
      compile? source size now = some (compile source size now) ∧
      (∀ code detail, (Diagnostic.fresh code).describe? detail = some (.ofDetail code detail)) ∧
      ∀ expr symbols malformed, evaluate expr symbols size = .error malformed →
        malformed.fault ≠ .strayToken := by
  refine ⟨?_, compile?_eq source size now, fun _ _ => rfl, fun expr symbols malformed h =>
    evaluate_ne_strayToken expr symbols size h⟩
  generalize hlines : Text.lines source.toList = lines
  have hmacros := Definitions.tally_pass macro? false size (.ofSize size) lines
  have hconstants := Definitions.tally_pass constant? true size
    (defineMacros (.ofSize size) size lines).table lines
  have hmalformed : ∀ d ∈ (defineMacros (.ofSize size) size lines).diagnostics,
      d.code = .malformedExpression := fun d hd => by
    simpa using hmacros.kinds d hd
  have hreports : (compile source size now).diagnostics =
      (defineMacros (.ofSize size) size lines).diagnostics ++
        (defineConstants (defineMacros (.ofSize size) size lines).table size lines).diagnostics ++
        ((scopeOf lines size now).entries lines).filterMap (·.report?) := by
    rw [compile, hlines, compileLines, extract_eq]
    rfl
  have hcompile : compile source size now = compileLines lines size now := by
    rw [compile, hlines]
  exact {
    sites := by
      rw [Scope.entries, List.map_map]
      exact List.map_id _
    leftToRight := fun line _ => scanCalls_pairwise line
    answers := fun e he => account_of_mem_entries he
    operations := by
      rw [hcompile, compileLines, extract_eq]
      rfl
    diagnostics := hreports
    lineCount := by rw [hcompile]; rfl
    macroCount := by
      rw [hmacros.counted, hcompile]
      congr 1
      exact List.countP_eq_length.2 fun d hd => decide_eq_true (hmalformed d hd)
    constantCount := by
      rw [hconstants.counted, hcompile]
      rfl
    macroReports := by rw [hcompile]; exact hmacros.located
    constantReports := by rw [hcompile]; exact hconstants.located
    callReports := by rw [hcompile]; exact located_reports _ lines
    noInternalError := fun d hd => by
      rw [hreports, List.mem_append, List.mem_append] at hd
      rcases hd with (hd | hd) | hd
      · rw [hmalformed d hd]
        decide
      · rcases hconstants.kinds d hd with hcode | ⟨-, hcode⟩ <;> rw [hcode] <;> decide
      · exact code_of_report hd }

end SketchPreview
