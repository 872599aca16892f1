import Mathlib.Logic.Equiv.Basic
import SketchPreview.Compile
import SketchPreview.Proofs.Compile.Call
import SketchPreview.Proofs.Compile.Definitions
import SketchPreview.Proofs.Text

/-!
# Lines that play no part in the same pass may be swapped

A pass sees of a line only what it looks for, and its number only in reports. So two adjacent lines
that are not both macros, not both constants and do not both hold calls can be swapped: all that
changes is which number each of them has in reports.

* `Diagnostic.renumber`, `zipIdx_swap`: other numbers for lines, and those of swapped lines;
* `Definitions.pass_swap`, `extract_swap`: the passes;
* **`compile_swap`**.
-/

namespace SketchPreview

/-! ## Other numbers -/

/-- A report with another number for its line. -/
def Diagnostic.renumber (π : Equiv.Perm Nat) (d : Diagnostic) : Diagnostic :=
  { d with line := d.line.map π }

theorem Diagnostic.renumber_atLine (π : Equiv.Perm Nat) (d : Diagnostic) (n : Nat) :
    (d.atLine n).renumber π = d.atLine (π n) := rfl

section Zip

variable {α : Type}

theorem map_zipIdx_eq_self {π : Equiv.Perm Nat} {l : List α} {n : Nat}
    (h : ∀ k, n ≤ k → k < n + l.length → π k = k) :
    (l.zipIdx n).map (Prod.map id π) = l.zipIdx n := by
  refine (List.map_congr_left fun p hp => ?_).trans (List.map_id _)
  exact Prod.ext rfl (h p.2 (List.le_snd_of_mem_zipIdx hp) (List.snd_lt_add_of_mem_zipIdx hp))

/-- **Swapped lines** are the same numbered lines with two of them in another order, once the
numbers of these two are exchanged. -/
theorem zipIdx_swap (earlier later : List α) (a b : α) (n : Nat) :
    (earlier ++ b :: a :: later).zipIdx n =
      (earlier.zipIdx n ++ (b, n + earlier.length + 1) :: (a, n + earlier.length) ::
        later.zipIdx (n + earlier.length + 2)).map
        (Prod.map id (Equiv.swap (n + earlier.length) (n + earlier.length + 1))) := by
  rw [List.map_append, List.map_cons, List.map_cons, map_zipIdx_eq_self, map_zipIdx_eq_self,
    List.zipIdx_append, List.zipIdx_cons, List.zipIdx_cons]
  · simp
  · intro k hlow _
    exact Equiv.swap_apply_of_ne_of_ne (by omega) (by omega)
  · intro k _ hhigh
    exact Equiv.swap_apply_of_ne_of_ne (by omega) (by omega)

end Zip

/-! ## Definitions -/

namespace Symbols.Definitions

variable {match? : List Char → Option Definition} {reportUnknown : Bool} {size : Dimensions}

/-- The same definitions with other numbers in their reports. -/
def renumber (π : Equiv.Perm Nat) (ds : Definitions) : Definitions :=
  { ds with diagnostics := ds.diagnostics.map (·.renumber π) }

theorem bind_renumber (π : Equiv.Perm Nat) (ds : Definitions) (n : Nat) (d : Definition) :
    (ds.renumber π).bind reportUnknown size (π n) d =
      (ds.bind reportUnknown size n d).renumber π := by
  rw [bind, bind, show (ds.renumber π).table = ds.table from rfl]
  cases Expr.evaluate d.expression ds.table size with
  | ok value =>
    by_cases hreport : reportUnknown && value.isNaN
    · simp only [renumber, hreport, if_true, List.map_append, List.map_singleton,
        Diagnostic.renumber_atLine]
    · simp only [renumber, if_neg hreport]
  | error malformed =>
    simp only [renumber, List.map_append, List.map_singleton, Diagnostic.renumber_atLine]

theorem step_renumber (π : Equiv.Perm Nat) (ds : Definitions) (p : List Char × Nat) :
    step match? reportUnknown size (ds.renumber π) (Prod.map id π p) =
      (step match? reportUnknown size ds p).renumber π := by
  rw [step, step, Prod.map_fst, Prod.map_snd, id]
  split
  · exact bind_renumber π ds _ _
  · rfl

theorem foldl_step_renumber (π : Equiv.Perm Nat) (ds : Definitions) (ps : List (List Char × Nat)) :
    (ps.map (Prod.map id π)).foldl (step match? reportUnknown size) (ds.renumber π) =
      (ps.foldl (step match? reportUnknown size) ds).renumber π := by
  induction ps generalizing ds with
  | nil => rfl
  | cons p rest ih => rw [List.map_cons, List.foldl_cons, step_renumber, ih, List.foldl_cons]

/-- Numbered lines of which at most one holds a definition may be taken in either order. -/
theorem step_comm {p q : List Char × Nat} (h : match? p.1 = none ∨ match? q.1 = none)
    (ds : Definitions) :
    step match? reportUnknown size (step match? reportUnknown size ds p) q =
      step match? reportUnknown size (step match? reportUnknown size ds q) p := by
  have hskip : ∀ {r : List Char × Nat}, match? r.1 = none →
      ∀ ds, step match? reportUnknown size ds r = ds := by
    intro r hr ds
    rw [step, hr]
  rcases h with h | h <;> rw [hskip h, hskip h]

variable (reportUnknown size) in
/-- **A pass over swapped lines.** -/
theorem pass_swap {a b : List Char} (h : match? a = none ∨ match? b = none) (table : SymbolTable)
    (n : Nat) (earlier later : List (List Char)) :
    pass match? reportUnknown size n ⟨table, 0, []⟩ (earlier ++ b :: a :: later) =
      (pass match? reportUnknown size n ⟨table, 0, []⟩ (earlier ++ a :: b :: later)).renumber
        (Equiv.swap (n + earlier.length) (n + earlier.length + 1)) := by
  -- both passes begin without reports, where other numbers change nothing
  have hstart : (⟨table, 0, []⟩ : Definitions) = renumber
    (Equiv.swap (n + earlier.length) (n + earlier.length + 1)) ⟨table, 0, []⟩ := rfl
  rw [pass_eq_foldl, pass_eq_foldl, zipIdx_swap]
  conv => lhs; rw [hstart]
  rw [foldl_step_renumber, List.zipIdx_append, List.zipIdx_cons, List.zipIdx_cons,
    List.foldl_append, List.foldl_append, List.foldl_cons, List.foldl_cons, List.foldl_cons,
    List.foldl_cons, step_comm h.symm]

end Symbols.Definitions

/-! ## Calls -/

namespace Call

theorem sitesFrom_swap {a b : List Char} (h : scanCalls a = [] ∨ scanCalls b = []) (n : Nat)
    (earlier later : List (List Char)) :
    sitesFrom n (earlier ++ b :: a :: later) =
      (sitesFrom n (earlier ++ a :: b :: later)).map
        (Prod.map (Equiv.swap (n + earlier.length) (n + earlier.length + 1)) id) := by
  have hline : ∀ (π : Equiv.Perm Nat) (p : List Char × Nat),
      (scanCalls (Prod.map id π p).1).map (fun site => ((Prod.map id π p).2, site)) =
        ((scanCalls p.1).map fun site => (p.2, site)).map (Prod.map π id) := by
    intro π p
    rw [List.map_map]
    rfl
  rw [sitesFrom, sitesFrom, zipIdx_swap, List.flatMap_map, List.map_flatMap]
  simp only [hline]
  rw [List.zipIdx_append, List.zipIdx_cons, List.zipIdx_cons, List.flatMap_append,
    List.flatMap_append]
  rcases h with h | h <;> simp [h]

theorem outcome_renumber (scope : Scope) (π : Equiv.Perm Nat) (n : Nat) (site : Site) :
    scope.outcome (π n) site =
      Prod.map id (Option.map (Diagnostic.renumber π)) (scope.outcome n site) := by
  unfold Scope.outcome
  split
  · next op report _ => cases report <;> rfl
  · rfl

/-- **The scan of swapped lines.** -/
theorem extract_swap {a b : List Char} (h : scanCalls a = [] ∨ scanCalls b = []) (scope : Scope)
    (earlier later : List (List Char)) :
    scope.extract (earlier ++ b :: a :: later) =
      Prod.map id (List.map (Diagnostic.renumber
        (Equiv.swap (1 + earlier.length) (1 + earlier.length + 1))))
        (scope.extract (earlier ++ a :: b :: later)) := by
  rw [Scope.extract, Scope.extract, outcomesFrom_eq, outcomesFrom_eq, sitesFrom_swap h]
  refine Prod.ext ?_ ?_
  · simp only [List.filterMap_map, Function.comp_def, Prod.map_fst, Prod.map_snd, id,
      outcome_renumber]
  · simp only [List.filterMap_map, Function.comp_def, Prod.map_fst, Prod.map_snd, id,
      outcome_renumber, List.map_filterMap]

end Call

/-! ## A sketch -/

theorem compileLines_swap {a b : List Char}
    (hdefine : Symbols.macro? a = none ∨ Symbols.macro? b = none)
    (hconstant : Symbols.constant? a = none ∨ Symbols.constant? b = none)
    (hcalls : Call.scanCalls a = [] ∨ Call.scanCalls b = [])
    (earlier later : List (List Char)) (size : Dimensions) (now : Moment) :
    compileLines (earlier ++ b :: a :: later) size now =
      { compileLines (earlier ++ a :: b :: later) size now with
        diagnostics := (compileLines (earlier ++ a :: b :: later) size now).diagnostics.map
          (Diagnostic.renumber (Equiv.swap (1 + earlier.length) (1 + earlier.length + 1))) } := by
  have hmacros := Symbols.Definitions.pass_swap false size hdefine (.ofSize size) 1 earlier later
  have hconstants := fun table =>
    Symbols.Definitions.pass_swap true size hconstant table 1 earlier later
  have hextract := fun scope => Call.extract_swap hcalls scope earlier later
  rw [compileLines, compileLines]
  simp only [Symbols.defineMacros, Symbols.defineConstants, hmacros, hconstants, hextract,
    Symbols.Definitions.renumber, List.map_append, Prod.map_fst, Prod.map_snd, id,
    List.length_append, List.length_cons]

/-- **Lines that play no part in the same pass may be swapped.** There is a sketch with the two
lines swapped, and every such sketch gives the same operations and statistics, and the same reports
once the two numbers are exchanged. -/
theorem compile_swap {source : String} {earlier later : List (List Char)} {a b : List Char}
    (hsource : Text.lines source.toList = earlier ++ a :: b :: later)
    (hdefine : Symbols.macro? a = none ∨ Symbols.macro? b = none)
    (hconstant : Symbols.constant? a = none ∨ Symbols.constant? b = none)
    (hcalls : Call.scanCalls a = [] ∨ Call.scanCalls b = []) (size : Dimensions) (now : Moment) :
    (∃ swapped : String, Text.lines swapped.toList = earlier ++ b :: a :: later) ∧
      ∀ swapped : String, Text.lines swapped.toList = earlier ++ b :: a :: later →
        compile swapped size now =
          { compile source size now with
            diagnostics := (compile source size now).diagnostics.map (Diagnostic.renumber
              (Equiv.swap (earlier.length + 1) (earlier.length + 2))) } := by
  constructor
  · refine Text.exists_lines (by simp) fun line hline =>
      Text.not_mem_of_mem_lines (s := source.toList) ?_
    rw [hsource]
    simp only [List.mem_append, List.mem_cons] at hline ⊢
    tauto
  · intro swapped hswapped
    rw [compile, hswapped, compileLines_swap hdefine hconstant hcalls, compile, hsource,
      Nat.add_comm 1]

theorem compile_swap_macro_below_call :
    Text.lines "drawBox(0, 0, A, A);\n#define A 2".toList =
        [] ++ "drawBox(0, 0, A, A);".toList :: "#define A 2".toList :: [] ∧
      (∃ swapped : String, Text.lines swapped.toList =
        [] ++ "#define A 2".toList :: "drawBox(0, 0, A, A);".toList :: []) ∧
      ∀ swapped : String, Text.lines swapped.toList =
          [] ++ "#define A 2".toList :: "drawBox(0, 0, A, A);".toList :: [] →
        compile swapped .standard default =
          { compile "drawBox(0, 0, A, A);\n#define A 2" .standard default with
            diagnostics :=
              (compile "drawBox(0, 0, A, A);\n#define A 2" .standard default).diagnostics.map
                (Diagnostic.renumber (Equiv.swap 1 2)) } :=
  ⟨by decide, compile_swap (by decide) (.inl (by decide)) (.inl (by decide)) (.inr (by decide)) _ _⟩

end SketchPreview
