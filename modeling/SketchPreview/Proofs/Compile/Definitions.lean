import Mathlib.Data.List.Induction
import SketchPreview.Symbols.Define

/-!
# What becomes of a definition

A line that defines a name binds it or is reported as malformed, and never both. A name bound to an
unknown value may be reported too.

* `Located`: reports on some lines, in the order of the lines;
* `Definitions.step`, `Definitions.pass_eq_foldl`: a pass, one numbered line after the other;
* `Definitions.Tally`: every definition of some lines is accounted for;
* `Definitions.Tally.bind`, **`Definitions.tally_pass`**: one definition, and a pass.
-/

namespace SketchPreview

/-! ## Reports on lines -/

/-- Reports on the first `n` lines, in their order. -/
structure Located (n : Nat) (reports : List Diagnostic) : Prop where
  numbered : ∀ d ∈ reports, ∃ k, d.line = some k ∧ 1 ≤ k ∧ k ≤ n
  ordered : reports.Pairwise fun d d' => ∀ k k', d.line = some k → d'.line = some k' → k ≤ k'

theorem located_nil (n : Nat) : Located n [] := ⟨by simp, .nil⟩

theorem Located.mono {n n' : Nat} {reports : List Diagnostic} (h : Located n reports)
    (hn : n ≤ n') : Located n' reports where
  numbered d hd := by
    obtain ⟨k, hk, hlow, hhigh⟩ := h.numbered d hd
    exact ⟨k, hk, hlow, Nat.le_trans hhigh hn⟩
  ordered := h.ordered

theorem Located.concat {n : Nat} {reports : List Diagnostic} (h : Located n reports)
    (d : Diagnostic) : Located (n + 1) (reports ++ [d.atLine (n + 1)]) where
  numbered d' hd' := by
    rcases List.mem_append.1 hd' with hd' | hd'
    · exact (h.mono (Nat.le_succ n)).numbered d' hd'
    · obtain rfl := List.mem_singleton.1 hd'
      exact ⟨n + 1, rfl, by omega, Nat.le_refl _⟩
  ordered := by
    refine List.pairwise_append.2
      ⟨h.ordered, List.pairwise_singleton _ _, fun d' hd' d'' hd'' => ?_⟩
    obtain rfl := List.mem_singleton.1 hd''
    obtain ⟨k, hk, -, hhigh⟩ := h.numbered d' hd'
    intro k₁ k₂ hk₁ hk₂
    obtain rfl := Option.some.inj (hk.symm.trans hk₁)
    obtain rfl : n + 1 = k₂ := Option.some.inj hk₂
    omega

/-! ## Definitions -/

namespace Symbols.Definitions

open SketchPreview.Expr

variable {match? : List Char → Option Definition} {reportUnknown : Bool} {size : Dimensions}

/-- Takes in the line `p.1` with its number `p.2`. -/
def step (match? : List Char → Option Definition) (reportUnknown : Bool) (size : Dimensions)
    (ds : Definitions) (p : List Char × Nat) : Definitions :=
  match match? p.1 with
  | some d => ds.bind reportUnknown size p.2 d
  | none => ds

theorem pass_eq_foldl (ds : Definitions) (n : Nat) (lines : List (List Char)) :
    ds.pass match? reportUnknown size n lines =
      (lines.zipIdx n).foldl (step match? reportUnknown size) ds := by
  induction lines generalizing ds n with
  | nil => rfl
  | cons line rest ih =>
    rw [pass, ih]
    rfl

/-- Of the lines that define a name, each one is counted or reported as malformed. -/
structure Tally (match? : List Char → Option Definition) (reportUnknown : Bool)
    (lines : List (List Char)) (ds : Definitions) : Prop where
  counted : lines.countP (fun line => (match? line).isSome) =
    ds.count + ds.diagnostics.countP (fun d => d.code = .malformedExpression)
  kinds : ∀ d ∈ ds.diagnostics,
    d.code = .malformedExpression ∨ reportUnknown = true ∧ d.code = .undefinedValue
  located : Located lines.length ds.diagnostics

section Tally

variable {lines : List (List Char)} {ds : Definitions} {line : List Char}

theorem countP_concat_some {d : Definition} (hline : match? line = some d) :
    (lines ++ [line]).countP (fun line => (match? line).isSome) =
      lines.countP (fun line => (match? line).isSome) + 1 := by
  rw [List.countP_append, List.countP_singleton, hline]
  rfl

theorem Tally.skip (h : Tally match? reportUnknown lines ds) (hline : match? line = none) :
    Tally match? reportUnknown (lines ++ [line]) ds where
  counted := by
    rw [List.countP_append, List.countP_singleton, hline]
    exact h.counted
  kinds := h.kinds
  located := h.located.mono (by simp)

/-- **One definition** is counted or reported as malformed. -/
theorem Tally.bind (h : Tally match? reportUnknown lines ds) {d : Definition}
    (hline : match? line = some d) :
    Tally match? reportUnknown (lines ++ [line])
      (ds.bind reportUnknown size (lines.length + 1) d) := by
  have hlength : (lines ++ [line]).length = lines.length + 1 := by simp
  unfold Definitions.bind
  split
  · next value hvalue =>
    by_cases hreport : reportUnknown && value.isNaN
    · rw [if_pos hreport]
      refine ⟨?_, fun d' hd' => ?_, hlength ▸ h.located.concat _⟩
      · rw [countP_concat_some hline, h.counted, List.countP_append, List.countP_singleton]
        simp [Diagnostic.atLine, undefinedValue, Diagnostic.ofDetail]
        omega
      · rcases List.mem_append.1 hd' with hd' | hd'
        · exact h.kinds d' hd'
        · obtain rfl := List.mem_singleton.1 hd'
          exact .inr ⟨(Bool.and_eq_true_iff.1 hreport).1, rfl⟩
    · rw [if_neg hreport]
      refine ⟨?_, h.kinds, h.located.mono (by omega)⟩
      rw [countP_concat_some hline, h.counted, Nat.add_right_comm]
  · next malformed hmalformed =>
    refine ⟨?_, fun d' hd' => ?_, hlength ▸ h.located.concat _⟩
    · rw [countP_concat_some hline, h.counted, List.countP_append, List.countP_singleton]
      simp [Diagnostic.atLine, Malformed.diagnostic, Diagnostic.ofDetail]
      omega
    · rcases List.mem_append.1 hd' with hd' | hd'
      · exact h.kinds d' hd'
      · obtain rfl := List.mem_singleton.1 hd'
        exact .inl rfl

end Tally

/-- **A pass**, by induction from its last line. -/
theorem tally_pass (match? : List Char → Option Definition) (reportUnknown : Bool)
    (size : Dimensions) (table : SymbolTable) (lines : List (List Char)) :
    Tally match? reportUnknown lines
      (pass match? reportUnknown size 1 ⟨table, 0, []⟩ lines) := by
  induction lines using List.reverseRecOn with
  | nil => exact ⟨rfl, by simp [pass], located_nil _⟩
  | append_singleton lines line ih =>
    rw [pass_eq_foldl] at ih ⊢
    rw [List.zipIdx_append, List.foldl_append, Nat.add_comm, List.zipIdx_cons, List.zipIdx_nil,
      List.foldl_cons, List.foldl_nil, step]
    split
    · next d hline => exact ih.bind hline
    · next hline => exact ih.skip hline

end Symbols.Definitions

end SketchPreview
