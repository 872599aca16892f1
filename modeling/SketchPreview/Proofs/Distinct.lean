import Mathlib.Data.List.Basic
import Mathlib.Tactic.Tauto

/-!
# Lists without repetitions

* `nodup_eraseDups`, `eraseDups_append_cons`: each element once, at the place of its first
  occurrence;
* `idxOf_lt_idxOf_of_mem`, `mem_of_idxOf_lt_idxOf`: what stands behind an element, and in front of
  it;
* `mem_eraseReps`, `eraseReps_sublist`: neighbours that are equal taken together.
-/

namespace SketchPreview

variable {α : Type} [BEq α] [LawfulBEq α]

/-! ## Each element once -/

/-- By induction on the length: what is behind the first element no longer holds it. -/
theorem nodup_eraseDups (l : List α) : l.eraseDups.Nodup := by
  induction hn : l.length using Nat.strongRecOn generalizing l with
  | ind n ih =>
    cases l with
    | nil => exact .nil
    | cons a rest =>
      rw [List.eraseDups_cons]
      refine List.nodup_cons.2 ⟨fun hmem => ?_, ih _ ?_ _ rfl⟩
      · simpa using (List.mem_filter.1 (List.mem_eraseDups.1 hmem)).2
      · rw [← hn, List.length_cons]
        exact Nat.lt_succ_of_le (List.length_filter_le _ _)

theorem eraseDups_append_cons {l : List α} {a : α} (ha : a ∉ l) (r : List α) :
    ∃ rest, (l ++ a :: r).eraseDups = l.eraseDups ++ a :: rest := by
  have hnew : l.contains a = false := by simpa using ha
  rw [List.eraseDups_append, List.cons_removeAll, if_pos hnew, List.eraseDups_cons]
  exact ⟨_, rfl⟩

/-! ## Places -/

section Place

variable {l r : List α} {a b : α}

theorem idxOf_append_cons (ha : a ∉ l) : (l ++ a :: r).idxOf a = l.length := by
  rw [List.idxOf_append_of_notMem ha, List.idxOf_cons_self, Nat.add_zero]

theorem idxOf_lt_idxOf_of_mem (h : (l ++ a :: r).Nodup) (hb : b ∈ r) :
    (l ++ a :: r).idxOf a < (l ++ a :: r).idxOf b := by
  obtain ⟨-, hr, hdisjoint⟩ := List.nodup_append.1 h
  have hba : a ≠ b := fun heq => (List.nodup_cons.1 hr).1 (heq ▸ hb)
  have hbl : b ∉ l := fun hmem => hdisjoint b hmem b (List.mem_cons_of_mem a hb) rfl
  have hal : a ∉ l := fun hmem => hdisjoint a hmem a List.mem_cons_self rfl
  rw [idxOf_append_cons hal, List.idxOf_append_of_notMem hbl, List.idxOf_cons_ne r hba]
  omega

theorem mem_of_idxOf_lt_idxOf (ha : a ∉ l)
    (h : (l ++ a :: r).idxOf b < (l ++ a :: r).idxOf a) : b ∈ l := by
  by_contra hb
  rw [idxOf_append_cons ha, List.idxOf_append_of_notMem hb] at h
  omega

end Place

/-! ## Neighbours taken together -/

theorem mem_eraseRepsBy_loop (as : List α) (a : α) (acc : List α) (b : α) :
    b ∈ List.eraseRepsBy.loop (· == ·) a as acc ↔ b = a ∨ b ∈ as ∨ b ∈ acc := by
  induction as generalizing a acc with
  | nil => simp [List.eraseRepsBy.loop, or_comm]
  | cons a' as ih =>
    rw [List.eraseRepsBy.loop]
    split
    · next h =>
      obtain rfl := eq_of_beq h
      rw [ih, List.mem_cons]
      tauto
    · rw [ih, List.mem_cons, List.mem_cons]
      tauto

theorem mem_eraseReps {l : List α} {b : α} : b ∈ l.eraseReps ↔ b ∈ l := by
  cases l with
  | nil => rfl
  | cons a as =>
    refine (mem_eraseRepsBy_loop as a [] b).trans ?_
    rw [List.mem_cons, or_iff_left List.not_mem_nil]

omit [LawfulBEq α] in
theorem eraseRepsBy_loop_sublist (as : List α) (a : α) (acc : List α) :
    (List.eraseRepsBy.loop (· == ·) a as acc).Sublist (acc.reverse ++ a :: as) := by
  induction as generalizing a acc with
  | nil => simp [List.eraseRepsBy.loop]
  | cons a' as ih =>
    rw [List.eraseRepsBy.loop]
    split
    · refine (ih a acc).trans (List.Sublist.append_left ?_ _)
      exact (List.sublist_cons_self a' as).cons_cons a
    · have h := ih a' (a :: acc)
      rwa [List.reverse_cons, List.append_assoc, List.singleton_append] at h

omit [LawfulBEq α] in
theorem eraseReps_sublist (l : List α) : l.eraseReps.Sublist l := by
  cases l with
  | nil => exact .slnil
  | cons a as => exact eraseRepsBy_loop_sublist as a []

end SketchPreview
