import Mathlib.Order.Bounds.Basic
import Mathlib.Order.Nat
import SketchPreview.Proofs.LineEnding
import SketchPreview.Proofs.Search

/-!
# Where the comments of a sketch stand

The comments of both kinds are found by going over the text from the left: the next one begins at
the first opening mark, and the search goes on where it ends. So the comments are known by their
places, and the places depend on strokes, stars and newlines only.

* `Comment`, `IsLineComment`, `IsBlockComment`, `Scan`: comments as places, found from the left;
* `exists_scan`, `Scan.unique`: there is one such list of comments;
* `lineComments_drop`, `blockComments_drop`: they are the comments that are read;
* `isLineComment_set`, `isBlockComment_set`, `textBetween_set`: another character in the text.
-/

namespace SketchPreview

open Text

/-- The places where a comment begins and where it ends. -/
structure Comment where
  start : ℕ
  stop : ℕ
  deriving DecidableEq, Repr

/-- The place is in the comment. -/
def Comment.Covers (c : Comment) (i : ℕ) : Prop := c.start ≤ i ∧ i < c.stop

instance (c : Comment) (i : ℕ) : Decidable (c.Covers i) := inferInstanceAs (Decidable (_ ∧ _))

/-- There is a newline at place `e`, or nothing. -/
def EndsLine (s : List Char) (e : ℕ) : Prop := ∀ a ∈ s[e]?, a = '\n'

instance (s : List Char) (e : ℕ) : Decidable (EndsLine s e) :=
  decidable_of_iff (s[e]?.all (· == '\n') = true) (by cases h : s[e]? <;> simp [EndsLine, h])

/-- The first comment from place `p` on that reaches to the end of its line. -/
structure IsLineComment (s : List Char) (p : ℕ) (c : Comment) : Prop where
  opens : IsLeast {j | p ≤ j ∧ OccursAt lineMark s j} c.start
  ends : IsLeast {e | c.start + 2 ≤ e ∧ EndsLine s e} c.stop

/-- The first comment from place `p` on that stands between two marks. -/
structure IsBlockComment (s : List Char) (p : ℕ) (c : Comment) : Prop where
  opens : IsLeast {j | p ≤ j ∧ OccursAt openMark s j} c.start
  closes : IsLeast {e | c.start + 4 ≤ e ∧ OccursAt closeMark s (e - 2)} c.stop

/-- The comments from place `p` on, where `first` tells the next one: each search goes on where the
comment before ends. -/
inductive Scan (first : ℕ → Comment → Prop) : ℕ → List Comment → Prop where
  | done {p : ℕ} (none : ∀ c, ¬first p c) : Scan first p []
  | found {p : ℕ} {c : Comment} {cs : List Comment} (next : first p c)
      (more : Scan first c.stop cs) : Scan first p (c :: cs)

/-- The text between two places. -/
def textBetween (s : List Char) (b e : ℕ) : List Char := (s.take e).drop b

/-- The text of a comment behind its mark. -/
def lineText (s : List Char) (c : Comment) : List Char := textBetween s (c.start + 2) c.stop

/-- The text of a comment between its marks. -/
def blockText (s : List Char) (c : Comment) : List Char := textBetween s (c.start + 2) (c.stop - 2)

/-! ## One list of comments -/

section Scan

variable {first : ℕ → Comment → Prop} {p : ℕ} {cs cs' : List Comment}

theorem Scan.unique (hfirst : ∀ p c c', first p c → first p c' → c = c') (h : Scan first p cs)
    (h' : Scan first p cs') : cs = cs' := by
  induction h generalizing cs' with
  | done none =>
    cases h' with
    | done => rfl
    | found next => exact absurd next (none _)
  | found next _ ih =>
    cases h' with
    | done none => exact absurd next (none _)
    | found next' more' =>
      obtain rfl := hfirst _ _ _ next next'
      rw [ih more']

/-- A scan comes to an end, since each comment ends behind the place where the search for it
began. -/
theorem exists_scan {n : ℕ} (hfirst : ∀ p c, first p c → p < c.stop ∧ c.stop ≤ n) (p : ℕ) :
    ∃ cs, Scan first p cs := by
  induction hk : n - p using Nat.strong_induction_on generalizing p with
  | _ k ih =>
    by_cases h : ∃ c, first p c
    · obtain ⟨c, hc⟩ := h
      obtain ⟨hlt, hle⟩ := hfirst p c hc
      obtain ⟨cs, hcs⟩ := ih (n - c.stop) (by omega) c.stop rfl
      exact ⟨c :: cs, .found hc hcs⟩
    · exact ⟨[], .done (not_exists.1 h)⟩

end Scan

variable {s : List Char} {p : ℕ} {c c' : Comment}

theorem IsLineComment.unique (h : IsLineComment s p c) (h' : IsLineComment s p c') : c = c' := by
  obtain ⟨start, stop⟩ := c
  obtain ⟨start', stop'⟩ := c'
  obtain rfl : start = start' := IsLeast.unique h.opens h'.opens
  obtain rfl : stop = stop' := IsLeast.unique h.ends h'.ends
  rfl

theorem IsBlockComment.unique (h : IsBlockComment s p c) (h' : IsBlockComment s p c') :
    c = c' := by
  obtain ⟨start, stop⟩ := c
  obtain ⟨start', stop'⟩ := c'
  obtain rfl : start = start' := IsLeast.unique h.opens h'.opens
  obtain rfl : stop = stop' := IsLeast.unique h.closes h'.closes
  rfl

theorem IsLineComment.bounds (h : IsLineComment s p c) :
    p ≤ c.start ∧ c.start + 2 ≤ c.stop ∧ c.stop ≤ s.length := by
  have hfits : c.start + 2 ≤ s.length := h.opens.1.2.add_length_le (by decide)
  exact ⟨h.opens.1.1, h.ends.1.1, h.ends.2 ⟨hfits, by simp [EndsLine]⟩⟩

theorem IsBlockComment.bounds (h : IsBlockComment s p c) :
    p ≤ c.start ∧ c.start + 4 ≤ c.stop ∧ c.stop ≤ s.length := by
  have hroom := h.closes.1.1
  have hfits : c.stop - 2 + 2 ≤ s.length := h.closes.1.2.add_length_le (by decide)
  exact ⟨h.opens.1.1, hroom, by omega⟩

theorem IsBlockComment.isLeast_close (h : IsBlockComment s p c) :
    IsLeast {j | c.start + 2 ≤ j ∧ OccursAt closeMark s j} (c.stop - 2) := by
  have hroom := h.closes.1.1
  refine ⟨⟨by omega, h.closes.1.2⟩, fun j hj => ?_⟩
  have hle := h.closes.2 (show j + 2 ∈ _ from ⟨by have := hj.1; omega, hj.2⟩)
  omega

theorem exists_scan_line (s : List Char) : ∃ cs, Scan (IsLineComment s) 0 cs := by
  refine exists_scan (n := s.length) (fun p c h => ?_) 0
  have := h.bounds
  omega

theorem exists_scan_block (s : List Char) : ∃ cs, Scan (IsBlockComment s) 0 cs := by
  refine exists_scan (n := s.length) (fun p c h => ?_) 0
  have := h.bounds
  omega

theorem exists_isLineComment (h : ∃ j, p ≤ j ∧ OccursAt lineMark s j) :
    ∃ c, IsLineComment s p c := by
  classical
  have hopens := Nat.isLeast_find h
  have hfits : Nat.find h + 2 ≤ s.length := hopens.1.2.add_length_le (by decide)
  have hends : ∃ e, Nat.find h + 2 ≤ e ∧ EndsLine s e := ⟨s.length, hfits, by simp [EndsLine]⟩
  exact ⟨⟨_, _⟩, hopens, Nat.isLeast_find hends⟩

theorem exists_isBlockComment {a : ℕ} (hopens : IsLeast {j | p ≤ j ∧ OccursAt openMark s j} a)
    (h : ∃ j, a + 2 ≤ j ∧ OccursAt closeMark s j) : ∃ c, IsBlockComment s p c := by
  classical
  obtain ⟨j, hj, hoccurs⟩ := h
  have hcloses : ∃ e, a + 4 ≤ e ∧ OccursAt closeMark s (e - 2) := ⟨j + 2, by omega, hoccurs⟩
  exact ⟨⟨a, _⟩, hopens, Nat.isLeast_find hcloses⟩

/-! ## The comments that are read -/

theorem drop_eq_textBetween_append {b e : ℕ} (h : b ≤ e) (he : e ≤ s.length) :
    s.drop b = textBetween s b e ++ s.drop e := by
  conv_lhs => rw [← List.take_append_drop e s]
  rw [textBetween, List.drop_append_of_le_length (by rw [List.length_take]; omega)]

theorem drop_eq_mark_append {mark : List Char} {a : ℕ} (h : OccursAt mark s a) :
    s.drop a = mark ++ s.drop (a + mark.length) := by
  obtain ⟨rest, hrest⟩ := h
  rw [← List.drop_drop, ← hrest, List.drop_left]

theorem lineComments_cons {a : Char} {t : List Char} (h : ¬lineMark <+: a :: t) :
    lineComments (a :: t) = lineComments t := by
  rw [lineComments, lineComments, pieces]
  split
  · rfl
  · obtain ⟨piece, rest, hpieces⟩ := List.exists_cons_of_ne_nil (pieces_ne_nil '\n' t)
    have hfront : ¬lineMark <+: a :: piece := fun hmark =>
      h (hmark.trans ((List.prefix_append_right_inj [a]).2 (front_of_pieces hpieces)))
    have hcut : (cutAt? lineMark (a :: piece)).map (·.2) = (cutAt? lineMark piece).map (·.2) := by
      rw [cutAt?_cons_of_not_front hfront, Option.map_map]
      rfl
    rw [hpieces, consHead, List.filterMap_cons, List.filterMap_cons, hcut]

theorem lineComments_eq_nil {t : List Char} (h : ¬lineMark <:+: t) : lineComments t = [] := by
  induction t with
  | nil => rfl
  | cons a t ih =>
    rw [List.infix_cons_iff, not_or] at h
    rw [lineComments_cons h.1, ih h.2]

theorem lineComments_mark {text behind : List Char} (htext : '\n' ∉ text)
    (hbehind : ∀ a ∈ behind.head?, a = '\n') :
    lineComments (lineMark ++ (text ++ behind)) = text :: lineComments behind := by
  have hline : lineComments (lineMark ++ text) = [text] := by
    have hmark : '\n' ∉ lineMark ++ text := List.not_mem_append (by decide) htext
    rw [lineComments, pieces_of_not_mem hmark, List.filterMap_cons, cutAt?_word_append (by decide)]
    rfl
  cases behind with
  | nil => rw [List.append_nil, hline]; rfl
  | cons a behind =>
    obtain rfl : a = '\n' := hbehind a rfl
    have hnewline : lineComments ('\n' :: behind) = lineComments behind :=
      lineComments_cons fun hmark => absurd (List.cons_prefix_cons.1 hmark).1 (by decide)
    rw [hnewline, ← List.append_assoc, lineComments, pieces_append, List.filterMap_append]
    exact congrArg (· ++ lineComments behind) hline

theorem lineComments_drop_of_isLeast {a : ℕ}
    (h : IsLeast {j | p ≤ j ∧ OccursAt lineMark s j} a) :
    lineComments (s.drop p) = lineComments (s.drop a) := by
  refine isLeast_occursAt_induction (motive := fun p => lineComments (s.drop p) =
    lineComments (s.drop a)) (by decide) h rfl fun q hq _ hfront ih => ?_
  rw [List.drop_eq_getElem_cons hq, lineComments_cons hfront, ih]

/-- **The line comments that are read** are those that a scan finds. -/
theorem lineComments_drop {cs : List Comment} (h : Scan (IsLineComment s) p cs) :
    lineComments (s.drop p) = cs.map (lineText s) := by
  induction h with
  | @done p none =>
    refine lineComments_eq_nil fun hmark => ?_
    have hnone : cutAt? lineMark (s.drop p) = Option.none :=
      cutAt?_drop_eq_none_iff.2 fun j hj hoccurs =>
        not_exists.2 none (exists_isLineComment ⟨j, hj, hoccurs⟩)
    exact cutAt?_eq_none_iff.1 hnone hmark
  | @found p c cs next _ ih =>
    obtain ⟨-, hroom, hstop⟩ := next.bounds
    have hlength : lineMark.length = 2 := rfl
    have htext : '\n' ∉ lineText s c := by
      intro hmem
      obtain ⟨k, hk⟩ := List.mem_iff_getElem?.1 hmem
      rw [lineText, textBetween, List.getElem?_drop, List.getElem?_take] at hk
      split at hk
      · have := next.ends.2 (show c.start + 2 + k ∈ _ from ⟨by omega, fun a ha => by
          rw [hk] at ha; exact (Option.some.inj ha).symm⟩)
        omega
      · cases hk
    have hbehind : ∀ a ∈ (s.drop c.stop).head?, a = '\n' := by
      rw [List.head?_drop]
      exact next.ends.1.2
    rw [lineComments_drop_of_isLeast next.opens, drop_eq_mark_append next.opens.1.2, hlength,
      drop_eq_textBetween_append hroom hstop]
    exact (lineComments_mark htext hbehind).trans (congrArg (lineText s c :: ·) ih)

/-- **The block comments that are read** are those that a scan finds. -/
theorem blockComments_drop {cs : List Comment} (h : Scan (IsBlockComment s) p cs) :
    blockComments (s.drop p) = cs.map (blockText s) := by
  induction h with
  | @done p none =>
    rw [blockComments_eq]
    by_cases hopen : ∃ j, p ≤ j ∧ OccursAt openMark s j
    · classical
      have hleast := Nat.isLeast_find hopen
      have hunclosed : cutAt? closeMark (s.drop (Nat.find hopen + openMark.length)) = Option.none :=
        cutAt?_drop_eq_none_iff.2 fun j hj hoccurs =>
          not_exists.2 none (exists_isBlockComment hleast ⟨j, hj, hoccurs⟩)
      simp only [cutAt?_drop_of_isLeast (by decide) hleast, hunclosed, List.map_nil]
    · have hnone : cutAt? openMark (s.drop p) = Option.none :=
        cutAt?_drop_eq_none_iff.2 fun j hj hoccurs => hopen ⟨j, hj, hoccurs⟩
      simp only [hnone, List.map_nil]
  | @found p c cs next _ ih =>
    obtain ⟨-, hroom, hstop⟩ := next.bounds
    have hback : c.stop - 2 + closeMark.length = c.stop := by
      have : closeMark.length = 2 := rfl
      omega
    have hinner := cutAt?_drop_of_isLeast (by decide) next.isLeast_close
    rw [hback] at hinner
    have hopen : openMark.length = 2 := rfl
    rw [blockComments_eq]
    simp only [cutAt?_drop_of_isLeast (by decide) next.opens, hopen, hinner, ih, List.map_cons,
      blockText, textBetween]

/-! ## Another character in the text -/

/-- The characters that tell where comments stand. -/
def markChars : List Char := ['/', '*', '\n']

section Set

variable {i : ℕ} {a : Char} (hs : ∀ b ∈ s[i]?, b ∉ markChars) (ha : a ∉ markChars)

include hs ha

theorem occursAt_set {mark : List Char} (hmark : mark ⊆ markChars) (j : ℕ) :
    OccursAt mark (s.set i a) j ↔ OccursAt mark s j :=
  OccursAt.set_iff (fun b hb hmem => hs b hb (hmark hmem)) fun hmem => ha (hmark hmem)

theorem endsLine_set (e : ℕ) : EndsLine (s.set i a) e ↔ EndsLine s e := by
  unfold EndsLine
  have hnewline : '\n' ∈ markChars := by decide
  by_cases hie : i = e
  · subst hie
    rw [List.getElem?_set_self']
    cases hb : s[i]? with
    | none => rfl
    | some b =>
      refine iff_of_false (fun h => ha ?_) fun h => hs b hb ?_
      · rwa [h a rfl]
      · rwa [h b rfl]
  · rw [List.getElem?_set_ne hie]

theorem isLineComment_set : IsLineComment (s.set i a) = IsLineComment s := by
  have hmark := occursAt_set hs ha (show lineMark ⊆ markChars by decide)
  funext p c
  refine propext ⟨fun h => ⟨?_, ?_⟩, fun h => ⟨?_, ?_⟩⟩
  · simpa only [hmark] using h.opens
  · simpa only [endsLine_set hs ha] using h.ends
  · simpa only [hmark] using h.opens
  · simpa only [endsLine_set hs ha] using h.ends

theorem isBlockComment_set : IsBlockComment (s.set i a) = IsBlockComment s := by
  have hopen := occursAt_set hs ha (show openMark ⊆ markChars by decide)
  have hclose := occursAt_set hs ha (show closeMark ⊆ markChars by decide)
  funext p c
  refine propext ⟨fun h => ⟨?_, ?_⟩, fun h => ⟨?_, ?_⟩⟩
  · simpa only [hopen] using h.opens
  · simpa only [hclose] using h.closes
  · simpa only [hopen] using h.opens
  · simpa only [hclose] using h.closes

end Set

theorem textBetween_set {i b e : ℕ} (h : i < b ∨ e ≤ i) (a : Char) :
    textBetween (s.set i a) b e = textBetween s b e := by
  rcases h with h | h
  · rw [textBetween, List.take_set, List.drop_set_of_lt h]
    rfl
  · rw [textBetween, List.take_set_of_le h]
    rfl

end SketchPreview
