import Mathlib.Data.Nat.Find
import SketchPreview.Proofs.Text

/-!
# The first word that is read

Some readers go over a text from the left and try to read something at each place where a word may
begin, that is, not behind a character of a word. The first place where this succeeds gives the
answer.

* `previous?`, `BeginsWord`: places where a word may begin;
* `IsFirst`: a place with what is found there, when nothing is found at any smaller place;
  `exists_isFirst_of_exists`, `forall_not_isFirst_iff`, `exists_isFirst_or_iff`: when there is one;
* `firstWord?`: the search; `firstWord?_eq_some_iff`, **`firstWord?_false_eq_some_iff`**: what it
  finds.
-/

namespace SketchPreview.Text

variable {α : Type}

/-! ## Places -/

/-- The character in front of a place. -/
def previous? (s : List Char) : ℕ → Option Char
  | 0 => none
  | i + 1 => s[i]?

/-- No word goes on at place `i` of a text. -/
def BeginsWord (s : List Char) (i : ℕ) : Prop := (previous? s i).any isWordChar = false

instance (s : List Char) (i : ℕ) : Decidable (BeginsWord s i) := inferInstanceAs (Decidable (_ = _))

/-- `P` holds of `i` and `x`, and of no smaller place. -/
def IsFirst (P : ℕ → α → Prop) (i : ℕ) (x : α) : Prop := P i x ∧ ∀ j < i, ∀ y, ¬P j y

theorem exists_isFirst_iff {P : ℕ → α → Prop} {x : α} : (∃ i, IsFirst P i x) ↔
    P 0 x ∨ (∀ y, ¬P 0 y) ∧ ∃ i, IsFirst (fun i => P (i + 1)) i x := by
  constructor
  · rintro ⟨i, hi, hleast⟩
    cases i with
    | zero => exact .inl hi
    | succ i =>
      refine .inr ⟨hleast 0 (Nat.succ_pos i), i, hi, fun j hj => ?_⟩
      exact hleast (j + 1) (Nat.succ_lt_succ hj)
  · rintro (h | ⟨hzero, i, hi, hleast⟩)
    · exact ⟨0, h, fun j hj => absurd hj (Nat.not_lt_zero j)⟩
    · refine ⟨i + 1, hi, fun j hj => ?_⟩
      cases j with
      | zero => exact hzero
      | succ j => exact hleast j (Nat.lt_of_succ_lt_succ hj)

theorem exists_isFirst_of_exists {P : ℕ → α → Prop} (h : ∃ i x, P i x) :
    ∃ i x, IsFirst P i x := by
  classical
  obtain ⟨x, hx⟩ := Nat.find_spec h
  exact ⟨Nat.find h, x, hx, fun j hj y hy => Nat.find_min h hj ⟨y, hy⟩⟩

theorem forall_not_isFirst_iff {P : ℕ → α → Prop} :
    (∀ x i, ¬IsFirst P i x) ↔ ∀ i x, ¬P i x := by
  refine ⟨fun h i x hx => ?_, fun h x i hx => h i x hx.1⟩
  obtain ⟨j, y, hy⟩ := exists_isFirst_of_exists ⟨i, x, hx⟩
  exact h y j hy

theorem exists_isFirst_or_iff {P : ℕ → α → Prop} {i : ℕ} {x y : α} (h : ∀ j z, P j z → i < j) :
    (∃ j, IsFirst (fun j z => (j = i ∧ z = x) ∨ P j z) j y) ↔ y = x := by
  constructor
  · rintro ⟨j, ⟨-, hy⟩ | hj, hleast⟩
    · exact hy
    · exact absurd (.inl ⟨rfl, rfl⟩) (hleast i (h j y hj) x)
  · rintro rfl
    refine ⟨i, .inl ⟨rfl, rfl⟩, ?_⟩
    rintro j hj z (⟨rfl, -⟩ | hz)
    · exact hj.ne rfl
    · exact hj.asymm (h j z hz)

/-! ## The search -/

variable (read? : List Char → Option α)

/-- What is read at the first place where a word may begin and something is read; `inWord` tells
whether a word goes on from the text in front. -/
def firstWord? (inWord : Bool) : List Char → Option α
  | [] => none
  | c :: rest => (if inWord then none else read? (c :: rest)).or (firstWord? (isWordChar c) rest)

/-- Whether a word goes on at a place. -/
def inWordAt (inWord : Bool) (s : List Char) : ℕ → Bool
  | 0 => inWord
  | i + 1 => s[i]?.any isWordChar

/-- What is read at a place where no word goes on. -/
def ReadAt (inWord : Bool) (s : List Char) (i : ℕ) (x : α) : Prop :=
  inWordAt inWord s i = false ∧ read? (s.drop i) = some x

variable {read?}

theorem readAt_succ {inWord : Bool} {c : Char} {rest : List Char} (i : ℕ) :
    ReadAt read? inWord (c :: rest) (i + 1) = ReadAt read? (isWordChar c) rest i := by
  cases i <;> rfl

theorem readAt_false_iff {s : List Char} {i : ℕ} {x : α} :
    ReadAt read? false s i x ↔ BeginsWord s i ∧ read? (s.drop i) = some x := by
  cases i <;> rfl

/-- What the search finds, by induction on the text. -/
theorem firstWord?_eq_some_iff (hnil : read? [] = none) {inWord : Bool} {s : List Char} {x : α} :
    firstWord? read? inWord s = some x ↔ ∃ i, IsFirst (ReadAt read? inWord s) i x := by
  induction s generalizing inWord with
  | nil =>
    refine iff_of_false nofun ?_
    rintro ⟨i, ⟨-, hi⟩, -⟩
    rw [List.drop_nil, hnil] at hi
    cases hi
  | cons c rest ih =>
    rw [exists_isFirst_iff]
    simp only [readAt_succ]
    rw [← ih, firstWord?, Option.or_eq_some_iff]
    cases inWord with
    | true =>
      refine or_congr (iff_of_false nofun fun h => Bool.noConfusion h.1) (and_congr_left' ?_)
      exact iff_of_true rfl fun y h => Bool.noConfusion h.1
    | false =>
      refine or_congr (and_iff_right rfl).symm (and_congr_left' ?_)
      rw [if_neg Bool.false_ne_true, Option.eq_none_iff_forall_ne_some]
      exact forall_congr' fun y => not_congr (and_iff_right rfl).symm

/-- **What the search finds from the beginning of a text** is what stands at the first place where a
word may begin, `P` telling what is read. -/
theorem firstWord?_false_eq_some_iff {P : List Char → α → Prop}
    (hread : ∀ s x, read? s = some x ↔ P s x) (hnil : read? [] = none) {s : List Char} {x : α} :
    firstWord? read? false s = some x ↔
      ∃ i, IsFirst (fun i x => BeginsWord s i ∧ P (s.drop i) x) i x := by
  have hplaces : ReadAt read? false s = fun i x => BeginsWord s i ∧ P (s.drop i) x := by
    funext i x
    exact propext (readAt_false_iff.trans (and_congr_right' (hread _ x)))
  rw [firstWord?_eq_some_iff hnil, hplaces]

end SketchPreview.Text
