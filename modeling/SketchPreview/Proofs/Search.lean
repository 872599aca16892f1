import Mathlib.Data.List.Induction
import Mathlib.Data.List.Infix
import Mathlib.Order.Bounds.Defs
import SketchPreview.Proofs.Text

/-!
# Where a word is found

Searching for a word finds its first occurrence, which can be told in two ways: the word is not in
the text that ends one character before it is complete, or it stands at no smaller place.

* `cutAt?_append_word`, `cutAt?_eq_some_iff`, `cutAt?_eq_none_iff`: what a search finds;
* `before?_append_word`, `before?_eq_none_iff`, `before?_singleton_eq_some_iff`: the text in front
  of a word or of a character;
* `infix_append_cons_iff`, `infix_trim_iff`: characters that are not in the word;
* `OccursAt`, `isLeast_iff`, `isLeast_occursAt_induction`: the first occurrence from a place on;
* `cutAt?_drop_of_isLeast`, `cutAt?_drop_eq_none_iff`: a search from a place on;
* `OccursAt.set_iff`: a character that is not in a word may be replaced by another such character.
-/

namespace SketchPreview.Text

variable {word s pre rest : List Char}

/-! ## The first occurrence -/

theorem dropPrefix?_append_self (word rest : List Char) :
    dropPrefix? word (word ++ rest) = some rest :=
  dropPrefix?_eq_some_iff.2 rfl

theorem dropPrefix?_eq_none_iff : dropPrefix? word s = none ↔ ¬word <+: s := by
  rw [← startsWith_iff, startsWith, Bool.not_eq_true, Option.isSome_eq_false_iff,
    Option.isNone_iff_eq_none]

theorem cutAt?_word_append (hne : word ≠ []) (rest : List Char) :
    cutAt? word (word ++ rest) = some ([], rest) := by
  obtain ⟨w, word, rfl⟩ := List.exists_cons_of_ne_nil hne
  have hbegins := dropPrefix?_append_self (w :: word) rest
  rw [List.cons_append] at hbegins ⊢
  rw [cutAt?, hbegins]

theorem cutAt?_cons_of_not_front {c : Char} (h : ¬word <+: c :: s) :
    cutAt? word (c :: s) = (cutAt? word s).map fun p => (c :: p.1, p.2) := by
  rw [cutAt?, dropPrefix?_eq_none_iff.2 h]

theorem cutAt?_eq_none_iff : cutAt? word s = none ↔ ¬word <:+: s := by
  induction s with
  | nil =>
    rw [cutAt?, Option.map_eq_none_iff, dropPrefix?_eq_none_iff, List.infix_nil, List.prefix_nil]
  | cons c s ih =>
    rw [List.infix_cons_iff, not_or]
    by_cases h : word <+: c :: s
    · obtain ⟨rest, hrest⟩ := h
      have hbegins := dropPrefix?_eq_some_iff.2 hrest.symm
      rw [cutAt?, hbegins]
      exact iff_of_false nofun fun hnot => hnot.1 ⟨rest, hrest⟩
    · rw [cutAt?_cons_of_not_front h, Option.map_eq_none_iff, ih]
      exact (and_iff_right h).symm

/-- A word is found where it is complete for the first time. -/
theorem cutAt?_append_word (hne : word ≠ []) (hfirst : ¬word <:+: pre ++ word.dropLast)
    (rest : List Char) : cutAt? word (pre ++ word ++ rest) = some (pre, rest) := by
  induction pre with
  | nil => exact cutAt?_word_append hne rest
  | cons c pre ih =>
    rw [List.cons_append, List.infix_cons_iff, not_or] at hfirst
    have hshort : c :: (pre ++ word.dropLast) <+: c :: (pre ++ word ++ rest) := by
      rw [List.append_assoc]
      refine (List.prefix_append_right_inj (c :: pre)).2 ?_
      exact (List.dropLast_prefix word).trans (List.prefix_append word rest)
    have hfront : ¬word <+: c :: (pre ++ word ++ rest) := by
      intro hbegins
      refine hfirst.1 (List.prefix_of_prefix_length_le hbegins hshort ?_)
      simp only [List.length_cons, List.length_append, List.length_dropLast]
      omega
    rw [List.cons_append, List.cons_append, cutAt?_cons_of_not_front hfront, ih hfirst.2]
    rfl

/-- **What a search finds** is the first place where the word is complete. -/
theorem cutAt?_eq_some_iff (hne : word ≠ []) : cutAt? word s = some (pre, rest) ↔
    s = pre ++ word ++ rest ∧ ¬word <:+: pre ++ word.dropLast := by
  constructor
  · intro h
    refine ⟨cutAt?_append h, ?_⟩
    induction s generalizing pre with
    | nil =>
      have hnil := cutAt?_append h
      simp [hne] at hnil
    | cons c s ih =>
      by_cases hfront : word <+: c :: s
      · obtain ⟨behind, hbehind⟩ := hfront
        rw [← hbehind, cutAt?_word_append hne] at h
        cases h
        intro hholds
        have hlength := hholds.length_le
        have hpos := List.length_pos_of_ne_nil hne
        simp only [List.nil_append, List.length_dropLast] at hlength
        omega
      · have hs := cutAt?_append h
        rw [cutAt?_cons_of_not_front hfront] at h
        obtain ⟨⟨pre', behind⟩, hcut, he⟩ := Option.map_eq_some_iff.1 h
        cases he
        rw [List.cons_append, List.infix_cons_iff, not_or]
        refine ⟨fun hbegins => hfront (hbegins.trans ?_), ih hcut⟩
        rw [hs, List.append_assoc]
        refine (List.prefix_append_right_inj (c :: pre')).2 ?_
        exact (List.dropLast_prefix word).trans (List.prefix_append word behind)
  · rintro ⟨rfl, hfirst⟩
    exact cutAt?_append_word hne hfirst rest

theorem before?_eq_none_iff : before? word s = none ↔ ¬word <:+: s := by
  rw [before?, Option.map_eq_none_iff, cutAt?_eq_none_iff]

theorem before?_append_word (hne : word ≠ []) (hfirst : ¬word <:+: pre ++ word.dropLast)
    (rest : List Char) : before? word (pre ++ word ++ rest) = some pre := by
  rw [before?, cutAt?_append_word hne hfirst rest]
  rfl

theorem before?_singleton_eq_some_iff {c : Char} :
    before? [c] s = some pre ↔ c ∉ pre ∧ ∃ rest, s = pre ++ c :: rest := by
  have hword : ([c] : List Char) ≠ [] := List.cons_ne_nil c []
  rw [before?, Option.map_eq_some_iff]
  constructor
  · rintro ⟨⟨front, behind⟩, hcut, rfl⟩
    obtain ⟨hs, hfirst⟩ := (cutAt?_eq_some_iff hword).1 hcut
    exact ⟨by simpa [List.singleton_infix_iff] using hfirst, behind, by simpa using hs⟩
  · rintro ⟨hc, rest, rfl⟩
    refine ⟨(pre, rest), (cutAt?_eq_some_iff hword).2 ⟨by simp, ?_⟩, rfl⟩
    simpa [List.singleton_infix_iff] using hc

/-! ## Words without a character -/

theorem infix_append_cons_iff {t : List Char} {c : Char} (hc : c ∉ word) :
    word <:+: s ++ c :: t ↔ word <:+: s ∨ word <:+: t := by
  constructor
  · intro h
    rcases List.infix_append_iff.1 h with h | h | ⟨u, v, rfl, hu, hv⟩
    · exact .inl h
    · rcases List.infix_cons_iff.1 h with h | h
      · cases word with
        | nil => exact .inr (List.nil_infix)
        | cons w word =>
          exact absurd (List.cons_prefix_cons.1 h).1 (List.ne_of_not_mem_cons hc).symm
      · exact .inr h
    · cases v with
      | nil => exact .inl (by simpa using hu.isInfix)
      | cons a v =>
        obtain rfl := (List.cons_prefix_cons.1 hv).1
        exact absurd (List.mem_append_right u List.mem_cons_self) hc
  · rintro (h | h)
    · exact h.trans (List.prefix_append s _).isInfix
    · exact h.trans ((List.suffix_cons c t).trans (List.suffix_append s _)).isInfix

theorem infix_around_iff {before behind : List Char} (hbefore : ∀ c ∈ before, c ∉ word)
    (hbehind : ∀ c ∈ behind, c ∉ word) (hne : word ≠ []) :
    word <:+: before ++ s ++ behind ↔ word <:+: s := by
  have hfront (t : List Char) : word <:+: before ++ t ↔ word <:+: t := by
    induction before with
    | nil => rfl
    | cons c before ih =>
      obtain ⟨hc, hrest⟩ := List.forall_mem_cons.1 hbefore
      have hsplit := infix_append_cons_iff (s := []) (t := before ++ t) hc
      rw [List.infix_nil, or_iff_right hne, ih hrest] at hsplit
      exact hsplit
  rw [List.append_assoc, hfront]
  induction behind using List.reverseRecOn with
  | nil => rw [List.append_nil]
  | append_singleton behind c ih =>
    have hc := hbehind c (List.mem_append_right _ List.mem_cons_self)
    rw [← List.append_assoc, infix_append_cons_iff hc, List.infix_nil, or_iff_left hne]
    exact ih fun a ha => hbehind a (List.mem_append_left _ ha)

theorem infix_trim_iff (hword : ∀ c ∈ word, isBlank c = false) (hne : word ≠ []) :
    word <:+: trim s ↔ word <:+: s := by
  obtain ⟨before, behind, hbefore, hbehind, hs⟩ := exists_trim s
  have hapart {gap : List Char} (hgap : ∀ c ∈ gap, isBlank c = true) : ∀ c ∈ gap, c ∉ word := by
    intro c hc hmem
    exact absurd ((hword c hmem).symm.trans (hgap c hc)) Bool.false_ne_true
  have haround := infix_around_iff (s := trim s) (hapart hbefore) (hapart hbehind) hne
  rw [← hs] at haround
  exact haround.symm

/-! ## Places -/

/-- The word stands at place `j` of the text. -/
def OccursAt (word s : List Char) (j : ℕ) : Prop := word <+: s.drop j

instance (word s : List Char) (j : ℕ) : Decidable (OccursAt word s j) :=
  inferInstanceAs (Decidable (_ <+: _))

theorem isLeast_iff {P : ℕ → Prop} {p a : ℕ} :
    IsLeast {j | p ≤ j ∧ P j} a ↔ (p ≤ a ∧ P a) ∧ ∀ j < a, p ≤ j → ¬P j := by
  refine and_congr_right fun _ => ⟨fun h j hj hp hP => ?_, fun h j hj => ?_⟩
  · exact absurd (h ⟨hp, hP⟩) (Nat.not_le_of_lt hj)
  · exact Nat.le_of_not_lt fun hlt => h j hlt hj.1 hj.2

theorem occursAt_iff_getElem? {j : ℕ} :
    OccursAt word s j ↔ ∀ k (h : k < word.length), s[j + k]? = some word[k] := by
  rw [OccursAt, List.prefix_iff_getElem?]
  simp only [List.getElem?_drop]

theorem OccursAt.add_length_le (hne : word ≠ []) {j : ℕ} (h : OccursAt word s j) :
    j + word.length ≤ s.length := by
  have hlength := h.length_le
  have hpos := List.length_pos_of_ne_nil hne
  rw [List.length_drop] at hlength
  omega

theorem infix_iff_exists_occursAt : word <:+: s ↔ ∃ j, OccursAt word s j := by
  constructor
  · rintro ⟨before, behind, rfl⟩
    refine ⟨before.length, behind, ?_⟩
    rw [List.append_assoc, List.drop_left]
  · rintro ⟨j, h⟩
    exact h.isInfix.trans (List.drop_suffix j s).isInfix

/-- What holds of the first occurrence holds of a place in front of it, if it may be carried over
each character at which the word does not stand. -/
theorem isLeast_occursAt_induction {motive : ℕ → Prop} {p a : ℕ} (hne : word ≠ [])
    (h : IsLeast {j | p ≤ j ∧ OccursAt word s j} a) (self : motive a)
    (step : ∀ q (hq : q < s.length), q < a → ¬word <+: s[q] :: s.drop (q + 1) → motive (q + 1) →
      motive q) : motive p := by
  obtain ⟨⟨hle, hoccurs⟩, hleast⟩ := h
  have hfits := hoccurs.add_length_le hne
  induction hle using Nat.decreasingInduction with
  | self => exact self
  | of_succ p hp ih =>
    refine step p (by omega) hp ?_ (ih fun j hj => hleast ⟨Nat.le_of_succ_le hj.1, hj.2⟩)
    rw [← List.drop_eq_getElem_cons]
    intro hbegins
    exact absurd (hleast ⟨Nat.le_refl p, hbegins⟩) (Nat.not_le_of_lt hp)

/-- **A search from a place on** ends at the first occurrence behind it. -/
theorem cutAt?_drop_of_isLeast (hne : word ≠ []) {p a : ℕ}
    (h : IsLeast {j | p ≤ j ∧ OccursAt word s j} a) :
    cutAt? word (s.drop p) = some ((s.take a).drop p, s.drop (a + word.length)) := by
  refine isLeast_occursAt_induction (motive := fun p => cutAt? word (s.drop p) =
    some ((s.take a).drop p, s.drop (a + word.length))) hne h ?_ fun q hq hlt hfront ih => ?_
  · obtain ⟨rest, hrest⟩ := h.1.2
    rw [← hrest, cutAt?_word_append hne, ← List.drop_drop, ← hrest, List.drop_left,
      List.drop_take_self]
  · have hbetween : (s.take a).drop q = s[q] :: (s.take a).drop (q + 1) := by
      rw [List.drop_eq_getElem_cons (by rw [List.length_take]; omega), List.getElem_take]
    rw [List.drop_eq_getElem_cons hq, cutAt?_cons_of_not_front hfront, ih, hbetween]
    rfl

theorem cutAt?_drop_eq_none_iff {p : ℕ} :
    cutAt? word (s.drop p) = none ↔ ∀ j, p ≤ j → ¬OccursAt word s j := by
  rw [cutAt?_eq_none_iff, infix_iff_exists_occursAt, not_exists]
  simp only [OccursAt, List.drop_drop]
  constructor
  · intro h j hj
    have hplace := h (j - p)
    rwa [Nat.add_sub_cancel' hj] at hplace
  · exact fun h k => h (p + k) (Nat.le_add_right p k)

/-- **Replacing a character** that is not in a word by another such character moves no occurrence of
the word. -/
theorem OccursAt.set_iff {i j : ℕ} {c : Char} (hs : ∀ a ∈ s[i]?, a ∉ word) (hc : c ∉ word) :
    OccursAt word (s.set i c) j ↔ OccursAt word s j := by
  rw [occursAt_iff_getElem?, occursAt_iff_getElem?]
  refine forall₂_congr fun k hk => ?_
  by_cases hik : i = j + k
  · subst hik
    refine iff_of_false (fun h => hc ?_) fun h => hs _ h (List.getElem_mem hk)
    rw [List.getElem?_set_self'] at h
    obtain ⟨_, -, rfl⟩ := Option.map_eq_some_iff.1 h
    exact List.getElem_mem hk
  · rw [List.getElem?_set_ne hik]

end SketchPreview.Text
