import SketchPreview.Proofs.Text
import SketchPreview.Text.Lowercase

/-!
# Marks in lower case

Lower case turns letters into letters. Digits, strokes and underscores lie in front of the small
letters: they stay, and nothing else becomes one of them. So a text in lower case has as many of
each as before.

* `IsMark`, `eq_of_mem_lowerChar`, `count_lowerChar`: one character;
* **`count_lowercase`**: a whole text;
* `lowercase_eq_flatMap`: where no capital sigma stands, the characters are independent.
-/

namespace SketchPreview.Text

/-- A character in front of the small letters that is its own lower-case form. -/
structure IsMark (d : Char) : Prop where
  pos : 0 < d.toNat
  lt : d.toNat < 'a'.toNat
  lowerChar_eq : lowerChar d = [d]

theorem isMark_stroke : IsMark '/' := ⟨by decide, by decide, by decide⟩

theorem isMark_underscore : IsMark '_' := ⟨by decide, by decide, by decide⟩

theorem toNat_ofNat (n : Nat) : (Char.ofNat n).toNat = n ∨ (Char.ofNat n).toNat = 0 := by
  by_cases h : n.isValidChar
  · rw [Char.ofNat, dif_pos h]
    exact .inl rfl
  · rw [Char.ofNat, dif_neg h]
    exact .inr rfl

theorem le_of_mem_lowercaseRanges :
    ∀ r ∈ lowercaseRanges, ('a'.toNat : Int) ≤ r.first + r.offset := by
  decide +kernel

section Mark

variable {d : Char} (hd : IsMark d)
include hd

theorem count_letter {e : Char} (he : 'a'.toNat ≤ e.toNat) : [e].count d = 0 := by
  rw [List.count_eq_zero, List.mem_singleton]
  rintro rfl
  exact absurd hd.lt (Nat.not_lt.2 he)

theorem eq_of_mem_lowerChar {c : Char} (h : d ∈ lowerChar c) : c = d := by
  have hpos := hd.pos
  have hlt : d.toNat < 97 := hd.lt
  unfold lowerChar at h
  -- A plain letter, the dotted I, a character of the table, and any other one.
  split at h
  · rcases toLower_eq_iff.1 (List.mem_singleton.1 h).symm with ⟨hupper, hcode⟩ | ⟨-, h⟩
    · omega
    · exact h
  split at h
  · rcases List.mem_pair.1 h with rfl | rfl <;> exact absurd hlt (by decide)
  split at h
  · next r hr =>
    have hcode := congrArg Char.toNat (List.mem_singleton.1 h)
    have hletter := le_of_mem_lowercaseRanges r (List.mem_of_find?_eq_some hr)
    have hholds := List.find?_some hr
    simp only [CaseRange.holds, Bool.and_eq_true, decide_eq_true_eq] at hholds
    have hsmall : 'a'.toNat = 97 := rfl
    rcases toNat_ofNat ((c.toNat : Int) + r.offset).toNat with h | h <;> omega
  · exact (List.mem_singleton.1 h).symm

theorem count_lowerChar (c : Char) : (lowerChar c).count d = [c].count d := by
  by_cases hc : c = d
  · rw [hc, hd.lowerChar_eq]
  · have hlower : d ∉ lowerChar c := fun h => hc (eq_of_mem_lowerChar hd h)
    rw [List.count_eq_zero.2 hlower, List.count_singleton, if_neg (by simpa using hc)]

theorem count_lowercaseFrom (before s : List Char) :
    (lowercaseFrom before s).count d = s.count d := by
  induction s generalizing before with
  | nil => rfl
  | cons c rest ih =>
    have hfirst : (if c = 'Σ' then [if isFinalSigma before rest then 'ς' else 'σ']
        else lowerChar c).count d = [c].count d := by
      split
      · next hc =>
        rw [hc, count_letter hd (e := 'Σ') (by decide)]
        split <;> exact count_letter hd (by decide)
      · exact count_lowerChar hd c
    rw [lowercaseFrom, List.count_append, ih, hfirst, ← List.count_append]
    rfl

/-- **Lower case keeps the marks of a text.** -/
theorem count_lowercase (s : List Char) : (lowercase s).count d = s.count d :=
  count_lowercaseFrom hd [] s

end Mark

/-- Only a capital sigma looks at what stands around it. -/
theorem lowercaseFrom_eq_flatMap {s : List Char} (h : 'Σ' ∉ s) (before : List Char) :
    lowercaseFrom before s = s.flatMap lowerChar := by
  induction s generalizing before with
  | nil => rfl
  | cons c rest ih =>
    have hc : c ≠ 'Σ' := (List.ne_of_not_mem_cons h).symm
    rw [lowercaseFrom, if_neg hc, ih (List.not_mem_of_not_mem_cons h), List.flatMap_cons]

theorem lowercase_eq_flatMap {s : List Char} (h : 'Σ' ∉ s) : lowercase s = s.flatMap lowerChar :=
  lowercaseFrom_eq_flatMap h []

end SketchPreview.Text
