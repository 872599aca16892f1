import SketchPreview.Font.Bdf
import SketchPreview.Proofs.Text

/-!
# Rows of dots as hexadecimal digits

A row is filled up with empty dots to whole bytes, and four dots at a time make up a digit. Which
sixteen characters the digits are does not matter, as long as they are read as their values.

* `Digits`: the spelling of sixteen digits, `Digits.upper`, `Digits.lower`;
* `wholeBytes`, `Digits.row`: the digits of a row;
* **`rowBits_row`**: the dots are read back.
-/

namespace SketchPreview.Bdf

open Text

/-! ## Writing a row -/

/-- A spelling of the hexadecimal digits. -/
structure Digits where
  digit : Nat → Char
  hexValue?_digit : ∀ n < 16, hexValue? (digit n) = some n

/-- The digits with small letters. -/
def Digits.lower : Digits := ⟨Nat.digitChar, by decide⟩

/-- The digits with capital letters. -/
def Digits.upper : Digits := ⟨fun n => n.digitChar.toUpper, by decide⟩

/-- The value of four dots, the first one the highest. -/
def nibble (a b c d : Bool) : Nat := 8 * a.toNat + 4 * b.toNat + 2 * c.toNat + d.toNat

/-- One digit for each four dots. -/
def Digits.ofDots (ds : Digits) : List Bool → List Char
  | a :: b :: c :: d :: rest => ds.digit (nibble a b c d) :: ds.ofDots rest
  | _ => []

/-- A row, filled up on the right with empty dots to whole bytes. -/
def wholeBytes (row : List Bool) : List Bool :=
  row ++ List.replicate ((8 - row.length % 8) % 8) false

/-- The digits of a row. -/
def Digits.row (ds : Digits) (row : List Bool) : List Char := ds.ofDots (wholeBytes row)

/-! ## Reading it back -/

variable {ds : Digits}

theorem nibble_lt (a b c d : Bool) : nibble a b c d < 16 := by
  revert a b c d
  decide

theorem nibbleBits_nibble (a b c d : Bool) : nibbleBits (nibble a b c d) = [a, b, c, d] := by
  revert a b c d
  decide

theorem hexValue?_of_mem_ofDots {l : List Bool} {c : Char} (h : c ∈ ds.ofDots l) :
    (hexValue? c).isSome = true := by
  fun_induction Digits.ofDots ds l with
  | case1 a b c' d rest ih =>
    rcases List.mem_cons.1 h with rfl | h
    · rw [ds.hexValue?_digit _ (nibble_lt a b c' d)]
      rfl
    · exact ih h
  | case2 => cases h

/-- The digits stand for the dots that they are made of, four at a time. -/
theorem leadingHex_ofDots (ds : Digits) {l : List Bool} (h : 4 ∣ l.length) :
    (leadingHex (ds.ofDots l)).flatMap nibbleBits = l ∧
      4 * (leadingHex (ds.ofDots l)).length = l.length ∧ 4 * (ds.ofDots l).length = l.length := by
  fun_induction Digits.ofDots ds l with
  | case1 a b c d rest ih =>
    have hrest : 4 ∣ rest.length := by
      simp only [List.length_cons] at h
      omega
    obtain ⟨hbits, hvalues, hdigits⟩ := ih hrest
    rw [leadingHex, ds.hexValue?_digit _ (nibble_lt a b c d)]
    refine ⟨?_, ?_, ?_⟩
    · rw [List.flatMap_cons, nibbleBits_nibble, hbits]
      rfl
    · simp only [List.length_cons]
      omega
    · simp only [List.length_cons]
      omega
  | case2 l hl =>
    obtain rfl : l = [] := by
      match l, hl with
      | [], _ => rfl
      | [_], _ | [_, _], _ | [_, _, _], _ => simp at h
      | a :: b :: c :: d :: rest, hl => exact absurd rfl (hl a b c d rest)
    exact ⟨rfl, rfl, rfl⟩

theorem dvd_length_wholeBytes (row : List Bool) : 8 ∣ (wholeBytes row).length := by
  rw [wholeBytes, List.length_append, List.length_replicate]
  omega

/-- **The dots of a row are read back** from its digits. -/
theorem rowBits_row (ds : Digits) (row : List Bool) : rowBits (ds.row row) row.length = row := by
  obtain ⟨hbits, hvalues, hdigits⟩ := leadingHex_ofDots ds (l := wholeBytes row)
    (Nat.dvd_trans (by decide) (dvd_length_wholeBytes row))
  have hlength : row.length ≤ (wholeBytes row).length := by
    rw [wholeBytes, List.length_append]
    exact Nat.le_add_right _ _
  rw [rowBits, Digits.row, hdigits, hvalues, Nat.max_eq_right hlength, Nat.sub_self, hbits,
    List.replicate_zero, List.nil_append, wholeBytes, List.take_left]

/-! ## The characters of a row -/

theorem isWordChar_of_hexValue? {c : Char} (h : (hexValue? c).isSome = true) :
    isWordChar c = true := by
  have hrange : '0' ≤ c ∧ c ≤ '9' ∨ 'a' ≤ c ∧ c ≤ 'f' ∨ 'A' ≤ c ∧ c ≤ 'F' := by
    unfold hexValue? at h
    grind
  simp only [Char.le_def, UInt32.le_iff_toNat_le, Char.reduceVal, UInt32.reduceToNat,
    Char.toNat_val] at hrange
  rw [isWordChar_iff, isWordStart_iff]
  omega

theorem isBlank_of_mem_row {row : List Bool} {c : Char} (h : c ∈ ds.row row) : isBlank c = false :=
  isBlank_of_isWordChar (isWordChar_of_hexValue? (hexValue?_of_mem_ofDots h))

theorem startsWith_row {row : List Bool} {word : List Char} {c : Char} (hc : c ∈ word)
    (hvalue : hexValue? c = none) : startsWith (ds.row row) word = false := by
  rw [← Bool.not_eq_true, startsWith_iff]
  intro hword
  have hdigit := hexValue?_of_mem_ofDots (hword.subset hc)
  rw [hvalue] at hdigit
  cases hdigit

end SketchPreview.Bdf
