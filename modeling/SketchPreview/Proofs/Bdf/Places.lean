import Mathlib.Data.Nat.Digits.Defs
import SketchPreview.Font.Bdf

/-!
# A row of dots as a binary number

The hexadecimal digits in front of a row write a number. It stands at the right end of as many
binary places as the row has characters for, or as there are dots, when that is more; the dots are
the first of these places.

* `places`, `places_add`, `places_of_lt`: the binary places of a number, highest first;
* `leadingDigits`, `leadingNumber`: the digits in front of a text and the number that they write;
* `flatMap_nibbleBits`: four places for each digit;
* **`rowBits_eq_ofFn`**: each dot is a place of the number.
-/

namespace SketchPreview.Bdf

open Text

/-! ## Binary places -/

/-- The last `n` binary places of a number, highest first. -/
def places (n v : Nat) : List Bool := (List.range n).map fun i => v.testBit (n - 1 - i)

theorem length_places (n v : Nat) : (places n v).length = n := by
  rw [places, List.length_map, List.length_range]

theorem places_add {v n : Nat} (hv : v < 2 ^ n) (m u : Nat) :
    places (m + n) (2 ^ n * u + v) = places m u ++ places n v := by
  rw [places, List.range_add, List.map_append, List.map_map]
  refine congrArg₂ (· ++ ·) (List.map_congr_left fun i hi => ?_)
    (List.map_congr_left fun i hi => ?_)
  · have hi := List.mem_range.1 hi
    have hplace : m + n - 1 - i - n = m - 1 - i := by omega
    rw [Nat.testBit_two_pow_mul_add u hv, if_neg (by omega), hplace]
  · have hi := List.mem_range.1 hi
    have hplace : m + n - 1 - (m + i) = n - 1 - i := by omega
    rw [Function.comp_apply, Nat.testBit_two_pow_mul_add u hv, if_pos (by omega), hplace]

theorem places_zero (n : Nat) : places n 0 = List.replicate n false := by
  refine List.eq_replicate_iff.2 ⟨length_places n 0, fun b hb => ?_⟩
  obtain ⟨i, -, rfl⟩ := List.mem_map.1 hb
  exact Nat.zero_testBit _

theorem places_of_lt {v n total : Nat} (hv : v < 2 ^ n) (hn : n ≤ total) :
    places total v = List.replicate (total - n) false ++ places n v := by
  have hadd := places_add hv (total - n) 0
  rwa [Nat.mul_zero, Nat.zero_add, Nat.sub_add_cancel hn, places_zero] at hadd

theorem take_places {width total : Nat} (h : width ≤ total) (v : Nat) :
    (places total v).take width = List.ofFn fun i : Fin width => v.testBit (total - 1 - i) := by
  have hlength : ((places total v).take width).length = width := by
    rw [List.length_take, length_places, Nat.min_eq_left h]
  refine List.ext_getElem (hlength.trans List.length_ofFn.symm) fun i _ _ => ?_
  simp only [places, List.getElem_take, List.getElem_map, List.getElem_range, List.getElem_ofFn]

/-! ## The number that a row writes -/

/-- The hexadecimal digits in front of a text, as many as there are. -/
def leadingDigits (row : List Char) : List Char := row.takeWhile fun c => (hexValue? c).isSome

/-- The number that the hexadecimal digits in front of a text write, zero if there are none. -/
def leadingNumber (row : List Char) : Nat :=
  Nat.ofDigits 16 ((leadingDigits row).reverse.map fun c => (hexValue? c).getD 0)

theorem hexValue?_lt {c : Char} {n : Nat} (h : hexValue? c = some n) : n < 16 := by
  unfold hexValue? at h
  simp only [Char.le_def, UInt32.le_iff_toNat_le, Char.reduceVal, UInt32.reduceToNat,
    Char.toNat_val, Char.reduceToNat] at h
  split at h
  · grind
  · grind

theorem leadingHex_eq (row : List Char) :
    leadingHex row = (leadingDigits row).map fun c => (hexValue? c).getD 0 := by
  induction row with
  | nil => rfl
  | cons c rest ih =>
    cases hc : hexValue? c with
    | none => simp [leadingHex, leadingDigits, hc]
    | some n =>
      rw [leadingDigits, List.takeWhile_cons_of_pos (by rw [hc]; rfl), List.map_cons, leadingHex,
        hc, ih]
      rfl

theorem lt_of_mem_leadingHex {row : List Char} {n : Nat} (h : n ∈ leadingHex row) : n < 16 := by
  induction row with
  | nil => cases h
  | cons c rest ih =>
    rw [leadingHex] at h
    split at h
    · next hc =>
      rcases List.mem_cons.1 h with rfl | h
      · exact hexValue?_lt hc
      · exact ih h
    · cases h

theorem length_leadingHex (row : List Char) :
    (leadingHex row).length = (leadingDigits row).length := by
  rw [leadingHex_eq, List.length_map]

theorem leadingNumber_eq (row : List Char) :
    leadingNumber row = Nat.ofDigits 16 (leadingHex row).reverse := by
  rw [leadingNumber, leadingHex_eq, List.map_reverse]

theorem nibbleBits_eq (n : Nat) : nibbleBits n = places 4 n := rfl

theorem ofDigits_lt {digits : List Nat} (h : ∀ n ∈ digits, n < 16) :
    Nat.ofDigits 16 digits.reverse < 2 ^ (4 * digits.length) := by
  have hlt := Nat.ofDigits_lt_base_pow_length (by decide : 1 < 16)
    fun n hn => h n (List.mem_reverse.1 hn)
  rwa [List.length_reverse, show 16 = 2 ^ 4 from rfl, ← Nat.pow_mul] at hlt

/-- The dots of digits, one behind the other, are the places of the number that they write. -/
theorem flatMap_nibbleBits {digits : List Nat} (h : ∀ n ∈ digits, n < 16) :
    digits.flatMap nibbleBits = places (4 * digits.length) (Nat.ofDigits 16 digits.reverse) := by
  induction digits with
  | nil => rfl
  | cons d rest ih =>
    have hrest : ∀ n ∈ rest, n < 16 := fun n hn => h n (List.mem_cons_of_mem d hn)
    have hnumber : Nat.ofDigits 16 (d :: rest).reverse =
        2 ^ (4 * rest.length) * d + Nat.ofDigits 16 rest.reverse := by
      rw [List.reverse_cons, Nat.ofDigits_append, Nat.ofDigits_singleton, List.length_reverse,
        Nat.pow_mul, Nat.add_comm]
    have hlength : 4 * (d :: rest).length = 4 + 4 * rest.length := by
      rw [List.length_cons, Nat.mul_succ, Nat.add_comm]
    rw [List.flatMap_cons, nibbleBits_eq, ih hrest, hnumber, hlength,
      places_add (ofDigits_lt hrest)]

/-! ## The dots of a row -/

theorem length_leadingDigits_le (row : List Char) : (leadingDigits row).length ≤ row.length :=
  (List.takeWhile_sublist _).length_le

/-- **A row is a binary number**, cut behind its first places. Its digits find room in the places
that are counted for it. -/
theorem rowBits_eq_ofFn (row : List Char) (width : Nat) :
    (rowBits row width).length = width ∧
      4 * (leadingDigits row).length ≤ max width (4 * row.length) ∧
      rowBits row width = List.ofFn fun i : Fin width =>
        (leadingNumber row).testBit (max width (4 * row.length) - 1 - i) := by
  have hroom : 4 * (leadingDigits row).length ≤ max width (4 * row.length) :=
    Nat.le_trans (Nat.mul_le_mul_left 4 (length_leadingDigits_le row)) (Nat.le_max_right _ _)
  have hdigits : ∀ n ∈ leadingHex row, n < 16 := fun n => lt_of_mem_leadingHex
  have hroom' : 4 * (leadingHex row).length ≤ max width (4 * row.length) :=
    length_leadingHex row ▸ hroom
  have hbits : rowBits row width = List.ofFn fun i : Fin width =>
      (leadingNumber row).testBit (max width (4 * row.length) - 1 - i) := by
    rw [rowBits, flatMap_nibbleBits hdigits, ← places_of_lt (ofDigits_lt hdigits) hroom',
      ← leadingNumber_eq, take_places (Nat.le_max_left _ _)]
  exact ⟨by rw [hbits, List.length_ofFn], hroom, hbits⟩

example : rowBits "8Z".toList 8 = [false, false, false, false, true, false, false, false] := by
  decide

end SketchPreview.Bdf
