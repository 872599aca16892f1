import SketchPreview.Json.Parser
import SketchPreview.Proofs.Expr.Yard

/-!
# Integers are read back

* `head?_toDigits`: only zero begins with a zero;
* `Stops`: what may follow a number;
* `unsigned?_toDigits`: the number of a run of digits;
* **`number?_ofInt`**: the number that is written for an integer.
-/

namespace SketchPreview.Json

/-! ## Digits -/

theorem exists_toDigits_eq_cons (n : Nat) :
    ∃ c ds, Nat.toDigits 10 n = c :: ds ∧ c.isDigit = true := by
  obtain ⟨c, ds, hdigits⟩ := List.exists_cons_of_ne_nil (Nat.toDigits_ne_nil (n := n) (b := 10))
  exact ⟨c, ds, hdigits,
    Nat.isDigit_of_mem_toDigits (by decide) (by decide) (hdigits ▸ List.mem_cons_self)⟩

theorem head?_toDigits {n : Nat} (h : 0 < n) : (Nat.toDigits 10 n).head? ≠ some '0' := by
  induction n using Nat.strongRecOn with
  | ind n ih =>
    rw [Nat.toDigits_eq_if (by decide)]
    split
    · next hlt =>
      have hall : ∀ n < 10, 0 < n → [n.digitChar].head? ≠ some '0' := by decide
      exact hall n hlt h
    · next hge =>
      obtain ⟨c, rest, hdigits, -⟩ := exists_toDigits_eq_cons (n / 10)
      have hhead := ih (n / 10) (by omega) (by omega)
      rw [hdigits] at hhead ⊢
      exact hhead

theorem toList_toString (n : Nat) : (toString n).toList = Nat.toDigits 10 n := Nat.toList_repr

/-! ## Numbers -/

/-- Whether a text can follow a number, so that the number does not go on. -/
def Stops (s : List Char) : Prop :=
  ∀ c ∈ s.head?, c.isDigit = false ∧ c ≠ '.' ∧ c ≠ 'e' ∧ c ≠ 'E'

namespace Numeral

theorem digits?_append {ds rest : List Char} (hne : ds ≠ []) (hds : ∀ c ∈ ds, c.isDigit = true)
    (h : Stops rest) : digits? (ds ++ rest) = some (ds, rest) := by
  obtain ⟨htake, hdrop⟩ := takeWhile_dropWhile_of_stop hds fun c hc => (h c hc).1
  rw [digits?, htake, hdrop, if_neg (by simpa using hne)]

theorem wholePart?_toDigits (n : Nat) {rest : List Char} (h : Stops rest) :
    wholePart? (Nat.toDigits 10 n ++ rest) = some (Nat.toDigits 10 n, rest) := by
  rcases Nat.eq_zero_or_pos n with rfl | hn
  · rfl
  · unfold wholePart?
    split
    · next heq =>
      obtain ⟨c, ds, hdigits, -⟩ := exists_toDigits_eq_cons n
      rw [hdigits, List.cons_append] at heq
      refine absurd ?_ (head?_toDigits hn)
      rw [hdigits, (List.cons.inj heq).1]
      rfl
    · exact digits?_append Nat.toDigits_ne_nil
        (fun c hc => Nat.isDigit_of_mem_toDigits (by decide) (by decide) hc) h

theorem fractionPart?_of_stops {rest : List Char} (h : Stops rest) :
    fractionPart? rest = some ([], rest) := by
  unfold fractionPart?
  split
  · exact absurd rfl (h '.' rfl).2.1
  · rfl

theorem exponentPart?_of_stops {rest : List Char} (h : Stops rest) :
    exponentPart? rest = some ([], rest) := by
  cases rest with
  | nil => rfl
  | cons c rest =>
    obtain ⟨-, -, hlower, hupper⟩ := h c rfl
    rw [exponentPart?, if_neg (not_or.2 ⟨hlower, hupper⟩)]

theorem unsigned?_toDigits (negative : Bool) (n : Nat) {rest : List Char} (h : Stops rest) :
    unsigned? negative (Nat.toDigits 10 n ++ rest) =
      some (⟨negative, Nat.toDigits 10 n, [], []⟩, rest) := by
  simp only [unsigned?, wholePart?_toDigits n h, fractionPart?_of_stops h, exponentPart?_of_stops h,
    Option.bind_eq_bind, Option.bind_some]

theorem read?_toDigits (n : Nat) {rest : List Char} (h : Stops rest) :
    read? (Nat.toDigits 10 n ++ rest) = some (⟨false, Nat.toDigits 10 n, [], []⟩, rest) := by
  unfold read?
  split
  · next heq =>
    obtain ⟨c, ds, hdigits, hc⟩ := exists_toDigits_eq_cons n
    rw [hdigits, List.cons_append] at heq
    rw [(List.cons.inj heq).1] at hc
    cases hc
  · exact unsigned?_toDigits false n h

end Numeral

theorem ofNumeral_toDigits (n : Nat) :
    ofNumeral ⟨false, Nat.toDigits 10 n, [], []⟩ = int n := by
  simp only [ofNumeral, Numeral.toInt?, Text.readNat_toDigits]
  rfl

theorem ofNumeral_neg_toDigits (n : Nat) :
    ofNumeral ⟨true, Nat.toDigits 10 (n + 1), [], []⟩ = int (Int.negSucc n) := by
  simp only [ofNumeral, Numeral.toInt?, Text.readNat_toDigits]
  rfl

theorem ofInt_ofNat (n : Nat) : Text.ofInt (Int.ofNat n) = Nat.toDigits 10 n := Nat.toList_repr

theorem ofInt_negSucc (n : Nat) : Text.ofInt (Int.negSucc n) = '-' :: Nat.toDigits 10 (n + 1) := by
  show ("-" ++ (n + 1).repr).toList = _
  rw [String.toList_append, Nat.toList_repr]
  rfl

/-- **An integer is read back.** -/
theorem number?_ofInt (n : Int) {rest : List Char} (h : Stops rest) :
    number? (Text.ofInt n ++ rest) = some (int n, rest) := by
  cases n with
  | ofNat n =>
    rw [ofInt_ofNat, number?, Numeral.read?_toDigits n h, Option.map_some, ofNumeral_toDigits]
    rfl
  | negSucc n =>
    rw [ofInt_negSucc, List.cons_append, number?, Numeral.read?,
      Numeral.unsigned?_toDigits true _ h, Option.map_some, ofNumeral_neg_toDigits]

end SketchPreview.Json
