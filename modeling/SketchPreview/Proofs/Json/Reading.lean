import Mathlib.Data.List.DropRight
import SketchPreview.Proofs.Json.Layout
import SketchPreview.Proofs.Json.Number

/-!
# Written values are read back

The reader passes over the blanks of a layout. Its bound is counted against the length of a text: a
value takes a step at least every two characters, and so does a list of items or fields with one
step more.

* `value?_append`, `stops_append`: blanks in front of a value, and behind one;
* `value?_bracket`, `items?_comma`, `fields?_comma` and so on: one step of the reader;
* `Readable`: a value that is read back from every layout;
* `readable_bool`, `readable_int`, `readable_str`: values of one piece;
* `items?_write`, `readable_arr`, `fields?_write`, `readable_obj`: arrays and objects of readable
  values;
* **`Readable.parse?_write`**: documents.
-/

namespace SketchPreview.Json

/-! ## Blanks -/

theorem skipSpace_append {b : List Char} (hb : ∀ c ∈ b, isSpace c = true) (s : List Char) :
    skipSpace (b ++ s) = skipSpace s := List.dropWhile_append_of_pos hb

theorem skipSpace_cons {c : Char} (hc : isSpace c = false) (s : List Char) :
    skipSpace (c :: s) = c :: s := List.dropWhile_cons_of_neg (by simp [hc])

theorem skipSpace_skipSpace (s : List Char) : skipSpace (skipSpace s) = skipSpace s :=
  List.dropWhile_idempotent _ _

theorem value?_skipSpace (fuel : Nat) (s : List Char) :
    value? fuel (skipSpace s) = value? fuel s := by
  cases fuel with
  | zero => rfl
  | succ fuel => rw [value?, value?, skipSpace_skipSpace]

theorem items?_skipSpace (fuel : Nat) (s : List Char) :
    items? fuel (skipSpace s) = items? fuel s := by
  cases fuel with
  | zero => rfl
  | succ fuel => rw [items?, items?, value?_skipSpace]

theorem fields?_skipSpace (fuel : Nat) (s : List Char) :
    fields? fuel (skipSpace s) = fields? fuel s := by
  cases fuel with
  | zero => rfl
  | succ fuel => rw [fields?, fields?, skipSpace_skipSpace]

theorem value?_append {b : List Char} (hb : ∀ c ∈ b, isSpace c = true) (fuel : Nat)
    (s : List Char) : value? fuel (b ++ s) = value? fuel s := by
  rw [← value?_skipSpace, skipSpace_append hb, value?_skipSpace]

theorem stops_cons {c : Char} (hc : c.isDigit = false ∧ c ≠ '.' ∧ c ≠ 'e' ∧ c ≠ 'E')
    (s : List Char) : Stops (c :: s) := by
  rintro _ ⟨⟩
  exact hc

theorem stops_append {b s : List Char} (hb : ∀ c ∈ b, isSpace c = true) (hs : Stops s) :
    Stops (b ++ s) := by
  cases b with
  | nil => exact hs
  | cons c b =>
    have hc := hb c List.mem_cons_self
    simp only [isSpace, Bool.or_eq_true, beq_iff_eq] at hc
    refine stops_cons ?_ _
    rcases hc with ((rfl | rfl) | rfl) | rfl <;> decide

/-! ## One step -/

section Steps

variable {fuel : Nat} {s rest rest' : List Char} {v : Json}

theorem value?_bracket {c : Char} (hs : skipSpace s = c :: rest) (hc : c ≠ ']') :
    value? (fuel + 1) ('[' :: s) = (items? fuel (c :: rest)).map fun p => (arr p.1, p.2) := by
  have hopen : skipSpace ('[' :: s) = '[' :: s := skipSpace_cons (by decide) s
  simp only [value?, hopen, hs]
  split
  · next heq => exact absurd (List.cons.inj heq).1 hc
  · rfl

theorem value?_brace (hs : skipSpace s = '"' :: rest) :
    value? (fuel + 1) ('\x7b' :: s) =
      (fields? fuel ('"' :: rest)).map fun p => (object p.1, p.2) := by
  have hopen : skipSpace ('\x7b' :: s) = '\x7b' :: s := skipSpace_cons (by decide) s
  simp only [value?, hopen, hs]
  rfl

theorem items?_comma (hv : value? fuel s = some (v, rest)) (hrest : skipSpace rest = ',' :: rest') :
    items? (fuel + 1) s = (items? fuel rest').map fun p => (v :: p.1, p.2) := by
  simp only [items?, hv, hrest]

theorem items?_bracket (hv : value? fuel s = some (v, rest))
    (hrest : skipSpace rest = ']' :: rest') : items? (fuel + 1) s = some ([v], rest') := by
  simp only [items?, hv, hrest]

variable {s₁ s₂ s₃ : List Char} {key : Quoted}

theorem fields?_comma (hs : skipSpace s = '"' :: s₁) (hkey : quoted? s₁ = some (key, s₂))
    (hcolon : skipSpace s₂ = ':' :: s₃) (hv : value? fuel s₃ = some (v, rest))
    (hrest : skipSpace rest = ',' :: rest') :
    fields? (fuel + 1) s = (fields? fuel rest').map fun p => ((key, v) :: p.1, p.2) := by
  simp only [fields?, hs, hkey, hcolon, hv, hrest]

theorem fields?_brace (hs : skipSpace s = '"' :: s₁) (hkey : quoted? s₁ = some (key, s₂))
    (hcolon : skipSpace s₂ = ':' :: s₃) (hv : value? fuel s₃ = some (v, rest))
    (hrest : skipSpace rest = '\x7d' :: rest') :
    fields? (fuel + 1) s = some ([(key, v)], rest') := by
  simp only [fields?, hs, hkey, hcolon, hv, hrest]

end Steps

/-! ## Values of one piece -/

/-- A value that is read back from every layout. -/
structure Readable (v : Json) : Prop where
  head (l : Layout) (level : Nat) :
    ∃ c s, l.write level v = c :: s ∧ isSpace c = false ∧ c ≠ ']'
  value (l : Layout) (level : Nat) {fuel : Nat} (hfuel : 2 * (l.write level v).length ≤ fuel + 1)
    {rest : List Char} (hrest : Stops rest) :
    value? (fuel + 1) (l.write level v ++ rest) = some (v, rest)

theorem readable_bool (b : Bool) : Readable (bool b) where
  head _ _ := by
    cases b
    · exact ⟨'f', _, rfl, by decide, by decide⟩
    · exact ⟨'t', _, rfl, by decide, by decide⟩
  value _ _ _ _ _ _ := by cases b <;> rfl

theorem quoted?_ofText (s : String) (rest : List Char) :
    quoted? ((Quoted.ofText s).written ++ '"' :: rest) = some (.ofText s, rest) := by
  rw [quoted?, Quoted.ofText, Quoted.scan?_encode]
  rfl

theorem withQuotes_append (q : Quoted) (rest : List Char) :
    q.withQuotes ++ rest = '"' :: (q.written ++ '"' :: rest) := by
  simp [Quoted.withQuotes]

theorem readable_str (s : String) : Readable (str s) where
  head _ _ := ⟨'"', _, rfl, by decide, by decide⟩
  value l level fuel _ rest _ := by
    show value? (fuel + 1) ((Quoted.ofText s).withQuotes ++ rest) = _
    rw [withQuotes_append, value?, skipSpace_cons (by decide)]
    show (quoted? _).map _ = _
    rw [quoted?_ofText]
    rfl

theorem value?_number {c : Char} (hc : c.isDigit = true ∨ c = '-') (fuel : Nat) (s : List Char) :
    isSpace c = false ∧ c ≠ ']' ∧ value? (fuel + 1) (c :: s) = number? (c :: s) := by
  have hne : ∀ d : Char, d.isDigit = false → d ≠ '-' → c ≠ d := by
    rintro d hdigit hminus rfl
    rcases hc with hc | hc
    · cases hdigit.symm.trans hc
    · exact hminus hc
  have hspace : isSpace c = false := by
    simp [isSpace, hne ' ' rfl (by decide), hne '\n' rfl (by decide), hne '\r' rfl (by decide),
      hne '\t' rfl (by decide)]
  refine ⟨hspace, hne _ rfl (by decide), ?_⟩
  have hword : word? (c :: s) = none := by
    unfold word?
    split
    · next heq => exact absurd (List.cons.inj heq).1 (hne _ rfl (by decide))
    · next heq => exact absurd (List.cons.inj heq).1 (hne _ rfl (by decide))
    · next heq => exact absurd (List.cons.inj heq).1 (hne _ rfl (by decide))
    · rfl
  rw [value?, skipSpace_cons hspace]
  split
  · next heq => exact absurd (List.cons.inj heq).1 (hne _ rfl (by decide))
  · next heq => exact absurd (List.cons.inj heq).1 (hne _ rfl (by decide))
  · next heq => exact absurd (List.cons.inj heq).1 (hne _ rfl (by decide))
  · rw [hword, Option.none_or]

theorem exists_ofInt_eq_cons (n : Int) :
    ∃ c s, Text.ofInt n = c :: s ∧ (c.isDigit = true ∨ c = '-') := by
  cases n with
  | ofNat n =>
    obtain ⟨c, s, hdigits, hc⟩ := exists_toDigits_eq_cons n
    exact ⟨c, s, (ofInt_ofNat n).trans hdigits, .inl hc⟩
  | negSucc n => exact ⟨'-', _, ofInt_negSucc n, .inr rfl⟩

theorem readable_int (n : Int) : Readable (int n) where
  head l level := by
    obtain ⟨c, s, htext, hc⟩ := exists_ofInt_eq_cons n
    obtain ⟨hspace, hbracket, -⟩ := value?_number hc 0 s
    exact ⟨c, s, htext, hspace, hbracket⟩
  value l level fuel _ rest hrest := by
    obtain ⟨c, s, htext, hc⟩ := exists_ofInt_eq_cons n
    have hnumber := number?_ofInt n hrest
    show value? (fuel + 1) (Text.ofInt n ++ rest) = _
    rw [htext, List.cons_append] at hnumber ⊢
    rw [(value?_number hc fuel _).2.2, hnumber]

/-! ## Arrays -/

section Lists

variable {l : Layout} {level : Nat}

/-- A value behind blanks is read up to what follows it. -/
theorem Readable.value?_append {v : Json} (h : Readable v) {fuel : Nat}
    (hfuel : 2 * (l.write level v).length ≤ fuel) {b : List Char}
    (hb : ∀ c ∈ b, isSpace c = true) {rest : List Char} (hrest : Stops rest) :
    value? fuel (b ++ (l.write level v ++ rest)) = some (v, rest) := by
  obtain ⟨c, s, htext, -, -⟩ := h.head l level
  obtain ⟨fuel, rfl⟩ : ∃ n, fuel = n + 1 := Nat.exists_eq_succ_of_ne_zero (by
    rw [htext, List.length_cons] at hfuel
    omega)
  rw [Json.value?_append hb, h.value l level hfuel hrest]

theorem items?_write {vs : List Json} (hne : vs ≠ []) (h : ∀ v ∈ vs, Readable v) {fuel : Nat}
    (hfuel : 2 * (l.writeItems level vs).length ≤ fuel) {b : List Char}
    (hb : ∀ c ∈ b, isSpace c = true) (rest : List Char) :
    items? (fuel + 1) (l.writeItems level vs ++ (b ++ ']' :: rest)) = some (vs, rest) := by
  induction vs generalizing fuel with
  | nil => exact absurd rfl hne
  | cons v vs ih =>
    have hv := h v List.mem_cons_self
    cases vs with
    | nil =>
      rw [Layout.writeItems, List.length_append] at hfuel
      rw [Layout.writeItems, List.append_assoc]
      refine items?_bracket (hv.value?_append (by omega) (l.line_blank level)
        (stops_append hb (stops_cons (by decide) rest))) ?_
      rw [skipSpace_append hb, skipSpace_cons (by decide)]
    | cons w vs =>
      rw [Layout.writeItems, List.length_append, List.length_append, List.length_cons] at hfuel
      obtain ⟨fuel, rfl⟩ : ∃ n, fuel = n + 1 := Nat.exists_eq_succ_of_ne_zero (by omega)
      rw [Layout.writeItems, List.append_assoc, List.append_assoc, List.cons_append,
        items?_comma (hv.value?_append (by omega) (l.line_blank level) (stops_cons (by decide) _))
          (skipSpace_cons (by decide) _),
        ih (by simp) (fun v hv => h v (List.mem_cons_of_mem _ hv)) (by omega)]
      rfl

theorem readable_arr {vs : List Json} (h : ∀ v ∈ vs, Readable v) : Readable (arr vs) where
  head l level := by
    cases vs <;> exact ⟨'[', _, rfl, by decide, by decide⟩
  value l level fuel hfuel rest _ := by
    cases vs with
    | nil => rfl
    | cons v vs =>
      obtain ⟨c, s, htext, hspace, hbracket⟩ := (h v List.mem_cons_self).head l (level + 1)
      -- the first item does not begin with a bracket, so the array is not taken for an empty one
      obtain ⟨s', hstart⟩ : ∃ s', skipSpace (l.writeItems (level + 1) (v :: vs) ++
          (l.line level ++ ']' :: rest)) = c :: s' := by
        cases vs <;> simp [Layout.writeItems, htext, skipSpace_append (l.line_blank _),
          skipSpace_cons hspace]
      have htotal : l.write level (arr (v :: vs)) ++ rest =
          '[' :: (l.writeItems (level + 1) (v :: vs) ++ (l.line level ++ ']' :: rest)) := by
        simp [Layout.write]
      rw [Layout.write, List.length_append, List.cons_append, List.length_cons, List.length_append,
        List.length_singleton] at hfuel
      obtain ⟨fuel, rfl⟩ : ∃ n, fuel = n + 1 := Nat.exists_eq_succ_of_ne_zero (by omega)
      rw [htotal, value?_bracket hstart hbracket, ← hstart, items?_skipSpace,
        items?_write (by simp) h (by omega) (l.line_blank level)]
      rfl

/-! ## Objects -/

theorem fields?_write {fs : List (String × Json)} (hne : fs ≠ []) (h : ∀ f ∈ fs, Readable f.2)
    {fuel : Nat}
    (hfuel : 2 * (l.writeFields level (fs.map fun f => (.ofText f.1, f.2))).length ≤ fuel)
    {b : List Char} (hb : ∀ c ∈ b, isSpace c = true) (rest : List Char) :
    fields? (fuel + 1)
        (l.writeFields level (fs.map fun f => (.ofText f.1, f.2)) ++ (b ++ '\x7d' :: rest)) =
      some (fs.map fun f => (.ofText f.1, f.2), rest) := by
  induction fs generalizing fuel with
  | nil => exact absurd rfl hne
  | cons f fs ih =>
    obtain ⟨k, v⟩ := f
    have hv : Readable v := h (k, v) List.mem_cons_self
    have hkey : ∀ s, skipSpace (l.line level ++ ((Quoted.ofText k).withQuotes ++ s)) =
        '"' :: ((Quoted.ofText k).written ++ '"' :: s) := fun s => by
      rw [skipSpace_append (l.line_blank level), withQuotes_append, skipSpace_cons (by decide)]
    cases fs with
    | nil =>
      simp only [List.map_cons, List.map_nil, Layout.writeFields, List.length_append,
        List.length_cons, List.append_assoc, List.cons_append] at hfuel ⊢
      refine fields?_brace (hkey _) (quoted?_ofText k _) (skipSpace_cons (by decide) _)
        (hv.value?_append (by omega) l.colon_blank
          (stops_append hb (stops_cons (by decide) rest))) ?_
      rw [skipSpace_append hb, skipSpace_cons (by decide)]
    | cons g fs =>
      simp only [List.map_cons, Layout.writeFields, List.length_append, List.length_cons,
        List.append_assoc, List.cons_append] at hfuel ih ⊢
      obtain ⟨fuel, rfl⟩ : ∃ n, fuel = n + 1 := Nat.exists_eq_succ_of_ne_zero (by omega)
      rw [fields?_comma (hkey _) (quoted?_ofText k _) (skipSpace_cons (by decide) _)
          (hv.value?_append (by omega) l.colon_blank (stops_cons (by decide) _))
          (skipSpace_cons (by decide) _),
        ih (by simp) (fun f hf => h f (List.mem_cons_of_mem _ hf)) (by omega)]
      rfl

theorem readable_obj {fs : List (String × Json)} (h : ∀ f ∈ fs, Readable f.2) :
    Readable (obj fs) where
  head l level := by
    cases fs <;> exact ⟨'\x7b', _, rfl, by decide, by decide⟩
  value l level fuel hfuel rest _ := by
    cases fs with
    | nil => rfl
    | cons f fs =>
      obtain ⟨s', hstart⟩ : ∃ s', skipSpace (l.writeFields (level + 1)
          ((f :: fs).map fun f => (.ofText f.1, f.2)) ++ (l.line level ++ '\x7d' :: rest)) =
            '"' :: s' := by
        have hquote : ∀ s, skipSpace ('"' :: s) = '"' :: s := skipSpace_cons (by decide)
        cases fs <;> simp [Layout.writeFields, withQuotes_append, skipSpace_append (l.line_blank _),
          hquote]
      have htotal : l.write level (obj (f :: fs)) ++ rest =
          '\x7b' :: (l.writeFields (level + 1) ((f :: fs).map fun f => (.ofText f.1, f.2)) ++
            (l.line level ++ '\x7d' :: rest)) := by
        simp [obj, Layout.write]
      have hlength := congrArg List.length htotal
      simp only [List.length_append, List.length_cons] at hlength
      obtain ⟨fuel, rfl⟩ : ∃ n, fuel = n + 1 := Nat.exists_eq_succ_of_ne_zero (by omega)
      rw [htotal, value?_brace hstart, ← hstart, fields?_skipSpace,
        fields?_write (by simp) h (by omega) (l.line_blank level)]
      rfl

end Lists

/-! ## Documents -/

/-- **A document of a readable value is read back**, whatever its layout and the blanks behind
it. -/
theorem Readable.parse?_write {v : Json} (h : Readable v) (l : Layout) {b : List Char}
    (hb : ∀ c ∈ b, isSpace c = true) : parse? (String.ofList (l.write 0 v ++ b)) = some v := by
  have hstop : Stops b := by
    rw [← List.append_nil b]
    exact stops_append hb (by simp [Stops])
  rw [parse?, String.toList_ofList, h.value l 0 (by rw [List.length_append]; omega) hstop]
  dsimp only
  rw [← List.append_nil b, skipSpace_append hb]
  rfl

end SketchPreview.Json
