import Mathlib.Data.List.Basic
import Mathlib.Data.List.TakeWhile
import SketchPreview.Text.Blank
import SketchPreview.Text.Find
import SketchPreview.Text.Line
import SketchPreview.Text.Word

/-!
# Texts cut and put together again

* `takeWhile_dropWhile_of_stop`: a list cut where a condition fails;
* `startsWith_iff`: how a text begins;
* `pieces_eq_splitOn`, `pieces_append`, `infix_of_mem_pieces`: the pieces between separators;
* `exists_lines`, `infix_of_mem_lines`, `IsLine`, `lines_ended`: the lines of a text;
* `exists_trim`, `trim_of_not_blank`, `Padded.trim_eq`, `trim_trim`, `trim_eq_nil_iff`,
  `trim_append`: a text with and without the blanks around it;
* `isWordStart_iff`, `isWordChar_iff`: the characters of names by their codes;
* `isBlank_of_isWordChar`, `word_ends`, `word?_spaced`: the words of a text with a blank between
  them;
* `readNat_toDigits`, `readNat?_toDigits`: the digits of a number are read as the number.
-/

namespace SketchPreview

theorem takeWhile_dropWhile_of_stop {α : Type} {p : α → Bool} {l r : List α} (hl : ∀ a ∈ l, p a)
    (hr : ∀ a ∈ r.head?, p a = false) :
    (l ++ r).takeWhile p = l ∧ (l ++ r).dropWhile p = r := by
  rw [List.takeWhile_append_of_pos hl, List.dropWhile_append_of_pos hl]
  cases r with
  | nil => simp
  | cons a r =>
    have ha : p a = false := hr a rfl
    simp [ha]

namespace Text

theorem startsWith_iff {s word : List Char} : startsWith s word = true ↔ word <+: s := by
  rw [startsWith, Option.isSome_iff_exists]
  exact exists_congr fun _ => dropPrefix?_eq_some_iff.trans eq_comm

/-! ## Pieces -/

theorem consHead_eq_modifyHead {c : Char} {ps : List (List Char)} (h : ps ≠ []) :
    consHead c ps = ps.modifyHead (List.cons c) := by
  cases ps with
  | nil => exact absurd rfl h
  | cons p rest => rfl

theorem pieces_eq_splitOn (sep : Char) (s : List Char) : pieces sep s = s.splitOn sep := by
  induction s with
  | nil => rfl
  | cons c rest ih =>
    rw [pieces, List.splitOn_eq_splitOnP, List.splitOnP_cons_eq_if_modifyHead,
      ← List.splitOn_eq_splitOnP, ← ih, consHead_eq_modifyHead (pieces_ne_nil sep rest)]
    simp only [beq_iff_eq]

theorem not_mem_of_mem_pieces {sep : Char} {s p : List Char} (h : p ∈ pieces sep s) : sep ∉ p := by
  induction s generalizing p with
  | nil =>
    obtain rfl := List.mem_singleton.1 h
    exact List.not_mem_nil
  | cons c rest ih =>
    rw [pieces] at h
    split at h
    · rcases List.mem_cons.1 h with rfl | h
      · exact List.not_mem_nil
      · exact ih h
    · next hc =>
      obtain ⟨p', ps, hps⟩ := List.exists_cons_of_ne_nil (pieces_ne_nil sep rest)
      rw [hps] at h ih
      rcases List.mem_cons.1 h with rfl | h
      · exact List.not_mem_cons_of_ne_of_not_mem (Ne.symm hc) (ih List.mem_cons_self)
      · exact ih (List.mem_cons_of_mem _ h)

theorem pieces_append (sep : Char) (s t : List Char) :
    pieces sep (s ++ sep :: t) = pieces sep s ++ pieces sep t := by
  induction s with
  | nil => simp [pieces]
  | cons c rest ih =>
    rw [List.cons_append, pieces, pieces, ih]
    split
    · rfl
    · obtain ⟨p, ps, hps⟩ := List.exists_cons_of_ne_nil (pieces_ne_nil sep rest)
      rw [hps]
      rfl

theorem pieces_of_not_mem {sep : Char} {s : List Char} (h : sep ∉ s) : pieces sep s = [s] := by
  induction s with
  | nil => rfl
  | cons c rest ih =>
    rw [pieces, if_neg (List.ne_of_not_mem_cons h).symm, ih (List.not_mem_of_not_mem_cons h)]
    rfl

theorem intercalate_pieces (sep : Char) (s : List Char) :
    [sep].intercalate (pieces sep s) = s := by
  rw [pieces_eq_splitOn, List.intercalate_splitOn]

theorem infix_intercalate (sep : List Char) {p : List Char} {ps : List (List Char)} (h : p ∈ ps) :
    p <:+: sep.intercalate ps := by
  induction ps with
  | nil => cases h
  | cons q ps ih =>
    cases ps with
    | nil =>
      obtain rfl := List.mem_singleton.1 h
      simp [List.intercalate]
    | cons r ps =>
      rw [List.intercalate_cons_cons]
      rcases List.mem_cons.1 h with rfl | h
      · exact ⟨[], sep ++ sep.intercalate (r :: ps), by simp⟩
      · exact (ih h).trans (List.suffix_append _ _).isInfix

theorem mem_intercalate {sep : List Char} {ps : List (List Char)} {c : Char}
    (h : c ∈ sep.intercalate ps) : c ∈ sep ∨ ∃ p ∈ ps, c ∈ p := by
  induction ps with
  | nil => cases h
  | cons q ps ih =>
    cases ps with
    | nil => exact .inr ⟨q, List.mem_cons_self, by simpa [List.intercalate] using h⟩
    | cons r ps =>
      rw [List.intercalate_cons_cons, List.append_assoc, List.mem_append, List.mem_append] at h
      rcases h with h | h | h
      · exact .inr ⟨q, List.mem_cons_self, h⟩
      · exact .inl h
      · exact (ih h).imp_right fun ⟨p, hp, hc⟩ => ⟨p, List.mem_cons_of_mem _ hp, hc⟩

theorem infix_of_mem_pieces {sep : Char} {s p : List Char} (h : p ∈ pieces sep s) : p <:+: s := by
  have hinfix := infix_intercalate [sep] h
  rwa [intercalate_pieces] at hinfix

theorem front_of_pieces {sep : Char} {s p : List Char} {ps : List (List Char)}
    (h : pieces sep s = p :: ps) : p <+: s := by
  have hjoin := intercalate_pieces sep s
  rw [h] at hjoin
  cases ps with
  | nil =>
    rw [List.intercalate_singleton] at hjoin
    exact hjoin ▸ List.prefix_rfl
  | cons q ps =>
    rw [List.intercalate_cons_cons, List.append_assoc] at hjoin
    exact ⟨_, hjoin⟩

/-! ## Lines -/

theorem not_mem_of_mem_lines {s line : List Char} (h : line ∈ lines s) : '\n' ∉ line := by
  obtain ⟨p, hp, rfl⟩ := List.mem_map.1 h
  unfold dropReturn
  split
  · exact fun hmem => not_mem_of_mem_pieces hp ((List.dropLast_sublist p).subset hmem)
  · exact not_mem_of_mem_pieces hp

/-- Any lines without newlines are those of a text: each of them ended in the longer way. -/
theorem exists_lines {ls : List (List Char)} (hne : ls ≠ []) (h : ∀ line ∈ ls, '\n' ∉ line) :
    ∃ t : String, lines t.toList = ls := by
  refine ⟨String.ofList (['\n'].intercalate (ls.map (· ++ ['\r']))), ?_⟩
  rw [String.toList_ofList, lines, pieces_eq_splitOn, List.splitOn_intercalate, List.map_map]
  · exact (List.map_congr_left fun line _ => by simp [dropReturn]).trans (List.map_id ls)
  · rintro p hp
    obtain ⟨line, hline, rfl⟩ := List.mem_map.1 hp
    simp [h line hline]
  · simpa using hne

theorem infix_of_mem_lines {s line : List Char} (h : line ∈ lines s) : line <:+: s := by
  obtain ⟨p, hp, rfl⟩ := List.mem_map.1 h
  refine List.IsInfix.trans ?_ (infix_of_mem_pieces hp)
  unfold dropReturn
  split
  · exact (List.dropLast_prefix p).isInfix
  · exact List.infix_rfl

/-- A text that is read as one line when a newline ends it. -/
def IsLine (line : List Char) : Prop := '\n' ∉ line ∧ line.getLast? ≠ some '\r'

instance (line : List Char) : Decidable (IsLine line) := inferInstanceAs (Decidable (_ ∧ _))

theorem lines_ended {ls : List (List Char)} (h : ∀ line ∈ ls, IsLine line) :
    lines (ls.flatMap (· ++ ['\n'])) = ls ++ [[]] := by
  induction ls with
  | nil => rfl
  | cons line rest ih =>
    obtain ⟨hnewline, hreturn⟩ := h line List.mem_cons_self
    have hrest := ih fun line' hline' => h line' (List.mem_cons_of_mem _ hline')
    rw [lines] at hrest ⊢
    rw [List.flatMap_cons, List.append_assoc, List.singleton_append, pieces_append,
      pieces_of_not_mem hnewline, List.map_append, hrest]
    simp [dropReturn, hreturn]

/-! ## Blanks -/

theorem exists_trim (s : List Char) :
    ∃ before behind, (∀ c ∈ before, isBlank c = true) ∧ (∀ c ∈ behind, isBlank c = true) ∧
      s = before ++ trim s ++ behind := by
  have hall : ∀ (l : List Char), ∀ c ∈ l.takeWhile isBlank, isBlank c = true := fun l c hc =>
    List.all_eq_true.1 List.all_takeWhile c hc
  refine ⟨s.takeWhile isBlank, ((trimStart s).reverse.takeWhile isBlank).reverse, hall s,
    fun c hc => hall _ c (List.mem_reverse.1 hc), ?_⟩
  have hbehind : trim s ++ ((trimStart s).reverse.takeWhile isBlank).reverse = trimStart s := by
    rw [trim, trimEnd, ← List.reverse_append, List.takeWhile_append_dropWhile, List.reverse_reverse]
  rw [List.append_assoc, hbehind, trimStart, List.takeWhile_append_dropWhile]

theorem trimStart_append {b : List Char} (hb : ∀ c ∈ b, isBlank c = true) (s : List Char) :
    trimStart (b ++ s) = trimStart s := List.dropWhile_append_of_pos hb

theorem trimStart_cons {c : Char} (hc : isBlank c = false) (s : List Char) :
    trimStart (c :: s) = c :: s := List.dropWhile_cons_of_neg (by simp [hc])

theorem trimStart_eq_cons_iff {s t : List Char} {c : Char} (hc : isBlank c = false) :
    trimStart s = c :: t ↔ ∃ gap, (∀ a ∈ gap, isBlank a = true) ∧ s = gap ++ c :: t := by
  constructor
  · intro h
    refine ⟨s.takeWhile isBlank, List.all_eq_true.1 List.all_takeWhile, ?_⟩
    rw [← h]
    exact List.takeWhile_append_dropWhile.symm
  · rintro ⟨gap, hgap, rfl⟩
    rw [trimStart_append hgap, trimStart_cons hc]

theorem trim_of_not_blank {s : List Char} (h : ∀ c ∈ s, isBlank c = false) : trim s = s := by
  have hself : ∀ l : List Char, (∀ c ∈ l, isBlank c = false) → l.dropWhile isBlank = l := by
    intro l hl
    cases l with
    | nil => rfl
    | cons c rest => exact trimStart_cons (hl c List.mem_cons_self) rest
  rw [trim, trimEnd, trimStart, hself s h,
    hself s.reverse fun c hc => h c (List.mem_reverse.1 hc), List.reverse_reverse]

/-- A text with blanks around it. -/
def Padded (s t : List Char) : Prop :=
  ∃ before behind, (∀ c ∈ before, isBlank c = true) ∧ (∀ c ∈ behind, isBlank c = true) ∧
    t = before ++ s ++ behind

/-- The blanks around a text are dropped, and no others when it neither begins nor ends in one. -/
theorem Padded.trim_eq {s t : List Char} (h : Padded s t) (hne : s ≠ [])
    (hhead : ∀ c ∈ s.head?, isBlank c = false) (hlast : ∀ c ∈ s.getLast?, isBlank c = false) :
    trim t = s := by
  obtain ⟨before, behind, hbefore, hbehind, rfl⟩ := h
  have hstart : trimStart (before ++ s ++ behind) = s ++ behind := by
    obtain ⟨c, rest, rfl⟩ := List.exists_cons_of_ne_nil hne
    rw [List.append_assoc, trimStart_append hbefore]
    exact trimStart_cons (hhead c rfl) _
  have hend : (behind.reverse ++ s.reverse).dropWhile isBlank = s.reverse := by
    rw [List.dropWhile_append_of_pos fun c hc => hbehind c (List.mem_reverse.1 hc)]
    obtain ⟨c, rest, hs⟩ := List.exists_cons_of_ne_nil (List.reverse_ne_nil_iff.2 hne)
    have hc : isBlank c = false := hlast c (by rw [← List.head?_reverse, hs]; rfl)
    rw [hs]
    exact trimStart_cons hc rest
  rw [trim, hstart, trimEnd, List.reverse_append, hend, List.reverse_reverse]

theorem isBlank_getLast_trim {s : List Char} {c : Char} (h : (trim s).getLast? = some c) :
    isBlank c = false := by
  rw [trim, trimEnd, List.getLast?_reverse] at h
  have hhead := List.head?_dropWhile_not isBlank (trimStart s).reverse
  rwa [h] at hhead

theorem isBlank_head_trim {s : List Char} {c : Char} (h : (trim s).head? = some c) :
    isBlank c = false := by
  have hprefix : trim s <+: trimStart s := by
    rw [trim, trimEnd, ← List.reverse_suffix, List.reverse_reverse]
    exact List.dropWhile_suffix _
  obtain ⟨rest, hrest⟩ := hprefix
  have hhead := List.head?_dropWhile_not isBlank s
  rw [← trimStart, ← hrest, List.head?_append, h] at hhead
  exact hhead

theorem trim_trim (s : List Char) : trim (trim s) = trim s := by
  by_cases hne : trim s = []
  · rw [hne]
    rfl
  · exact Padded.trim_eq ⟨[], [], by simp, by simp, by simp⟩ hne (fun _ => isBlank_head_trim)
      fun _ => isBlank_getLast_trim

theorem trim_eq_nil_iff {s : List Char} : trim s = [] ↔ ∀ c ∈ s, isBlank c = true := by
  constructor
  · intro h
    obtain ⟨before, behind, hbefore, hbehind, hs⟩ := exists_trim s
    rw [h, List.append_nil] at hs
    rw [hs]
    exact List.forall_mem_append.2 ⟨hbefore, hbehind⟩
  · intro h
    rw [trim, trimStart, List.dropWhile_eq_nil_iff.2 h]
    rfl

theorem trim_append {b : List Char} (hb : ∀ c ∈ b, isBlank c = true) (s : List Char) :
    trim (s ++ b) = trim s := by
  obtain ⟨before, behind, hbefore, hbehind, hs⟩ := exists_trim s
  by_cases hne : trim s = []
  · rw [hne]
    exact trim_eq_nil_iff.2 (List.forall_mem_append.2 ⟨trim_eq_nil_iff.1 hne, hb⟩)
  · refine Padded.trim_eq ⟨before, behind ++ b, hbefore, List.forall_mem_append.2 ⟨hbehind, hb⟩, ?_⟩
      hne (fun _ => isBlank_head_trim) fun _ => isBlank_getLast_trim
    rw [← List.append_assoc, ← hs]

/-! ## Words -/

theorem isAlpha_iff {c : Char} : c.isAlpha = true ↔
    65 ≤ c.toNat ∧ c.toNat ≤ 90 ∨ 97 ≤ c.toNat ∧ c.toNat ≤ 122 := by
  have hupper : c.isUpper = true ↔ 65 ≤ c.toNat ∧ c.toNat ≤ 90 := decide_eq_true_iff
  have hlower : c.isLower = true ↔ 97 ≤ c.toNat ∧ c.toNat ≤ 122 :=
    (Bool.and_eq_true _ _).to_iff.trans (and_congr decide_eq_true_iff decide_eq_true_iff)
  exact (Bool.or_eq_true _ _).to_iff.trans (or_congr hupper hlower)

theorem toLower_eq_iff {c d : Char} : c.toLower = d ↔
    (65 ≤ c.toNat ∧ c.toNat ≤ 90) ∧ c.toNat + 32 = d.toNat ∨
      ¬(65 ≤ c.toNat ∧ c.toNat ≤ 90) ∧ c = d := by
  unfold Char.toLower
  split
  · next hupper =>
    have hrange : 65 ≤ c.toNat ∧ c.toNat ≤ 90 := hupper
    have hcode : (c.toNat + 32) % 4294967296 = c.toNat + 32 := Nat.mod_eq_of_lt (by omega)
    rw [← Char.toNat_inj, and_iff_right hrange, or_iff_left fun h => h.1 hrange, ← hcode]
    simp
  · next hupper =>
    have hrange : ¬(65 ≤ c.toNat ∧ c.toNat ≤ 90) := hupper
    rw [and_iff_right hrange, or_iff_right fun h => hrange h.1]

theorem eq_underscore_iff {c : Char} : (c == '_') = true ↔ c.toNat = 95 := by
  rw [beq_iff_eq, ← Char.toNat_inj]
  rfl

theorem isWordStart_iff {c : Char} : isWordStart c = true ↔
    (65 ≤ c.toNat ∧ c.toNat ≤ 90 ∨ 97 ≤ c.toNat ∧ c.toNat ≤ 122) ∨ c.toNat = 95 := by
  rw [isWordStart, Bool.or_eq_true, isAlpha_iff, eq_underscore_iff]

theorem isWordChar_iff {c : Char} : isWordChar c = true ↔
    isWordStart c = true ∨ 48 ≤ c.toNat ∧ c.toNat ≤ 57 := by
  rw [isWordChar, Char.isAlphanum, Bool.or_eq_true, Bool.or_eq_true, Char.isDigit_iff_toNat,
    isWordStart, Bool.or_eq_true, or_right_comm]
  rfl

theorem isBlank_of_isWordChar {c : Char} (h : isWordChar c = true) : isBlank c = false := by
  rw [isWordChar_iff, isWordStart_iff] at h
  simp only [isBlank, blankRanges, List.any_cons, List.any_nil, Bool.or_false,
    Bool.or_eq_false_iff, Bool.and_eq_false_iff, decide_eq_false_iff_not]
  omega

theorem isWordChar_of_isDigit {c : Char} (h : c.isDigit = true) : isWordChar c = true :=
  isWordChar_iff.2 (.inr (Char.isDigit_iff_toNat.1 h))

theorem isBlank_of_isDigit {c : Char} (h : c.isDigit = true) : isBlank c = false :=
  isBlank_of_isWordChar (isWordChar_of_isDigit h)

theorem isDigit_of_isWordStart {c : Char} (h : isWordStart c = true) : c.isDigit = false := by
  rw [isWordStart_iff] at h
  rw [← Bool.not_eq_true, Char.isDigit_iff_toNat]
  show ¬(48 ≤ c.toNat ∧ c.toNat ≤ 57)
  omega

theorem word_ends {blanks : List Char} (hblanks : ∀ c ∈ blanks, isBlank c = true) {c : Char}
    (hc : isWordChar c = false) (rest : List Char) :
    ∀ a ∈ (blanks ++ c :: rest).head?, isWordChar a = false := by
  intro a ha
  cases blanks with
  | nil =>
    obtain rfl : c = a := Option.some.inj ha
    exact hc
  | cons b blanks =>
    obtain rfl : b = a := Option.some.inj ha
    by_contra hword
    rw [Bool.not_eq_false] at hword
    have hblank := hblanks b List.mem_cons_self
    rw [isBlank_of_isWordChar hword] at hblank
    cases hblank

/-- A text that counts as one word. -/
def IsWord (w : List Char) : Prop := w ≠ [] ∧ ∀ c ∈ w, isBlank c = false

instance : DecidablePred IsWord := fun w =>
  decidable_of_iff ((!w.isEmpty && w.all (!isBlank ·)) = true) (by simp [IsWord])

/-- Words with a blank between them. -/
def spaced (ws : List (List Char)) : List Char := [' '].intercalate ws

theorem trimStart_word {w : List Char} (hw : IsWord w) (rest : List Char) :
    trimStart (w ++ rest) = w ++ rest := by
  obtain ⟨c, w, rfl⟩ := List.exists_cons_of_ne_nil hw.1
  exact trimStart_cons (hw.2 c List.mem_cons_self) _

/-- The first word of a text, and the word after it, when a blank or the end follows it. -/
theorem word?_append {w : List Char} (hw : IsWord w) (rest : List Char)
    (hrest : ∀ c ∈ rest.head?, isBlank c = true) :
    word? 0 (w ++ rest) = some w ∧ ∀ n, word? (n + 1) (w ++ rest) = word? n rest := by
  obtain ⟨c, w, rfl⟩ := List.exists_cons_of_ne_nil hw.1
  have hpos : ∀ a ∈ w, (!isBlank a) = true := fun a ha => by
    simp [hw.2 a (List.mem_cons_of_mem _ ha)]
  obtain ⟨htake, hdrop⟩ := takeWhile_dropWhile_of_stop (p := (!isBlank ·)) hpos
    fun a ha => by simp [hrest a ha]
  have hc : isBlank c = false := hw.2 c List.mem_cons_self
  constructor
  · rw [word?, trimStart_word hw, List.cons_append]
    exact congrArg (fun l => some (c :: l)) htake
  · intro n
    rw [word?, trimStart_word hw, List.cons_append, List.dropWhile_cons, hc, Bool.not_false,
      if_pos rfl, hdrop]

theorem word?_blank_cons {c : Char} (hc : isBlank c = true) (n : Nat) (s : List Char) :
    word? n (c :: s) = word? n s := by
  have htrim : trimStart (c :: s) = trimStart s := List.dropWhile_cons_of_pos hc
  cases n <;> rw [word?, word?, htrim]

theorem word?_nil (n : Nat) : word? n [] = none := by
  induction n with
  | zero => rfl
  | succ n ih => exact ih

/-- **The words of a text** with a blank between them. -/
theorem word?_spaced {ws : List (List Char)} (h : ∀ w ∈ ws, IsWord w) (n : Nat) :
    word? n (spaced ws) = ws[n]? := by
  induction ws generalizing n with
  | nil => exact word?_nil n
  | cons w ws ih =>
    have hw := h w List.mem_cons_self
    have hws := ih fun w' hw' => h w' (List.mem_cons_of_mem _ hw')
    cases ws with
    | nil =>
      have hsplit := word?_append hw [] (by simp)
      rw [List.append_nil] at hsplit
      rw [spaced, List.intercalate_singleton]
      cases n with
      | zero => exact hsplit.1
      | succ n => rw [hsplit.2 n, word?_nil]; rfl
    | cons v ws =>
      have hblank : isBlank ' ' = true := by decide
      have hsplit := word?_append hw (' ' :: spaced (v :: ws)) (by simp [hblank])
      rw [spaced, List.intercalate_cons_cons, List.append_assoc, List.singleton_append]
      cases n with
      | zero => exact hsplit.1
      | succ n => exact (hsplit.2 n).trans ((word?_blank_cons hblank n _).trans (hws n))

theorem isLine_of_not_blank {line : List Char} (h : ∀ c ∈ line, c = ' ' ∨ isBlank c = false) :
    IsLine line := by
  refine ⟨fun hc => ?_, fun hc => ?_⟩
  · exact absurd (h _ hc) (by decide)
  · exact absurd (h _ (List.mem_of_getLast? hc)) (by decide)

theorem isLine_spaced {ws : List (List Char)} (h : ∀ w ∈ ws, IsWord w) : IsLine (spaced ws) := by
  refine isLine_of_not_blank fun c hc => ?_
  rcases mem_intercalate hc with hc | ⟨w, hw, hc⟩
  · exact .inl (List.mem_singleton.1 hc)
  · exact .inr ((h w hw).2 c hc)

theorem IsWord.isLine {w : List Char} (h : IsWord w) : IsLine w :=
  isLine_of_not_blank fun c hc => .inr (h.2 c hc)

/-! ## Numbers -/

theorem readNat_toDigits (n : Nat) : readNat (Nat.toDigits 10 n) = n :=
  Nat.ofDigitChars_toDigits (by decide) (by decide)

theorem readNat?_toDigits (n : Nat) : readNat? (Nat.toDigits 10 n) = some n := by
  have hall : (Nat.toDigits 10 n).all Char.isDigit = true :=
    List.all_eq_true.2 fun c hc => Nat.isDigit_of_mem_toDigits (by decide) (by decide) hc
  rw [readNat?, if_pos ⟨Nat.toDigits_ne_nil, hall⟩, readNat_toDigits]

end Text

end SketchPreview
