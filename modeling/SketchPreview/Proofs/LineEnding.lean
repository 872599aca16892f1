import Mathlib.Data.List.Forall2
import SketchPreview.Compile
import SketchPreview.Font.Bdf
import SketchPreview.Font.Name
import SketchPreview.Proofs.Text
import SketchPreview.SizeHint

/-!
# Line endings

A text with a carriage return in front of each newline is read as the text without them. Two of the
readers cut their text into lines and drop the carriage returns; the other two search in the whole
text, go on behind what they have found, and meet newlines only as blanks, as the end of a word or
as the end of a comment. So the texts are compared from any place on: `Returned s t` when `t` is `s`
with the carriage returns, where a line that has been cut off may keep the one at its end.

* `Text.crlf`, `Text.Returned`: texts with carriage returns;
* `Returned.dropPrefix?`, `Returned.cutAt?`, `Returned.dropWhile`, `Returned.trimStart`,
  `Returned.pieces`: what searching and cutting make of such texts;
* `Returned.lines_eq`, `Returned.sizeIn?_eq`, `Returned.selections_eq`: what reading makes of them;
* **`reads_crlf`**: the four readers.
-/

namespace SketchPreview

namespace Text

/-- A text with a carriage return in front of each newline. -/
def crlf (s : List Char) : List Char := s.flatMap fun c => if c = '\n' then ['\r', '\n'] else [c]

/-- The second text is the first one with a carriage return in front of each newline, and perhaps
one at the end. -/
inductive Returned : List Char → List Char → Prop
  | nil : Returned [] []
  | final : Returned [] ['\r']
  | newline {s t : List Char} (h : Returned s t) : Returned ('\n' :: s) ('\r' :: '\n' :: t)
  | cons {c : Char} {s t : List Char} (hr : c ≠ '\r') (hn : c ≠ '\n') (h : Returned s t) :
      Returned (c :: s) (c :: t)

theorem returned_crlf {s : List Char} (h : '\r' ∉ s) : Returned s (crlf s) := by
  induction s with
  | nil => exact .nil
  | cons c s ih =>
    have hs : Returned s (crlf s) := ih (List.not_mem_of_not_mem_cons h)
    by_cases hc : c = '\n'
    · subst hc
      exact .newline hs
    · have hcrlf : crlf (c :: s) = c :: crlf s := by simp [crlf, hc]
      rw [hcrlf]
      exact .cons (List.ne_of_not_mem_cons h).symm hc hs

/-! ## Related options -/

section

variable {α β γ : Type} {r : α → β → Prop} {a : Option α} {b : Option β}

theorem eq_none_of_rel (h : Option.Rel r a b) (ha : a = none) : b = none := by
  cases h with
  | none => rfl
  | some => cases ha

theorem exists_of_rel {x : α} (h : Option.Rel r a b) (ha : a = some x) :
    ∃ y, b = some y ∧ r x y := by
  cases h with
  | none => cases ha
  | some h =>
    cases ha
    exact ⟨_, rfl, h⟩

theorem rel_map {α' β' : Type} {q : α' → β' → Prop} {f : α → α'} {g : β → β'}
    (h : Option.Rel r a b) (hfg : ∀ x y, r x y → q (f x) (g y)) :
    Option.Rel q (a.map f) (b.map g) := by
  cases h with
  | none => exact .none
  | some h => exact .some (hfg _ _ h)

theorem bind_eq_of_rel {f : α → Option γ} {g : β → Option γ} (h : Option.Rel r a b)
    (hfg : ∀ x y, r x y → g y = f x) : b.bind g = a.bind f := by
  cases h with
  | none => rfl
  | some h => exact hfg _ _ h

end

namespace Returned

/-! ## Searching and cutting -/

section

variable {s t : List Char}

theorem not_mem (h : Returned s t) : '\r' ∉ s := by
  induction h with
  | nil | final => exact List.not_mem_nil
  | newline _ ih => exact List.not_mem_cons_of_ne_of_not_mem (by decide) ih
  | cons hr _ _ ih => exact List.not_mem_cons_of_ne_of_not_mem hr.symm ih

theorem any_head? (h : Returned s t) {p : Char → Bool} (hr : p '\r' = false)
    (hn : p '\n' = false) : t.head?.any p = s.head?.any p := by
  cases h with
  | nil | cons => rfl
  | final => simp [hr]
  | newline => simp [hr, hn]

theorem head?_eq_some_iff (h : Returned s t) {c : Char} (hr : c ≠ '\r') (hn : c ≠ '\n') :
    t.head? = some c ↔ s.head? = some c := by
  cases h with
  | nil | cons => rfl
  | final => simp [hr.symm]
  | newline => simp [hr.symm, hn.symm]

theorem takeWhile_eq (h : Returned s t) {p : Char → Bool} (hr : p '\r' = false)
    (hn : p '\n' = false) : t.takeWhile p = s.takeWhile p := by
  induction h with
  | nil => rfl
  | final => simp [hr]
  | newline => simp [hr, hn]
  | cons _ _ _ ih => rw [List.takeWhile_cons, List.takeWhile_cons, ih]

protected theorem dropWhile (h : Returned s t) {p : Char → Bool} (hr : p '\r' = false)
    (hn : p '\n' = false) : Returned (s.dropWhile p) (t.dropWhile p) := by
  induction h with
  | nil => exact .nil
  | final => simpa [hr] using Returned.final
  | newline h => simpa [hr, hn] using h.newline
  | @cons c s t hcr hcn h ih =>
    rw [List.dropWhile_cons, List.dropWhile_cons]
    split
    · exact ih
    · exact .cons hcr hcn h

protected theorem trimStart (h : Returned s t) : Returned (trimStart s) (trimStart t) := by
  induction h with
  | nil | final => exact .nil
  | newline _ ih => exact ih
  | @cons c s t hr hn h ih =>
    rw [trimStart, trimStart, List.dropWhile_cons, List.dropWhile_cons]
    split
    · exact ih
    · exact .cons hr hn h

protected theorem dropPrefix? (h : Returned s t) (word : List Char) (hr : '\r' ∉ word)
    (hn : '\n' ∉ word) : Option.Rel Returned (dropPrefix? word s) (dropPrefix? word t) := by
  induction word generalizing s t with
  | nil => exact .some h
  | cons w word ih =>
    have hwr : w ≠ '\r' := (List.ne_of_not_mem_cons hr).symm
    have hwn : w ≠ '\n' := (List.ne_of_not_mem_cons hn).symm
    cases h with
    | nil => exact .none
    | final => simp [Text.dropPrefix?, hwr]
    | newline => simp [Text.dropPrefix?, hwr, hwn]
    | cons _ _ h =>
      rw [Text.dropPrefix?, Text.dropPrefix?]
      split
      · exact ih h (List.not_mem_of_not_mem_cons hr) (List.not_mem_of_not_mem_cons hn)
      · exact .none

theorem startsWith_eq (h : Returned s t) (word : List Char) (hr : '\r' ∉ word)
    (hn : '\n' ∉ word) : startsWith t word = startsWith s word := by
  have hprefix := h.dropPrefix? word hr hn
  unfold startsWith
  cases hs : dropPrefix? word s with
  | none => rw [eq_none_of_rel hprefix hs]
  | some rest =>
    obtain ⟨_, ht, -⟩ := exists_of_rel hprefix hs
    rw [ht]
    rfl

protected theorem cutAt? (h : Returned s t) (word : List Char) (hne : word ≠ [])
    (hr : '\r' ∉ word) (hn : '\n' ∉ word) :
    Option.Rel (fun a b => Returned a.1 b.1 ∧ Returned a.2 b.2) (cutAt? word s)
      (cutAt? word t) := by
  obtain ⟨w, word, rfl⟩ := List.exists_cons_of_ne_nil hne
  have hwr : w ≠ '\r' := (List.ne_of_not_mem_cons hr).symm
  have hwn : w ≠ '\n' := (List.ne_of_not_mem_cons hn).symm
  induction h with
  | nil => exact .none
  | final => simp [Text.cutAt?, Text.dropPrefix?, hwr]
  | newline _ ih =>
    -- the word begins at neither character of the line ending
    simp only [Text.cutAt?, Text.dropPrefix?, hwr, hwn, if_false, Option.map_map]
    exact rel_map ih fun _ _ h => ⟨h.1.newline, h.2⟩
  | @cons c s t hcr hcn h ih =>
    have hprefix := (h.cons hcr hcn).dropPrefix? _ hr hn
    rw [Text.cutAt?, Text.cutAt?]
    cases hs : dropPrefix? (w :: word) (c :: s) with
    | none =>
      rw [eq_none_of_rel hprefix hs]
      exact rel_map ih fun _ _ h => ⟨h.1.cons hcr hcn, h.2⟩
    | some after =>
      obtain ⟨_, ht, hafter⟩ := exists_of_rel hprefix hs
      rw [ht]
      exact .some ⟨.nil, hafter⟩

theorem forall₂_consHead {c : Char} (hr : c ≠ '\r') (hn : c ≠ '\n') {ps qs : List (List Char)}
    (h : List.Forall₂ Returned ps qs) : List.Forall₂ Returned (consHead c ps) (consHead c qs) := by
  cases h with
  | nil => exact .cons (.cons hr hn .nil) .nil
  | cons hp hps => exact .cons (.cons hr hn hp) hps

protected theorem pieces (h : Returned s t) :
    List.Forall₂ Returned (pieces '\n' s) (pieces '\n' t) := by
  induction h with
  | nil => exact .cons .nil .nil
  | final => exact .cons .final .nil
  | newline _ ih => exact .cons .final ih
  | cons hr hn _ ih =>
    rw [Text.pieces, Text.pieces, if_neg hn, if_neg hn]
    exact forall₂_consHead hr hn ih

theorem eq_or_eq_append (h : Returned s t) (hs : '\n' ∉ s) : t = s ∨ t = s ++ ['\r'] := by
  induction h with
  | nil => exact .inl rfl
  | final => exact .inr rfl
  | newline => exact absurd List.mem_cons_self hs
  | cons _ _ _ ih =>
    rcases ih (List.not_mem_of_not_mem_cons hs) with rfl | rfl
    · exact .inl rfl
    · exact .inr rfl

theorem dropReturn_eq (h : Returned s t) (hs : '\n' ∉ s) : dropReturn t = dropReturn s := by
  have hself : dropReturn s = s :=
    if_neg fun hlast => h.not_mem (List.mem_of_getLast? hlast)
  rcases h.eq_or_eq_append hs with rfl | rfl
  · rfl
  · rw [hself]
    simp [dropReturn]

/-- **The lines** are the same. -/
theorem lines_eq (h : Returned s t) : lines t = lines s := by
  have hpieces := h.pieces
  have hclean : ∀ p ∈ pieces '\n' s, '\n' ∉ p := fun p => not_mem_of_mem_pieces
  unfold lines
  generalize pieces '\n' s = ps at hpieces hclean ⊢
  generalize pieces '\n' t = qs at hpieces ⊢
  induction hpieces with
  | nil => rfl
  | cons hp _ ih =>
    rw [List.map_cons, List.map_cons, hp.dropReturn_eq (hclean _ List.mem_cons_self),
      ih fun p hp => hclean p (List.mem_cons_of_mem _ hp)]

end

end Returned

end Text

open Text

theorem blockComments_eq (s : List Char) :
    blockComments s =
      match cutAt? openMark s with
      | none => []
      | some (_, inner) =>
        match cutAt? closeMark inner with
        | none => []
        | some (comment, rest) => comment :: blockComments rest := by
  rw [blockComments]
  grind

namespace Text.Returned

variable {s t : List Char}

/-! ## Sizes in comments -/

protected theorem lineComments (h : Returned s t) :
    List.Forall₂ Returned (lineComments s) (lineComments t) := by
  refine List.rel_filterMap (fun p q hpq => ?_) h.pieces
  have hcut := hpq.cutAt? lineMark (by decide) (by decide) (by decide)
  exact rel_map hcut fun _ _ h => h.2

protected theorem blockComments (h : Returned s t) :
    List.Forall₂ Returned (blockComments s) (blockComments t) := by
  have hopen {s t} (h : Returned s t) := h.cutAt? openMark (by decide) (by decide) (by decide)
  have hclose {s t} (h : Returned s t) := h.cutAt? closeMark (by decide) (by decide) (by decide)
  induction s using SketchPreview.blockComments.induct generalizing t with
  | case1 s hs =>
    have ht := eq_none_of_rel (hopen h) hs
    rw [blockComments_eq, blockComments_eq, hs, ht]
    exact .nil
  | case2 s before inner hs hinner =>
    obtain ⟨⟨before', inner'⟩, ht, -, h⟩ := exists_of_rel (hopen h) hs
    have hinner' := eq_none_of_rel (hclose h) hinner
    rw [blockComments_eq, blockComments_eq, hs, ht]
    simp only [hinner, hinner', List.Forall₂.nil]
  | case3 s before inner hs comment rest hinner ih =>
    obtain ⟨⟨before', inner'⟩, ht, -, h⟩ := exists_of_rel (hopen h) hs
    obtain ⟨⟨comment', rest'⟩, hinner', hcomment, hrest⟩ := exists_of_rel (hclose h) hinner
    rw [blockComments_eq, blockComments_eq, hs, ht]
    simp only [hinner, hinner']
    exact .cons hcomment (ih hrest)

protected theorem leadingNumber? (h : Returned s t) :
    Option.Rel (fun a b => a.1 = b.1 ∧ Returned a.2 b.2) (leadingNumber? s)
      (leadingNumber? t) := by
  unfold leadingNumber?
  rw [h.takeWhile_eq (p := Char.isDigit) rfl rfl]
  split
  · split
    · exact .some ⟨rfl, h.dropWhile rfl rfl⟩
    · exact .none
  · exact .none

protected theorem dropEquals (h : Returned s t) : Returned (dropEquals s) (dropEquals t) := by
  cases h with
  | nil => exact .nil
  | final => exact .final
  | newline h => exact h.newline
  | @cons c _ _ hr hn h =>
    by_cases hc : c = ':' ∨ c = '='
    · simpa only [dropEquals, if_pos hc] using h
    · simpa only [dropEquals, if_neg hc] using h.cons hr hn

protected theorem afterTimes? (h : Returned s t) :
    Option.Rel Returned (afterTimes? s) (afterTimes? t) := by
  cases h with
  | nil | final | newline => exact .none
  | @cons c _ _ _ _ h =>
    by_cases hc : c = 'x' ∨ c = 'X' ∨ c = '×'
    · simpa only [afterTimes?, if_pos hc] using .some h
    · simpa only [afterTimes?, if_neg hc] using .none

theorem readSize?_eq (h : Returned s t) : readSize? t = readSize? s := by
  unfold readSize?
  refine bind_eq_of_rel h.trimStart.dropEquals.trimStart.leadingNumber? ?_
  rintro ⟨width, s⟩ ⟨_, t⟩ ⟨rfl, h⟩
  refine bind_eq_of_rel h.trimStart.afterTimes? fun s t h => ?_
  refine bind_eq_of_rel h.trimStart.leadingNumber? ?_
  rintro ⟨height, s⟩ ⟨_, t⟩ ⟨rfl, h⟩
  simp only [h.any_head? (p := isWordChar) rfl rfl]

theorem sizeIn?_eq (h : Returned s t) (inWord : Bool) : sizeIn? inWord t = sizeIn? inWord s := by
  induction h generalizing inWord with
  | nil => rfl
  | final => cases inWord <;> rfl
  | newline _ ih =>
    have hr : isWordChar '\r' = false := rfl
    have hn : isWordChar '\n' = false := rfl
    -- no word goes on behind either character
    rw [sizeIn?, sizeIn?, sizeIn?, hr, hn, ih false]
    cases inWord <;> rfl
  | cons hr hn h ih =>
    have hhere := bind_eq_of_rel ((h.cons hr hn).dropPrefix? "size".toList (by decide)
      (by decide)) fun _ _ h => h.readSize?_eq
    rw [sizeIn?, sizeIn?, ih, hhere]

theorem findSome?_sizeIn? {ps qs : List (List Char)} (h : List.Forall₂ Returned ps qs) :
    qs.findSome? (sizeIn? false) = ps.findSome? (sizeIn? false) := by
  induction h with
  | nil => rfl
  | cons hp _ ih => rw [List.findSome?_cons, List.findSome?_cons, hp.sizeIn?_eq, ih]

/-! ## Fonts that are selected -/

theorem argument?_eq (h : Returned s t) : Font.argument? t = Font.argument? s := by
  have htrim := h.trimStart
  unfold Font.argument?
  generalize trimStart s = s' at htrim ⊢
  generalize trimStart t = t' at htrim ⊢
  cases htrim with
  | nil | final | newline => rfl
  | @cons c s t _ _ h =>
    by_cases hc : c = '('
    · -- blanks, a name, blanks and a parenthesis: a newline may stand at either place for blanks
      subst hc
      have hinner := h.trimStart
      have hclose := (hinner.dropWhile (p := isWordChar) rfl rfl).trimStart.head?_eq_some_iff
        (c := ')') (by decide) (by decide)
      simp only [hinner.takeWhile_eq (p := isWordChar) rfl rfl, hclose,
        hinner.startsWith_eq Font.namePrefix (by decide) (by decide)]
    · split <;> simp_all

theorem selections_eq (h : Returned s t) : Font.selections t = Font.selections s := by
  induction h with
  | nil | final => rfl
  | newline _ ih => exact ih
  | cons hr hn h ih =>
    have hhere := bind_eq_of_rel ((h.cons hr hn).dropPrefix? "setFont".toList (by decide)
      (by decide)) fun _ _ h => h.argument?_eq
    rw [Font.selections, Font.selections, ih, hhere]

end Text.Returned

/-! ## The readers -/

/-- **Line endings do not matter.** A carriage return in front of each newline changes nothing in
how a sketch is compiled, in the fonts that it selects, in the size that it tells, and in the font
that a font file describes. -/
theorem reads_crlf (text : String) (h : '\r' ∉ text.toList) :
    (∀ size now, compile (String.ofList (crlf text.toList)) size now = compile text size now) ∧
      Font.namesIn (String.ofList (crlf text.toList)) = Font.namesIn text ∧
      sizeHint? (String.ofList (crlf text.toList)) = sizeHint? text ∧
      Bdf.parse (String.ofList (crlf text.toList)) = Bdf.parse text := by
  have hreturned : Returned text.toList (crlf text.toList) := returned_crlf h
  unfold compile Font.namesIn sizeHint? Bdf.parse
  rw [String.toList_ofList]
  refine ⟨fun size now => ?_, ?_, ?_, ?_⟩
  · rw [hreturned.lines_eq]
  · rw [hreturned.selections_eq]
  · exact Returned.findSome?_sizeIn?
      (List.rel_append hreturned.lineComments hreturned.blockComments)
  · rw [hreturned.lines_eq]

/-- A size at the end of its line, and a call that goes over two lines. -/
theorem reads_crlf_across_lines :
    let text := "// size: 128x64\nu8g2.setFont(\n  u8g2_font_6x10);"
    let returned := String.ofList (crlf text.toList)
    '\r' ∉ text.toList ∧
      returned = "// size: 128x64\r\nu8g2.setFont(\r\n  u8g2_font_6x10);" ∧
      (∀ size now, compile returned size now = compile text size now) ∧
      Font.namesIn returned = ["u8g2_font_6x10"] ∧ sizeHint? returned = some ⟨128, 64⟩ ∧
      Bdf.parse returned = Bdf.parse text := by
  intro text returned
  have h : '\r' ∉ text.toList := by decide
  obtain ⟨hcompile, hnames, hsize, hparse⟩ := reads_crlf text h
  have hfont : Font.namesIn text = ["u8g2_font_6x10"] := by decide +kernel
  have hhint : sizeHint? text = some ⟨128, 64⟩ := by decide +kernel
  exact ⟨h, by decide, hcompile, hnames.trans hfont, hsize.trans hhint, hparse⟩

end SketchPreview
