import SketchPreview.Proofs.Expr.Pieces
import SketchPreview.Proofs.SizeHint.Comment
import SketchPreview.Proofs.WordSearch

/-!
# Sizes in comments

A comment tells a size where the word `size` begins, with an optional sign behind it and two numbers
around a sign of multiplication; the first such place of the first such comment counts. The
comments that reach to the end of their line come first. As the places of the comments do not depend
on other characters than those of the marks and newlines, nothing outside of the comments matters.

* `IsNumber`, `Hint`: a size as it is written behind the word;
* `readHint?_eq_some_iff`: what is read is a size that is written so;
* `HintAt`, `Tells`, `sizeIn?_eq_some_iff`: the size that a comment tells;
* `sizeHint?_eq_some_iff`: the size that a sketch tells;
* **`sizeHint_from_comments`**: only comments matter.
-/

namespace SketchPreview

open SketchPreview.Expr Text

/-! ## A size as it is written -/

/-- The digits of a number of 32 bits, as many as there are in front of `rest`. -/
structure IsNumber (digits rest : List Char) (n : UInt32) : Prop where
  nonempty : digits ≠ []
  longest : IsRun Char.isDigit digits rest
  value : readNat digits = n.toNat

/-- A text that begins with the word `size` and a size without a side that is zero, behind which no
word goes on. -/
inductive Hint : List Char → Dimensions → Prop where
  | intro {gap₁ sign gap₂ width gap₃ gap₄ height rest : List Char} {times : Char} {w h : UInt32}
      (blank₁ : ∀ c ∈ gap₁, isBlank c = true) (equals : sign ∈ [[], [':'], ['=']])
      (blank₂ : ∀ c ∈ gap₂, isBlank c = true)
      (number₁ : IsNumber width (gap₃ ++ times :: (gap₄ ++ (height ++ rest))) w)
      (blank₃ : ∀ c ∈ gap₃, isBlank c = true) (cross : times ∈ ['x', 'X', '×'])
      (blank₄ : ∀ c ∈ gap₄, isBlank c = true) (number₂ : IsNumber height rest h)
      (stop : ∀ c ∈ rest.head?, isWordChar c = false) (ne₁ : w ≠ 0) (ne₂ : h ≠ 0) :
      Hint ("size".toList ++ (gap₁ ++ (sign ++ (gap₂ ++ (width ++
        (gap₃ ++ times :: (gap₄ ++ (height ++ rest)))))))) ⟨w, h⟩

theorem IsNumber.exists_cons {digits rest : List Char} {n : UInt32} (h : IsNumber digits rest n) :
    ∃ c run, digits = c :: run ∧ c.isDigit = true := by
  obtain ⟨c, run, rfl⟩ := List.exists_cons_of_ne_nil h.nonempty
  exact ⟨c, run, rfl, h.longest.all c List.mem_cons_self⟩

/-! ## Reading a size -/

section Reading

variable {s rest : List Char} {n : UInt32}

theorem leadingNumber?_eq_some_iff :
    leadingNumber? s = some (n, rest) ↔ ∃ digits, IsNumber digits rest n ∧ s = digits ++ rest := by
  constructor
  · intro h
    have hrun := isRun_takeWhile Char.isDigit s
    rw [leadingNumber?, readNat?] at h
    by_cases hdigits : s.takeWhile Char.isDigit ≠ [] ∧ (s.takeWhile Char.isDigit).all Char.isDigit
    · simp only [if_pos hdigits, Option.ite_none_right_eq_some, Option.some.injEq,
        Prod.mk.injEq] at h
      obtain ⟨hlt, rfl, rfl⟩ := h
      refine ⟨_, ⟨hdigits.1, hrun, ?_⟩, List.takeWhile_append_dropWhile.symm⟩
      exact (UInt32.toNat_ofNat_of_lt hlt).symm
    · simp only [if_neg hdigits, reduceCtorEq] at h
  · rintro ⟨digits, ⟨hne, hrun, hvalue⟩, rfl⟩
    have hall : digits.all Char.isDigit = true := List.all_eq_true.2 hrun.all
    have hread : readNat? digits = some n.toNat := hvalue ▸ if_pos ⟨hne, hall⟩
    have hlt : n.toNat < UInt32.size := n.toNat_lt
    rw [leadingNumber?, hrun.takeWhile_eq, hrun.dropWhile_eq, hread]
    simp only [if_pos hlt, UInt32.ofNat_toNat]

theorem leadingNumber?_trimStart_eq_some_iff : leadingNumber? (trimStart s) = some (n, rest) ↔
    ∃ gap digits, (∀ c ∈ gap, isBlank c = true) ∧ IsNumber digits rest n ∧
      s = gap ++ (digits ++ rest) := by
  rw [leadingNumber?_eq_some_iff]
  have htrim {digits : List Char} (h : IsNumber digits rest n) : trimStart s = digits ++ rest ↔
      ∃ gap, (∀ c ∈ gap, isBlank c = true) ∧ s = gap ++ (digits ++ rest) := by
    obtain ⟨c, run, rfl, hc⟩ := h.exists_cons
    exact trimStart_eq_cons_iff (isBlank_of_isDigit hc)
  constructor
  · rintro ⟨digits, hdigits, hs⟩
    obtain ⟨gap, hgap, rfl⟩ := (htrim hdigits).1 hs
    exact ⟨gap, digits, hgap, hdigits, rfl⟩
  · rintro ⟨gap, digits, hgap, hdigits, hs⟩
    exact ⟨digits, hdigits, (htrim hdigits).2 ⟨gap, hgap, hs⟩⟩

theorem afterTimes?_trimStart_eq_some_iff : afterTimes? (trimStart s) = some rest ↔
    ∃ gap times, (∀ c ∈ gap, isBlank c = true) ∧ times ∈ ['x', 'X', '×'] ∧
      s = gap ++ times :: rest := by
  have hblank : ∀ c ∈ ['x', 'X', '×'], isBlank c = false := List.forall_iff_forall_mem.1 (by decide)
  have hafter {t : List Char} : afterTimes? t = some rest ↔
      ∃ times ∈ ['x', 'X', '×'], t = times :: rest := by
    cases t with
    | nil => simp [afterTimes?]
    | cons c t =>
      simp only [afterTimes?, Option.ite_none_right_eq_some, Option.some.injEq]
      constructor
      · rintro ⟨hc, rfl⟩
        exact ⟨c, by simpa using hc, rfl⟩
      · rintro ⟨times, htimes, he⟩
        obtain ⟨rfl, rfl⟩ := List.cons.inj he
        exact ⟨by simpa using htimes, rfl⟩
  rw [hafter]
  constructor
  · rintro ⟨times, htimes, hs⟩
    obtain ⟨gap, hgap, rfl⟩ := (trimStart_eq_cons_iff (hblank times htimes)).1 hs
    exact ⟨gap, times, hgap, htimes, rfl⟩
  · rintro ⟨gap, times, hgap, htimes, hs⟩
    exact ⟨times, htimes, (trimStart_eq_cons_iff (hblank times htimes)).2 ⟨gap, hgap, hs⟩⟩

theorem trimStart_dropEquals_eq_iff {c : Char} (hblank : isBlank c = false)
    (hsign : ¬(c = ':' ∨ c = '=')) : trimStart (dropEquals (trimStart s)) = c :: rest ↔
    ∃ gap₁ sign gap₂, (∀ a ∈ gap₁, isBlank a = true) ∧ sign ∈ [[], [':'], ['=']] ∧
      (∀ a ∈ gap₂, isBlank a = true) ∧ s = gap₁ ++ (sign ++ (gap₂ ++ c :: rest)) := by
  constructor
  · intro h
    have hgap : ∀ a ∈ s.takeWhile isBlank, isBlank a = true :=
      List.all_eq_true.1 List.all_takeWhile
    have hs : s = s.takeWhile isBlank ++ trimStart s := List.takeWhile_append_dropWhile.symm
    have hidem : trimStart (trimStart s) = trimStart s := by
      conv_rhs => rw [hs, trimStart_append hgap]
    cases hu : trimStart s with
    | nil =>
      rw [hu] at h
      cases h
    | cons a t =>
      rw [hu] at h hs hidem
      by_cases ha : a = ':' ∨ a = '='
      · rw [dropEquals, if_pos ha, trimStart_eq_cons_iff hblank] at h
        obtain ⟨gap₂, hgap₂, rfl⟩ := h
        exact ⟨_, [a], gap₂, hgap, by simpa using ha, hgap₂, hs⟩
      · rw [dropEquals, if_neg ha, hidem] at h
        exact ⟨_, [], [], hgap, List.mem_cons_self, List.forall_mem_nil _, h ▸ hs⟩
  · rintro ⟨gap₁, sign, gap₂, hgap₁, hequals, hgap₂, rfl⟩
    simp only [List.mem_cons, List.not_mem_nil, or_false] at hequals
    have hbehind : trimStart (gap₂ ++ c :: rest) = c :: rest :=
      (trimStart_eq_cons_iff hblank).2 ⟨gap₂, hgap₂, rfl⟩
    rw [trimStart_append hgap₁]
    rcases hequals with rfl | rfl | rfl
    · rw [List.nil_append, hbehind, dropEquals, if_neg hsign]
      exact trimStart_cons hblank rest
    · exact hbehind
    · exact hbehind

theorem leadingNumber?_dropEquals_eq_some_iff :
    leadingNumber? (trimStart (dropEquals (trimStart s))) = some (n, rest) ↔
      ∃ gap₁ sign gap₂ digits, (∀ c ∈ gap₁, isBlank c = true) ∧ sign ∈ [[], [':'], ['=']] ∧
        (∀ c ∈ gap₂, isBlank c = true) ∧ IsNumber digits rest n ∧
          s = gap₁ ++ (sign ++ (gap₂ ++ (digits ++ rest))) := by
  rw [leadingNumber?_eq_some_iff]
  have hdrop {digits : List Char} (h : IsNumber digits rest n) :
      trimStart (dropEquals (trimStart s)) = digits ++ rest ↔
        ∃ gap₁ sign gap₂, (∀ a ∈ gap₁, isBlank a = true) ∧ sign ∈ [[], [':'], ['=']] ∧
          (∀ a ∈ gap₂, isBlank a = true) ∧ s = gap₁ ++ (sign ++ (gap₂ ++ (digits ++ rest))) := by
    obtain ⟨c, run, rfl, hc⟩ := h.exists_cons
    refine trimStart_dropEquals_eq_iff (isBlank_of_isDigit hc) ?_
    rintro (rfl | rfl) <;> exact absurd hc (by decide)
  constructor
  · rintro ⟨digits, hdigits, hs⟩
    obtain ⟨gap₁, sign, gap₂, hgap₁, hequals, hgap₂, rfl⟩ := (hdrop hdigits).1 hs
    exact ⟨gap₁, sign, gap₂, digits, hgap₁, hequals, hgap₂, hdigits, rfl⟩
  · rintro ⟨gap₁, sign, gap₂, digits, hgap₁, hequals, hgap₂, hdigits, hs⟩
    exact ⟨digits, hdigits, (hdrop hdigits).2 ⟨gap₁, sign, gap₂, hgap₁, hequals, hgap₂, hs⟩⟩

/-- The size behind the word `size` at the front of a text. -/
def readHint? (s : List Char) : Option Dimensions :=
  (dropPrefix? "size".toList s).bind readSize?

/-- **What is read** is a size that is written behind the word. -/
theorem readHint?_eq_some_iff {d : Dimensions} : readHint? s = some d ↔ Hint s d := by
  -- the lemma on numbers behind blanks would also apply to the first number
  simp only [readHint?, readSize?, bind, Option.bind_eq_some_iff, Prod.exists,
    dropPrefix?_eq_some_iff, leadingNumber?_dropEquals_eq_some_iff]
  simp only [afterTimes?_trimStart_eq_some_iff, leadingNumber?_trimStart_eq_some_iff,
    Option.ite_none_left_eq_some, Option.some.injEq, not_or, Bool.not_eq_true, Option.any_eq_false]
  constructor
  · rintro ⟨_, rfl, w, _, ⟨gap₁, sign, gap₂, width, blank₁, equals, blank₂, number₁, rfl⟩,
      _, ⟨gap₃, times, blank₃, cross, rfl⟩, h, rest, ⟨gap₄, height, blank₄, number₂, rfl⟩,
      ⟨stop, ne₁, ne₂⟩, rfl⟩
    exact .intro blank₁ equals blank₂ number₁ blank₃ cross blank₄ number₂ stop ne₁ ne₂
  · rintro ⟨blank₁, equals, blank₂, number₁, blank₃, cross, blank₄, number₂, stop, ne₁, ne₂⟩
    exact ⟨_, rfl, _, _, ⟨_, _, _, _, blank₁, equals, blank₂, number₁, rfl⟩,
      _, ⟨_, _, blank₃, cross, rfl⟩, _, _, ⟨_, _, blank₄, number₂, rfl⟩, ⟨stop, ne₁, ne₂⟩, rfl⟩

end Reading

/-! ## The size that a comment tells -/

/-- The word that begins at place `i` of a text and what stands behind it tell a size. -/
def HintAt (text : List Char) (i : ℕ) (d : Dimensions) : Prop :=
  BeginsWord text i ∧ Hint (text.drop i) d

/-- The leftmost size that a text tells. -/
def Tells (text : List Char) (d : Dimensions) : Prop := ∃ i, IsFirst (HintAt text) i d

theorem sizeIn?_eq_firstWord? (inWord : Bool) (s : List Char) :
    sizeIn? inWord s = firstWord? readHint? inWord s := by
  induction s generalizing inWord with
  | nil => rfl
  | cons c rest ih =>
    rw [sizeIn?, firstWord?, ih]
    rfl

theorem sizeIn?_eq_some_iff {text : List Char} {d : Dimensions} :
    sizeIn? false text = some d ↔ Tells text d := by
  rw [sizeIn?_eq_firstWord?]
  exact firstWord?_false_eq_some_iff (fun _ _ => readHint?_eq_some_iff) rfl

theorem sizeIn?_eq_none_iff {text : List Char} :
    sizeIn? false text = none ↔ ∀ d, ¬Tells text d := by
  rw [Option.eq_none_iff_forall_ne_some]
  exact forall_congr' fun d => not_congr sizeIn?_eq_some_iff

/-! ## The size that a sketch tells -/

/-- The texts of comments, those that reach to the end of their line first. -/
def commentTexts (s : List Char) (lines blocks : List Comment) : List (List Char) :=
  lines.map (lineText s) ++ blocks.map (blockText s)

theorem sizeHint?_eq {source : String} {lines blocks : List Comment}
    (hlines : Scan (IsLineComment source.toList) 0 lines)
    (hblocks : Scan (IsBlockComment source.toList) 0 blocks) :
    sizeHint? source = (commentTexts source.toList lines blocks).findSome? (sizeIn? false) := by
  have hread := congrArg₂ (· ++ ·) (lineComments_drop hlines) (blockComments_drop hblocks)
  rw [sizeHint?, commentTexts, ← hread]
  rfl

theorem sizeHint?_eq_some_iff {source : String} {lines blocks : List Comment}
    (hlines : Scan (IsLineComment source.toList) 0 lines)
    (hblocks : Scan (IsBlockComment source.toList) 0 blocks) {d : Dimensions} :
    sizeHint? source = some d ↔ ∃ earlier text later,
      commentTexts source.toList lines blocks = earlier ++ text :: later ∧ Tells text d ∧
        ∀ text' ∈ earlier, ∀ d', ¬Tells text' d' := by
  rw [sizeHint?_eq hlines hblocks, List.findSome?_eq_some_iff]
  simp only [sizeIn?_eq_some_iff, sizeIn?_eq_none_iff]

theorem commentTexts_set {s : List Char} {lines blocks : List Comment} {i : ℕ}
    (h : ∀ c ∈ lines ++ blocks, ¬c.Covers i) (a : Char) :
    commentTexts (s.set i a) lines blocks = commentTexts s lines blocks := by
  have houtside {c : Comment} (hc : c ∈ lines ++ blocks) : i < c.start ∨ c.stop ≤ i := by
    have := h c hc
    unfold Comment.Covers at this
    omega
  refine congrArg₂ (· ++ ·) (List.map_congr_left fun c hc => ?_)
    (List.map_congr_left fun c hc => ?_)
  · have := houtside (List.mem_append_left _ hc)
    exact textBetween_set (by omega) a
  · have := houtside (List.mem_append_right _ hc)
    exact textBetween_set (by omega) a

theorem Hint.ne_zero {text : List Char} {d : Dimensions} (h : Hint text d) :
    d.width ≠ 0 ∧ d.height ≠ 0 := by
  cases h with
  | intro _ _ _ _ _ _ _ _ _ ne₁ ne₂ => exact ⟨ne₁, ne₂⟩

/-- **Only comments tell a size.** The comments of a sketch stand at known places. Another character
outside of them, neither of which belongs to a mark or is a newline, leaves the size as it is; a
size has no side that is zero; and the first comment to the end of a line that tells a size gives
the size, whatever stands in comments of the other kind. -/
theorem sizeHint_from_comments (source : String) :
    (∃! lines, Scan (IsLineComment source.toList) 0 lines) ∧
      (∃! blocks, Scan (IsBlockComment source.toList) 0 blocks) ∧
      ∀ lines blocks, Scan (IsLineComment source.toList) 0 lines →
        Scan (IsBlockComment source.toList) 0 blocks →
        (∀ i a, (∀ c ∈ lines ++ blocks, ¬c.Covers i) →
          (∀ b ∈ source.toList[i]?, b ∉ markChars) → a ∉ markChars →
          sizeHint? (String.ofList (source.toList.set i a)) = sizeHint? source) ∧
        (∀ d, sizeHint? source = some d →
          (1 ≤ d.width.toNat ∧ d.width.toNat ≤ 4294967295) ∧
            1 ≤ d.height.toNat ∧ d.height.toNat ≤ 4294967295) ∧
        ∀ earlier c later d, lines = earlier ++ c :: later →
          Tells (lineText source.toList c) d →
          (∀ c' ∈ earlier, ∀ d', ¬Tells (lineText source.toList c') d') →
          sizeHint? source = some d := by
  obtain ⟨lines, hlines⟩ := exists_scan_line source.toList
  obtain ⟨blocks, hblocks⟩ := exists_scan_block source.toList
  refine ⟨⟨lines, hlines, fun cs hcs => hcs.unique (fun _ _ _ h => h.unique) hlines⟩,
    ⟨blocks, hblocks, fun cs hcs => hcs.unique (fun _ _ _ h => h.unique) hblocks⟩, ?_⟩
  clear hlines hblocks lines blocks
  intro lines blocks hlines hblocks
  refine ⟨fun i a houtside hold hnew => ?_, fun d hd => ?_, ?_⟩
  · have hlines' : Scan (IsLineComment (String.ofList (source.toList.set i a)).toList) 0 lines := by
      rwa [String.toList_ofList, isLineComment_set hold hnew]
    have hblocks' :
        Scan (IsBlockComment (String.ofList (source.toList.set i a)).toList) 0 blocks := by
      rwa [String.toList_ofList, isBlockComment_set hold hnew]
    rw [sizeHint?_eq hlines' hblocks', sizeHint?_eq hlines hblocks, String.toList_ofList,
      commentTexts_set houtside]
  · obtain ⟨_, text, _, -, ⟨i, ⟨-, hhint⟩, -⟩, -⟩ := (sizeHint?_eq_some_iff hlines hblocks).1 hd
    have hside {n : UInt32} (hn : n ≠ 0) : 1 ≤ n.toNat ∧ n.toNat ≤ 4294967295 :=
      ⟨Nat.pos_of_ne_zero fun h => hn (UInt32.toNat_inj.1 h), Nat.le_pred_of_lt n.toNat_lt⟩
    exact ⟨hside hhint.ne_zero.1, hside hhint.ne_zero.2⟩
  · rintro earlier c later d rfl htells hearlier
    refine (sizeHint?_eq_some_iff hlines hblocks).2
      ⟨earlier.map (lineText source.toList), lineText source.toList c,
        later.map (lineText source.toList) ++ blocks.map (blockText source.toList),
        by simp [commentTexts], htells, ?_⟩
    intro text htext
    obtain ⟨c', hc', rfl⟩ := List.mem_map.1 htext
    exact hearlier c' hc'

/-- Another name in front of a comment, and a block comment that tells another size. -/
theorem sizeHint_from_comments_behind_block :
    let source := "/* size: 9x9 */ int a; // size: 8 X 4"
    let lines := [Comment.mk 23 37]
    let blocks := [Comment.mk 0 15]
    Scan (IsLineComment source.toList) 0 lines ∧ Scan (IsBlockComment source.toList) 0 blocks ∧
      (∀ c ∈ lines ++ blocks, ¬c.Covers 20) ∧ source.toList[20]? = some 'a' ∧ 'a' ∉ markChars ∧
      'b' ∉ markChars ∧ Tells (lineText source.toList ⟨23, 37⟩) ⟨8, 4⟩ ∧
      sizeHint? source = some ⟨8, 4⟩ ∧
      sizeHint? "/* size: 9x9 */ int b; // size: 8 X 4" = some ⟨8, 4⟩ := by
  intro source lines blocks
  have hlines : Scan (IsLineComment source.toList) 0 lines := by
    refine .found ⟨isLeast_iff.2 ?_, isLeast_iff.2 ?_⟩ (.done fun c hc => ?_)
    · decide +kernel
    · decide +kernel
    · exact cutAt?_drop_eq_none_iff.1 (by decide +kernel) c.start hc.opens.1.1 hc.opens.1.2
  have hblocks : Scan (IsBlockComment source.toList) 0 blocks := by
    refine .found ⟨isLeast_iff.2 ?_, isLeast_iff.2 ?_⟩ (.done fun c hc => ?_)
    · decide +kernel
    · decide +kernel
    · exact cutAt?_drop_eq_none_iff.1 (by decide +kernel) c.start hc.opens.1.1 hc.opens.1.2
  have houtside : ∀ c ∈ lines ++ blocks, ¬c.Covers 20 := by decide
  have htells : Tells (lineText source.toList ⟨23, 37⟩) ⟨8, 4⟩ :=
    sizeIn?_eq_some_iff.1 (by decide +kernel)
  obtain ⟨hset, -, hfirst⟩ := (sizeHint_from_comments source).2.2 lines blocks hlines hblocks
  have hsize := hfirst [] ⟨23, 37⟩ [] ⟨8, 4⟩ rfl htells (List.forall_mem_nil _)
  have hchar : source.toList[20]? = some 'a' := by decide +kernel
  have hold : ∀ b ∈ source.toList[20]?, b ∉ markChars := by
    intro b hb
    obtain rfl : 'a' = b := Option.some.inj (hchar.symm.trans hb)
    decide
  have hother := hset 20 'b' houtside hold (by decide)
  have hsource : String.ofList (source.toList.set 20 'b') =
      "/* size: 9x9 */ int b; // size: 8 X 4" := by decide +kernel
  rw [hsource] at hother
  exact ⟨hlines, hblocks, houtside, hchar, by decide, by decide, htells, hsize,
    hother.trans hsize⟩

end SketchPreview
