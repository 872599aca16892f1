import SketchPreview.Proofs.Bdf.Block

/-!
# The shape of glyphs

Any text at all is read as header lines and complete glyphs: a glyph begins at a `STARTCHAR` line
outside of one, its header runs to the next `BITMAP` line and its bitmap to the next `ENDCHAR` line,
or to the end of the text where there is none. Whatever stands on those lines, a glyph that comes of
it has sides within bounds, no more rows than there are lines in its bitmap, and rows as wide as it
is itself.

* `upTo`, `behind`: lines in front of a key word, and those behind it;
* `Block.after`, `itemsOf`: the header lines and blocks that lines are read as;
* `length_rowBits`, `foldl_addRow`, `GlyphHeader.Bounded`: rows and sides;
* `Glyph.Shaped`: a glyph whose bitmap has a given number of lines;
* `finish_foldl_step_header`, `finish_foldl_step_bitmap`: headers and bitmaps up to the end;
* `Block.shaped`: the glyph of a block;
* **`parse_shaped`**.
-/

namespace SketchPreview

/-- A glyph with sides within bounds, with a bitmap of so many lines: each row is as wide as the
glyph, and there are as many rows as its height tells and the lines allow. -/
structure Glyph.Shaped (g : Glyph) (lines : Nat) : Prop where
  width_nonneg : 0 ≤ g.width.toInt
  width_le : g.width.toInt ≤ 4096
  height_nonneg : 0 ≤ g.height.toInt
  height_le : g.height.toInt ≤ 4096
  deviceWidth : g.deviceWidth = 0 → g.width = 0
  rowCount : (g.rows.length : Int) = min g.height.toInt lines
  rowLength : ∀ row ∈ g.rows, (row.length : Int) = g.width.toInt

namespace Bdf

open Text

/-! ## The blocks of any text -/

/-- The lines in front of the first one that begins with a key word, all of them if none does. -/
def upTo (key : String) (ls : List (List Char)) : List (List Char) :=
  ls.takeWhile fun line => !startsWith line key.toList

/-- The lines behind the first one that begins with a key word. -/
def behind (key : String) (ls : List (List Char)) : List (List Char) :=
  (ls.dropWhile fun line => !startsWith line key.toList).tail

theorem upTo_plain (key : String) (ls : List (List Char)) :
    ∀ line ∈ upTo key ls, startsWith line key.toList = false := by
  intro line hline
  have hall := List.all_eq_true.1 List.all_takeWhile line hline
  rwa [Bool.not_eq_true'] at hall

theorem length_behind_le (key : String) (ls : List (List Char)) :
    (behind key ls).length ≤ ls.length := by
  rw [behind, List.length_tail]
  have hdrop : (ls.dropWhile fun line => !startsWith line key.toList).length ≤ ls.length :=
    (List.dropWhile_sublist _).length_le
  omega

theorem cut_at (key : String) (ls : List (List Char)) :
    upTo key ls = ls ∧ behind key ls = [] ∨
      ∃ line, startsWith line key.toList = true ∧ ls = upTo key ls ++ line :: behind key ls := by
  have hsplit : upTo key ls ++ ls.dropWhile (fun line => !startsWith line key.toList) = ls :=
    List.takeWhile_append_dropWhile
  cases hdrop : ls.dropWhile fun line => !startsWith line key.toList with
  | nil =>
    rw [hdrop, List.append_nil] at hsplit
    refine .inl ⟨hsplit, ?_⟩
    rw [behind, hdrop]
    rfl
  | cons line rest =>
    have hline := List.head?_dropWhile_not (fun line => !startsWith line key.toList) ls
    rw [hdrop] at hline hsplit
    refine .inr ⟨line, by simpa using hline, ?_⟩
    rw [behind, hdrop, List.tail_cons, hsplit]

/-- The block that a line opens in front of others. Where a key word is missing behind it, the
block's lines are all that are left. The key lines behind the opening one are written out plainly,
so that there is one of each. -/
def Block.after (opening : List Char) (opens : startsWith opening "STARTCHAR".toList = true)
    (ls : List (List Char)) : Block :=
  { Block.plain (upTo "BITMAP" ls) (upTo "ENDCHAR" (behind "BITMAP" ls)) (upTo_plain _ _)
      (upTo_plain _ _) with
    opening
    opens }

/-- The header lines and blocks that lines are read as. -/
def itemsOf : List (List Char) → List Item
  | [] => []
  | line :: ls =>
    if opens : startsWith line "STARTCHAR".toList = true then
      .block (.after line opens ls) :: itemsOf (behind "ENDCHAR" (behind "BITMAP" ls))
    else .line line (Bool.eq_false_iff.2 opens) :: itemsOf ls
  termination_by ls => ls.length
  decreasing_by
    · have hbitmap := length_behind_le "BITMAP" ls
      have hending := length_behind_le "ENDCHAR" (behind "BITMAP" ls)
      rw [List.length_cons]
      omega
    · exact Nat.lt_succ_self _

section Run

variable (font : Header) (glyphs : SortedMap UInt32 Glyph)

theorem finish_foldl_step_header (g : GlyphHeader) (ls : List (List Char)) :
    (ls.foldl Reader.step ⟨font, glyphs, .header g⟩).finish =
      ((behind "BITMAP" ls).foldl Reader.step
        ⟨font, glyphs, .bitmap ((upTo "BITMAP" ls).foldl GlyphHeader.read g) []⟩).finish := by
  have hheader := foldl_step_header font glyphs (upTo_plain "BITMAP" ls) g
  rcases cut_at "BITMAP" ls with ⟨hall, hnone⟩ | ⟨line, hline, hls⟩
  · rw [hnone, hall]
    rw [hall] at hheader
    rw [hheader]
    rfl
  · conv_lhs => rw [hls]
    rw [List.foldl_append, hheader, List.foldl_cons, step_bitmap font glyphs hline]

theorem finish_foldl_step_bitmap (g : GlyphHeader) (rows : List (List Bool))
    (ls : List (List Char)) :
    (ls.foldl Reader.step ⟨font, glyphs, .bitmap g rows⟩).finish =
      ((behind "ENDCHAR" ls).foldl Reader.step
        ⟨font, store glyphs (g.glyph? ((upTo "ENDCHAR" ls).foldl g.addRow rows)),
          .outside⟩).finish := by
  have hrows := foldl_step_bitmap font glyphs (upTo_plain "ENDCHAR" ls) g rows
  rcases cut_at "ENDCHAR" ls with ⟨hall, hnone⟩ | ⟨line, hline, hls⟩
  · rw [hnone, hall]
    rw [hall] at hrows
    rw [hrows]
    exact close_eq _ g _
  · conv_lhs => rw [hls]
    rw [List.foldl_append, hrows, List.foldl_cons, step_ending font glyphs hline]

/-- **The blocks of any text.** -/
theorem finish_foldl_step (ls : List (List Char)) :
    (ls.foldl Reader.step ⟨font, glyphs, .outside⟩).finish =
      ⟨(headerLines (itemsOf ls)).foldl Header.read font,
        (blocks (itemsOf ls)).foldl (fun m b => store m b.glyph?) glyphs, .outside⟩ := by
  fun_induction itemsOf ls generalizing font glyphs with
  | case1 => rfl
  | case2 line ls opens ih =>
    rw [List.foldl_cons, step_opening font glyphs opens, finish_foldl_step_header,
      finish_foldl_step_bitmap, ih]
    rfl
  | case3 line ls plain ih =>
    rw [List.foldl_cons, step_headerLine font glyphs (Bool.eq_false_iff.2 plain), ih]
    rfl

end Run

theorem parseLines_itemsOf (ls : List (List Char)) :
    parseLines ls = fontOf (headerLines (itemsOf ls)) (blocks (itemsOf ls)) := by
  rw [parseLines, Reader.start, finish_foldl_step]
  rfl

/-! ## Rows and sides -/

theorem length_leadingHex_le (row : List Char) : (leadingHex row).length ≤ row.length := by
  induction row with
  | nil => exact Nat.le_refl _
  | cons c rest ih =>
    rw [leadingHex]
    split
    · exact Nat.succ_le_succ ih
    · exact Nat.zero_le _

theorem length_flatMap_nibbleBits (digits : List Nat) :
    (digits.flatMap nibbleBits).length = 4 * digits.length := by
  induction digits with
  | nil => rfl
  | cons n digits ih =>
    rw [List.flatMap_cons, List.length_append, ih, List.length_cons, nibbleBits]
    simp only [List.length_cons, List.length_nil]
    omega

theorem length_rowBits (row : List Char) (width : Nat) : (rowBits row width).length = width := by
  have hdigits := length_leadingHex_le row
  rw [rowBits, List.length_take, List.length_append, List.length_replicate,
    length_flatMap_nibbleBits]
  omega

theorem foldl_addRow {g : GlyphHeader} (hwidth : g.width ≤ maxGlyphSide) (lines : List (List Char))
    (rows : List (List Bool)) (hcount : rows.length ≤ g.height.toInt.toNat)
    (hlength : ∀ row ∈ rows, row.length = g.width.toInt.toNat) :
    (lines.foldl g.addRow rows).length = min g.height.toInt.toNat (rows.length + lines.length) ∧
      ∀ row ∈ lines.foldl g.addRow rows, row.length = g.width.toInt.toNat := by
  induction lines generalizing rows with
  | nil =>
    refine ⟨?_, hlength⟩
    rw [List.foldl_nil, List.length_nil]
    omega
  | cons line lines ih =>
    rw [List.foldl_cons, GlyphHeader.addRow]
    split
    · next hroom =>
      have hcount' : (rows ++ [rowBits (trim line) g.width.toInt.toNat]).length ≤
          g.height.toInt.toNat := by
        rw [List.length_append, List.length_singleton]
        exact hroom.1
      have hlength' : ∀ row ∈ rows ++ [rowBits (trim line) g.width.toInt.toNat],
          row.length = g.width.toInt.toNat := by
        refine List.forall_mem_append.2 ⟨hlength, List.forall_mem_singleton.2 ?_⟩
        exact length_rowBits _ _
      obtain ⟨hall, hrows⟩ := ih _ hcount' hlength'
      refine ⟨?_, hrows⟩
      rw [hall, List.length_append, List.length_singleton, List.length_cons]
      omega
    · next hroom =>
      have hfull : ¬rows.length < g.height.toInt.toNat := fun h => hroom ⟨h, hwidth⟩
      obtain ⟨hall, hrows⟩ := ih _ hcount hlength
      refine ⟨?_, hrows⟩
      rw [hall, List.length_cons]
      omega

/-- Metrics without a negative side. -/
structure GlyphHeader.Bounded (g : GlyphHeader) : Prop where
  width_nonneg : 0 ≤ g.width.toInt
  height_nonneg : 0 ≤ g.height.toInt

theorem toInt_max_zero (n : Int32) : 0 ≤ (max n 0).toInt := by
  show 0 ≤ (if n ≤ 0 then 0 else n : Int32).toInt
  split
  · exact Int.le_refl 0
  · next h =>
    rw [Int32.le_iff_toInt_le] at h
    have hzero : (0 : Int32).toInt = 0 := rfl
    omega

theorem GlyphHeader.Bounded.read {g : GlyphHeader} (h : g.Bounded) (line : List Char) :
    (g.read line).Bounded := by
  rw [GlyphHeader.read]
  split
  · exact ⟨h.width_nonneg, h.height_nonneg⟩
  · split
    · exact ⟨h.width_nonneg, h.height_nonneg⟩
    · split
      · split
        · exact ⟨toInt_max_zero _, toInt_max_zero _⟩
        · exact h
      · exact h

theorem GlyphHeader.Bounded.foldl_read {g : GlyphHeader} (h : g.Bounded)
    (header : List (List Char)) : (header.foldl GlyphHeader.read g).Bounded := by
  induction header generalizing g with
  | nil => exact h
  | cons line header ih => exact ih (h.read line)

theorem GlyphHeader.bounded_standard : GlyphHeader.standard.Bounded :=
  ⟨Int.le_refl 0, Int.le_refl 0⟩

theorem Block.bounded_metrics (b : Block) : b.metrics.Bounded :=
  GlyphHeader.bounded_standard.foldl_read b.header

/-- **The glyph of a block** has the shape that its header and its bitmap allow. -/
theorem Block.shaped {b : Block} {g : Glyph} (h : b.glyph? = some g) : g.Shaped b.rows.length := by
  rw [Block.glyph?, GlyphHeader.glyph?] at h
  split at h
  · next hside =>
    obtain ⟨code, -, rfl⟩ := Option.map_eq_some_iff.1 h
    obtain ⟨hwidth, hheight⟩ := b.bounded_metrics
    obtain ⟨hcount, hlength⟩ := foldl_addRow hside.1 b.rows [] (Nat.zero_le _)
      (List.forall_mem_nil _)
    refine ⟨hwidth, Int32.le_iff_toInt_le.1 hside.1, hheight, Int32.le_iff_toInt_le.1 hside.2,
      ?_, ?_, fun row hrow => ?_⟩
    · dsimp only
      split
      · exact id
      · next hne => exact fun hzero => absurd hzero hne
    · dsimp only
      rw [hcount, List.length_nil]
      omega
    · dsimp only
      rw [hlength row hrow]
      omega
  · cases h

theorem lineHeight_ne_zero (h : Header) : h.lineHeight ≠ 0 := by
  show (if nearestInt32 (h.ascent.toInt + h.descent.toInt) = 0 then 8
    else nearestInt32 (h.ascent.toInt + h.descent.toInt)) ≠ 0
  split
  · decide
  · assumption

/-! ## Any text -/

/-- A glyph of a font is the one of the last block that yields any for its code point. -/
theorem exists_block_of_get? {header : List (List Char)} {bs : List Block} {code : UInt32}
    {g : Glyph} (h : (fontOf header bs).glyphs.get? code = some g) :
    ∃ front b back, bs = front ++ b :: back ∧ b.yield? code = some g ∧
      ∀ c ∈ back, c.yield? code = none := by
  rw [get?_fontOf, List.getLast?_filterMap, List.findSome?_eq_some_iff] at h
  obtain ⟨back, b, front, hreverse, hb, hback⟩ := h
  refine ⟨front.reverse, b, back.reverse, ?_, hb, fun c hc => hback c (List.mem_reverse.1 hc)⟩
  rw [← List.reverse_reverse bs, hreverse, List.reverse_append, List.reverse_cons,
    List.append_assoc, List.singleton_append]

/-- **The shape of glyphs**, whatever text they come of: a glyph is the one of the last block for
its code point, is stored under that code point, and has the shape that the lines in the block's
bitmap allow; and lines have a distance. -/
theorem parse_shaped (text : String) :
    (parse text).lineHeight ≠ 0 ∧
      ∀ code g, (parse text).glyphs.get? code = some g →
        g.code = code ∧
          ∃ front b back, blocks (itemsOf (Text.lines text.toList)) = front ++ b :: back ∧
            b.yield? code = some g ∧ (∀ c ∈ back, c.yield? code = none) ∧
            g.Shaped b.rows.length := by
  have hparse : parse text = fontOf (headerLines (itemsOf (Text.lines text.toList)))
      (blocks (itemsOf (Text.lines text.toList))) := parseLines_itemsOf _
  rw [hparse]
  refine ⟨lineHeight_ne_zero _, fun code g hg => ?_⟩
  obtain ⟨front, b, back, hblocks, hb, hback⟩ := exists_block_of_get? hg
  obtain ⟨hglyph, hcode⟩ := Block.yield?_eq_some_iff.1 hb
  exact ⟨hcode, front, b, back, hblocks, hb, hback, Block.shaped hglyph⟩

/-- A text that ends in a bitmap, with two bounding boxes and a row that is no number. -/
theorem parse_shaped_torn :
    let text := "STARTCHAR\nBBX 9 9 9 9\nENCODING 65\nBBX 3 4 0 -1\nBITMAP\nA0\nrow"
    let g : Glyph := ⟨65, 3, 4, 0, -1, 3, [[true, false, true], [false, false, false]]⟩
    (parse text).glyphs.get? 65 = some g ∧
      ∃ b ∈ blocks (itemsOf (Text.lines text.toList)),
        b.yield? 65 = some g ∧ g.Shaped b.rows.length := by
  intro text g
  have hget : (parse text).glyphs.get? 65 = some g := by decide +kernel
  obtain ⟨-, front, b, back, hblocks, hb, -, hshaped⟩ := (parse_shaped text).2 65 g hget
  exact ⟨hget, b, by rw [hblocks]; exact List.mem_append_right _ List.mem_cons_self, hb, hshaped⟩

end Bdf
end SketchPreview
