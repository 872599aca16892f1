import Mathlib.Data.List.Forall2
import SketchPreview.Font.Bdf
import SketchPreview.Proofs.SortedMap
import SketchPreview.Proofs.Text

/-!
# Complete glyphs stand on their own

A file whose glyphs are all complete is a list of header lines and blocks. The reader is outside of
a glyph in front of each of them, so that no block sees another one or a header line, whatever
stands in it: the font has the metrics that the header lines tell, and of the glyphs that the blocks
give when they are read alone the last one under each code point.

* `Block`, `Item`, `linesOf`: files made of header lines and blocks;
* `headerLines`, `blocks`: the two in their order; `linesOf_append` and its like;
* `Block.metrics`, `Block.glyph?`, `Block.yield?`: what is read of a block;
* `foldl_step_header`, `foldl_step_bitmap`: the lines of a block;
* `foldl_step_block`, `foldl_step_linesOf`: what the reader keeps along blocks and header lines;
* `Spells`, `textOf`: lines as text, with or without a newline at the end;
* `get?_foldl_store`, `fontOf_congr`: the glyphs of a font are told by what its blocks yield;
* **`parse_of_blocks`**.
-/

namespace SketchPreview.Bdf

open Text

/-! ## Files made of complete blocks -/

/-- The lines of a glyph, from the one that begins it to the one that ends it. Nothing is said of
what stands between them but that it neither begins nor ends the bitmap. -/
structure Block where
  opening : List Char
  header : List (List Char)
  bitmap : List Char
  rows : List (List Char)
  ending : List Char
  opens : startsWith opening "STARTCHAR".toList = true
  header_plain : ∀ line ∈ header, startsWith line "BITMAP".toList = false
  begins : startsWith bitmap "BITMAP".toList = true
  rows_plain : ∀ line ∈ rows, startsWith line "ENDCHAR".toList = false
  ends : startsWith ending "ENDCHAR".toList = true

/-- The block with these lines in its header and its bitmap, and nothing more. -/
def Block.plain (header rows : List (List Char))
    (hheader : ∀ line ∈ header, startsWith line "BITMAP".toList = false)
    (hrows : ∀ line ∈ rows, startsWith line "ENDCHAR".toList = false) : Block where
  opening := "STARTCHAR".toList
  header := header
  bitmap := "BITMAP".toList
  rows := rows
  ending := "ENDCHAR".toList
  opens := rfl
  header_plain := hheader
  begins := rfl
  rows_plain := hrows
  ends := rfl

/-- The lines of a block. -/
def Block.lines (b : Block) : List (List Char) :=
  b.opening :: (b.header ++ b.bitmap :: (b.rows ++ [b.ending]))

/-- A header line or a block. A header line is any line that begins no glyph. -/
inductive Item where
  | line (text : List Char) (plain : startsWith text "STARTCHAR".toList = false)
  | block (b : Block)

/-- The lines of an item. -/
def Item.lines : Item → List (List Char)
  | .line text _ => [text]
  | .block b => b.lines

/-- The header line that an item is. -/
def Item.headerLine? : Item → Option (List Char)
  | .line text _ => some text
  | .block _ => none

/-- The block that an item is. -/
def Item.block? : Item → Option Block
  | .line _ _ => none
  | .block b => some b

/-- The lines of a file. -/
def linesOf (items : List Item) : List (List Char) := items.flatMap Item.lines

/-- The header lines of a file. -/
def headerLines (items : List Item) : List (List Char) := items.filterMap Item.headerLine?

/-- The blocks of a file. -/
def blocks (items : List Item) : List Block := items.filterMap Item.block?

theorem linesOf_cons (item : Item) (items : List Item) :
    linesOf (item :: items) = item.lines ++ linesOf items := List.flatMap_cons

theorem linesOf_append (items items' : List Item) :
    linesOf (items ++ items') = linesOf items ++ linesOf items' := List.flatMap_append

theorem headerLines_append (items items' : List Item) :
    headerLines (items ++ items') = headerLines items ++ headerLines items' := List.filterMap_append

theorem blocks_append (items items' : List Item) :
    blocks (items ++ items') = blocks items ++ blocks items' := List.filterMap_append

/-! ## Blocks -/

/-- The metrics of a block. -/
def Block.metrics (b : Block) : GlyphHeader := b.header.foldl GlyphHeader.read .standard

/-- The glyph of a block. -/
def Block.glyph? (b : Block) : Option Glyph :=
  b.metrics.glyph? (b.rows.foldl b.metrics.addRow [])

/-- The glyph that a block gives for a code point when it is read alone. -/
def Block.yield? (b : Block) (code : UInt32) : Option Glyph :=
  (parseLines b.lines).glyphs.get? code

/-- Glyphs with one more. -/
def store (glyphs : SortedMap UInt32 Glyph) : Option Glyph → SortedMap UInt32 Glyph
  | none => glyphs
  | some g => glyphs.insert g.code g

theorem close_eq (r : Reader) (g : GlyphHeader) (rows : List (List Bool)) :
    r.close g rows = ⟨r.font, store r.glyphs (g.glyph? rows), .outside⟩ := by
  rw [Reader.close]
  cases g.glyph? rows <;> rfl

section Run

variable (font : Header) (glyphs : SortedMap UInt32 Glyph)

theorem step_opening {line : List Char} (h : startsWith line "STARTCHAR".toList = true) :
    Reader.step ⟨font, glyphs, .outside⟩ line = ⟨font, glyphs, .header .standard⟩ := by
  rw [Reader.step]
  dsimp only
  rw [if_pos h]

theorem step_headerLine {line : List Char} (h : startsWith line "STARTCHAR".toList = false) :
    Reader.step ⟨font, glyphs, .outside⟩ line = ⟨font.read line, glyphs, .outside⟩ := by
  rw [Reader.step]
  dsimp only
  rw [h, if_neg Bool.false_ne_true]

theorem foldl_step_header {header : List (List Char)}
    (h : ∀ line ∈ header, startsWith line "BITMAP".toList = false) (g : GlyphHeader) :
    header.foldl Reader.step ⟨font, glyphs, .header g⟩ =
      ⟨font, glyphs, .header (header.foldl GlyphHeader.read g)⟩ := by
  induction header generalizing g with
  | nil => rfl
  | cons line header ih =>
    obtain ⟨hline, hheader⟩ := List.forall_mem_cons.1 h
    rw [List.foldl_cons, Reader.step]
    dsimp only
    rw [hline, if_neg Bool.false_ne_true, ih hheader, List.foldl_cons]

theorem step_bitmap {line : List Char} (h : startsWith line "BITMAP".toList = true)
    (g : GlyphHeader) :
    Reader.step ⟨font, glyphs, .header g⟩ line = ⟨font, glyphs, .bitmap g []⟩ := by
  rw [Reader.step]
  dsimp only
  rw [if_pos h]

theorem foldl_step_bitmap {lines : List (List Char)}
    (h : ∀ line ∈ lines, startsWith line "ENDCHAR".toList = false) (g : GlyphHeader)
    (rows : List (List Bool)) :
    lines.foldl Reader.step ⟨font, glyphs, .bitmap g rows⟩ =
      ⟨font, glyphs, .bitmap g (lines.foldl g.addRow rows)⟩ := by
  induction lines generalizing rows with
  | nil => rfl
  | cons line lines ih =>
    obtain ⟨hline, hlines⟩ := List.forall_mem_cons.1 h
    rw [List.foldl_cons, Reader.step]
    dsimp only
    rw [hline, if_neg Bool.false_ne_true, ih hlines, List.foldl_cons]

theorem step_ending {line : List Char} (h : startsWith line "ENDCHAR".toList = true)
    (g : GlyphHeader) (rows : List (List Bool)) :
    Reader.step ⟨font, glyphs, .bitmap g rows⟩ line =
      ⟨font, store glyphs (g.glyph? rows), .outside⟩ := by
  rw [Reader.step]
  dsimp only
  rw [if_pos h, close_eq]

/-- **A block** adds its glyph and leaves the rest as it was. -/
theorem foldl_step_block (b : Block) :
    b.lines.foldl Reader.step ⟨font, glyphs, .outside⟩ =
      ⟨font, store glyphs b.glyph?, .outside⟩ := by
  rw [Block.lines, List.foldl_cons, step_opening font glyphs b.opens, List.foldl_append,
    foldl_step_header font glyphs b.header_plain, List.foldl_cons,
    step_bitmap font glyphs b.begins, List.foldl_append,
    foldl_step_bitmap font glyphs b.rows_plain, List.foldl_cons, List.foldl_nil,
    step_ending font glyphs b.ends]
  rfl

/-- **The lines of a file**: the header lines and the blocks do not see each other. -/
theorem foldl_step_linesOf (items : List Item) :
    (linesOf items).foldl Reader.step ⟨font, glyphs, .outside⟩ =
      ⟨(headerLines items).foldl Header.read font,
        (blocks items).foldl (fun m b => store m b.glyph?) glyphs, .outside⟩ := by
  induction items generalizing font glyphs with
  | nil => rfl
  | cons item items ih =>
    rw [linesOf_cons, List.foldl_append]
    cases item with
    | line text plain =>
      have hline : (Item.lines (.line text plain)).foldl Reader.step ⟨font, glyphs, .outside⟩ =
          ⟨font.read text, glyphs, .outside⟩ := step_headerLine font glyphs plain
      rw [hline, ih]
      rfl
    | block b =>
      rw [Item.lines, foldl_step_block, ih]
      rfl

end Run

/-! ## Fonts -/

/-- The font with the metrics of header lines and the glyphs of blocks. -/
def fontOf (header : List (List Char)) (bs : List Block) : BitmapFont :=
  Reader.bitmapFont ⟨header.foldl Header.read .standard,
    bs.foldl (fun m b => store m b.glyph?) .empty, .outside⟩

theorem parseLines_linesOf (items : List Item) :
    parseLines (linesOf items) = fontOf (headerLines items) (blocks items) := by
  rw [parseLines, Reader.start, foldl_step_linesOf]
  rfl

/-- Text with the given lines, with or without a newline behind the last one. -/
def Spells (text : String) (ls : List (List Char)) : Prop :=
  Text.lines text.toList = ls ∨ Text.lines text.toList = ls ++ [[]]

instance (text : String) (ls : List (List Char)) : Decidable (Spells text ls) :=
  inferInstanceAs (Decidable (_ ∨ _))

/-- Lines with a newline behind each. -/
def textOf (ls : List (List Char)) : String := String.ofList (ls.flatMap (· ++ ['\n']))

theorem spells_textOf {ls : List (List Char)} (h : ∀ line ∈ ls, IsLine line) :
    Spells (textOf ls) ls := by
  refine .inr ?_
  rw [textOf, String.toList_ofList, lines_ended h]

theorem Spells.parse_eq {text : String} {items : List Item} (h : Spells text (linesOf items)) :
    parse text = fontOf (headerLines items) (blocks items) := by
  rcases h with h | h
  · rw [parse, h, parseLines_linesOf]
  · have hitems : linesOf items ++ [[]] = linesOf (items ++ [.line [] rfl]) := by
      rw [linesOf_append]
      rfl
    have hblocks : blocks (items ++ [.line [] rfl]) = blocks items := by
      rw [blocks_append]
      exact List.append_nil _
    rw [parse, h, hitems, parseLines_linesOf, headerLines_append, hblocks, fontOf, fontOf,
      List.foldl_append]
    rfl

theorem linesOf_block (b : Block) : linesOf [.block b] = b.lines := List.append_nil _

theorem linesOf_header (items : List Item) :
    ∃ header : List Item, linesOf header = headerLines items ∧
      headerLines header = headerLines items ∧ blocks header = [] := by
  induction items with
  | nil => exact ⟨[], rfl, rfl, rfl⟩
  | cons item items ih =>
    obtain ⟨header, hlines, hheader, hblocks⟩ := ih
    cases item with
    | line text plain =>
      refine ⟨.line text plain :: header, ?_, ?_, ?_⟩
      · exact congrArg (text :: ·) hlines
      · exact congrArg (text :: ·) hheader
      · exact hblocks
    | block b => exact ⟨header, hlines, hheader, hblocks⟩

/-! ## What blocks yield -/

theorem Block.yield?_eq (b : Block) (code : UInt32) :
    b.yield? code = (store .empty b.glyph?).get? code := by
  rw [Block.yield?, ← linesOf_block, parseLines_linesOf]
  rfl

theorem Block.yield?_eq_some_iff {b : Block} {code : UInt32} {g : Glyph} :
    b.yield? code = some g ↔ b.glyph? = some g ∧ g.code = code := by
  rw [Block.yield?_eq]
  cases hglyph : b.glyph? with
  | none =>
    constructor
    · intro h
      cases h
    · rintro ⟨h, -⟩
      cases h
  | some g' =>
    rw [store, SortedMap.get?_insert]
    constructor
    · intro h
      split at h
      · next hcode =>
        cases h
        exact ⟨rfl, (beq_iff_eq.1 hcode).symm⟩
      · cases h
    · rintro ⟨h, rfl⟩
      cases h
      rw [if_pos (beq_self_eq_true _)]

theorem get?_store (glyphs : SortedMap UInt32 Glyph) (b : Block) (code : UInt32) :
    (store glyphs b.glyph?).get? code = (b.yield? code).or (glyphs.get? code) := by
  rw [Block.yield?_eq]
  cases b.glyph? with
  | none => rfl
  | some g =>
    rw [store, store, SortedMap.get?_insert, SortedMap.get?_insert]
    split <;> rfl

/-- **The last block counts** that yields a glyph for a code point. -/
theorem get?_foldl_store (bs : List Block) (glyphs : SortedMap UInt32 Glyph) (code : UInt32) :
    (bs.foldl (fun m b => store m b.glyph?) glyphs).get? code =
      (bs.filterMap (Block.yield? · code)).getLast?.or (glyphs.get? code) := by
  induction bs generalizing glyphs with
  | nil => rfl
  | cons b bs ih =>
    rw [List.foldl_cons, ih, get?_store, ← Option.or_assoc]
    congr 1
    cases hb : b.yield? code with
    | none =>
      have hcons : (b :: bs).filterMap (Block.yield? · code) = bs.filterMap (Block.yield? · code) :=
        List.filterMap_cons_none hb
      rw [hcons, Option.or_none]
    | some g =>
      have hcons : (b :: bs).filterMap (Block.yield? · code) =
          g :: bs.filterMap (Block.yield? · code) := List.filterMap_cons_some hb
      rw [hcons, List.getLast?_cons, Option.or_some]

theorem get?_fontOf (header : List (List Char)) (bs : List Block) (code : UInt32) :
    (fontOf header bs).glyphs.get? code = (bs.filterMap (Block.yield? · code)).getLast? := by
  refine (get?_foldl_store bs .empty code).trans ?_
  exact Option.or_none

theorem Spells.get?_eq {text : String} {b : Block} (h : Spells text b.lines) (code : UInt32) :
    (parse text).glyphs.get? code = b.yield? code := by
  rw [← linesOf_block] at h
  rw [h.parse_eq, Block.yield?, ← linesOf_block, parseLines_linesOf]

theorem filterMap_parse_of_spells {texts : List String} {bs : List Block}
    (h : List.Forall₂ (fun text b => Spells text (Block.lines b)) texts bs) (code : UInt32) :
    texts.filterMap (fun text => (parse text).glyphs.get? code) =
      bs.filterMap (Block.yield? · code) := by
  induction h with
  | nil => rfl
  | cons htext _ ih => rw [List.filterMap_cons, List.filterMap_cons, htext.get?_eq, ih]

/-- Fonts with the same header lines are equal when for each code point their blocks yield the same
glyphs in the same order. -/
theorem fontOf_congr (header : List (List Char)) {bs bs' : List Block}
    (h : ∀ code, bs'.filterMap (Block.yield? · code) = bs.filterMap (Block.yield? · code)) :
    fontOf header bs' = fontOf header bs := by
  have hglyphs : (fontOf header bs').glyphs = (fontOf header bs).glyphs := by
    refine SortedMap.ext_get? fun code => ?_
    rw [get?_fontOf, get?_fontOf, h]
  show { fontOf header bs with glyphs := (fontOf header bs').glyphs } = fontOf header bs
  rw [hglyphs]

/-- No code point for which both blocks yield a glyph. -/
def Block.Disjoint (b c : Block) : Prop := ∀ code, b.yield? code = none ∨ c.yield? code = none

theorem Block.disjoint_of_code_ne {b c : Block}
    (h : b.glyph?.map (·.code) ≠ c.glyph?.map (·.code)) : b.Disjoint c := by
  intro code
  rw [or_iff_not_imp_left]
  intro hne
  obtain ⟨g, hg⟩ := Option.ne_none_iff_exists'.1 hne
  refine Option.eq_none_iff_forall_ne_some.2 fun g' hg' => h ?_
  obtain ⟨hb, hcode⟩ := Block.yield?_eq_some_iff.1 hg
  obtain ⟨hc, hcode'⟩ := Block.yield?_eq_some_iff.1 hg'
  rw [hb, hc, Option.map_some, Option.map_some, hcode, hcode']

/-- The order of blocks that yield distinct code points does not matter. -/
theorem filterMap_yield?_of_perm {bs bs' : List Block} (hperm : bs'.Perm bs)
    (hdisjoint : bs.Pairwise Block.Disjoint) (code : UInt32) :
    bs'.filterMap (Block.yield? · code) = bs.filterMap (Block.yield? · code) := by
  -- there is at most one of them, so that no two could change places
  have hone (l : List Block) (hl : l.Pairwise Block.Disjoint) :
      (l.filterMap (Block.yield? · code)).Pairwise fun _ _ => False := by
    refine List.pairwise_filterMap.2 (hl.imp fun {b c} hbc g hg g' hg' => ?_)
    rcases hbc code with h | h
    · rw [h] at hg; cases hg
    · rw [h] at hg'; cases hg'
  have hdisjoint' : bs'.Pairwise Block.Disjoint :=
    hperm.symm.pairwise hdisjoint fun hbc code => (hbc code).symm
  exact (hperm.filterMap _).eq_of_pairwise (fun _ _ _ _ h => h.elim) (hone bs' hdisjoint')
    (hone bs hdisjoint)

/-- **Complete glyphs stand on their own.** The font of a file has the metrics that its header lines
tell alone, and for each code point the last glyph that one of its blocks gives alone. So blocks of
distinct code points may change places, and header lines may move across blocks. -/
theorem parse_of_blocks {items : List Item} {text : String} (htext : Spells text (linesOf items)) :
    (∀ head, Spells head (headerLines items) →
      parse head = { parse text with glyphs := .empty }) ∧
    (∀ texts, List.Forall₂ Spells texts ((blocks items).map Block.lines) → ∀ code,
      (parse text).glyphs.get? code =
        (texts.filterMap fun t => (parse t).glyphs.get? code).getLast?) ∧
    (∀ items' text', Spells text' (linesOf items') → headerLines items' = headerLines items →
      blocks items' = blocks items ∨
        (blocks items').Perm (blocks items) ∧ (blocks items).Pairwise Block.Disjoint →
      parse text' = parse text) := by
  rw [htext.parse_eq]
  refine ⟨fun head hhead => ?_, fun texts htexts code => ?_,
    fun items' text' htext' hheader hor => ?_⟩
  · obtain ⟨header, hlines, hheader, hblocks⟩ := linesOf_header items
    rw [← hlines] at hhead
    rw [hhead.parse_eq, hheader, hblocks]
    rfl
  · rw [get?_fontOf, filterMap_parse_of_spells (List.forall₂_map_right_iff.1 htexts)]
  · rw [htext'.parse_eq, hheader]
    refine fontOf_congr _ fun code => ?_
    rcases hor with heq | ⟨hperm, hdisjoint⟩
    · rw [heq]
    · exact filterMap_yield?_of_perm hperm hdisjoint code

/-- A block whose bounding box is short and which has a line of the font's header in it, a header
line, and a second block; then the second block first and the header line behind both. -/
theorem parse_of_blocks_swapped :
    let a := Block.plain ["ENCODING 65".toList, "BBX 9".toList, "FONT x".toList] [[]]
      (by decide) (by decide)
    let b := Block.plain ["ENCODING 66".toList, "BBX 1 1 0 0".toList] ["8".toList]
      (by decide) (by decide)
    let ascent := Item.line "FONT_ASCENT 5".toList rfl
    let first := "STARTCHAR\nENCODING 65\nBBX 9\nFONT x\nBITMAP\n\nENDCHAR"
    let second := "STARTCHAR\nENCODING 66\nBBX 1 1 0 0\nBITMAP\n8\nENDCHAR\n"
    let text := first ++ "\nFONT_ASCENT 5\n" ++ second
    let text' := second ++ first ++ "\nFONT_ASCENT 5"
    Spells text (linesOf [.block a, ascent, .block b]) ∧
      Spells "FONT_ASCENT 5" (headerLines [.block a, ascent, .block b]) ∧
      List.Forall₂ Spells [first, second]
        ((blocks [.block a, ascent, .block b]).map Block.lines) ∧
      Spells text' (linesOf [.block b, .block a, ascent]) ∧
      a.Disjoint b ∧
      parse "FONT_ASCENT 5" = { parse text with glyphs := .empty } ∧
      (∀ code, (parse text).glyphs.get? code =
        ([first, second].filterMap fun t => (parse t).glyphs.get? code).getLast?) ∧
      parse text' = parse text := by
  intro a b ascent first second text text'
  have htext : Spells text (linesOf [.block a, ascent, .block b]) := by decide +kernel
  have hhead : Spells "FONT_ASCENT 5" (headerLines [.block a, ascent, .block b]) := by
    decide +kernel
  have htexts : List.Forall₂ Spells [first, second]
      ((blocks [.block a, ascent, .block b]).map Block.lines) :=
    .cons (by decide +kernel) (.cons (by decide +kernel) .nil)
  have htext' : Spells text' (linesOf [.block b, .block a, ascent]) := by decide +kernel
  have hdisjoint : a.Disjoint b := Block.disjoint_of_code_ne (by decide +kernel)
  obtain ⟨hmetrics, hglyphs, hsame⟩ := parse_of_blocks htext
  have hpairwise : (blocks [.block a, ascent, .block b]).Pairwise Block.Disjoint :=
    List.pairwise_pair.2 hdisjoint
  have hperm : (blocks [.block b, .block a, ascent]).Perm (blocks [.block a, ascent, .block b]) :=
    .swap a b []
  have hheader : headerLines [.block b, .block a, ascent] =
      headerLines [.block a, ascent, .block b] := by decide +kernel
  exact ⟨htext, hhead, htexts, htext', hdisjoint, hmetrics _ hhead, hglyphs _ htexts,
    hsame _ _ htext' hheader (.inr ⟨hperm, hpairwise⟩)⟩

end SketchPreview.Bdf
