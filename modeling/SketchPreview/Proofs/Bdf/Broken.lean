import SketchPreview.Proofs.Bdf.RoundTrip

/-!
# What a broken glyph reaches

A glyph ends only at an `ENDCHAR` line behind a `BITMAP` line. Where one of the two is missing, the
reader goes on into the next block: a glyph without an end takes that block's lines for rows, and a
glyph without a bitmap leaves its metrics to it. So a broken glyph may cost the next one; the others
stay as they were, and so does the next one where only the bitmap is missing and it tells all of its
metrics itself.

* `Foreign`, `Broken`: lines that mean nothing in a glyph, and glyphs that lack a key line;
* `code_read`, `deviceWidth_read`, `box_read`: what a line tells of the metrics;
* `foldl_read_congr`, `foldl_read_eq_of_set`, `Block.Settled`: metrics that are told in full;
* `Block.withHeader`, `Broken.merged`: the block that a broken glyph and the next one are read as;
* `linesOf_merged`, `metrics_merged_bare`, `yield?_merged_of_ne`: its lines and what it yields;
* `get?_fontOf_replace`, `get?_fontOf_remove`: the glyphs of the other blocks;
* **`broken_reaches_next`**, `broken_costs_next`.
-/

namespace SketchPreview.Bdf

open Text

/-! ## Broken glyphs -/

/-- A line that means nothing in a glyph. -/
def Foreign (line : List Char) : Prop :=
  ∀ key ∈ ["ENCODING", "DWIDTH", "BBX", "BITMAP", "ENDCHAR"], startsWith line key.toList = false

instance (line : List Char) : Decidable (Foreign line) :=
  inferInstanceAs (Decidable (∀ key ∈ _, _))

/-- A header line that means nothing in a glyph. -/
def Item.Foreign : Item → Prop
  | .line text _ => Bdf.Foreign text
  | .block _ => False

/-- A glyph that lacks its bitmap, or the line that ends it. In one without a bitmap that line is
one of its header, which is not read as an end. -/
inductive Broken where
  | bare (opening : List Char) (header : List (List Char))
      (opens : startsWith opening "STARTCHAR".toList = true)
      (plain : ∀ line ∈ header, startsWith line "BITMAP".toList = false)
  | unended (b : Block)

/-- The lines of a broken glyph. -/
def Broken.lines : Broken → List (List Char)
  | .bare opening header _ _ => opening :: header
  | .unended b => b.opening :: (b.header ++ b.bitmap :: b.rows)

/-- The metrics of a broken glyph. -/
def Broken.metrics : Broken → GlyphHeader
  | .bare _ header _ _ => header.foldl GlyphHeader.read .standard
  | .unended b => b.metrics

/-! ## Metrics -/

theorem foreign_of_opens {line : List Char} (h : startsWith line "STARTCHAR".toList = true) :
    Foreign line := by
  intro key hkey
  have hapart : ∀ key ∈ ["ENCODING", "DWIDTH", "BBX", "BITMAP", "ENDCHAR"],
      Apart "STARTCHAR".toList key.toList := by decide
  exact startsWith_of_apart (hapart key hkey) h

theorem Foreign.read_eq {line : List Char} (h : Foreign line) (g : GlyphHeader) :
    g.read line = g := by
  rw [GlyphHeader.read, h "ENCODING" (by decide), h "DWIDTH" (by decide), h "BBX" (by decide)]
  rfl

theorem foldl_read_of_foreign {header : List (List Char)} (h : ∀ line ∈ header, Foreign line)
    (g : GlyphHeader) : header.foldl GlyphHeader.read g = g := by
  induction header with
  | nil => rfl
  | cons line header ih =>
    obtain ⟨hline, hheader⟩ := List.forall_mem_cons.1 h
    rw [List.foldl_cons, hline.read_eq, ih hheader]

/-- The sides and the offset of a glyph. -/
def GlyphHeader.box (g : GlyphHeader) : Int32 × Int32 × Int32 × Int32 :=
  (g.width, g.height, g.xOffset, g.yOffset)

/-- The sides and the offset that a line tells. -/
def box? (line : List Char) : Option (Int32 × Int32 × Int32 × Int32) :=
  match number? 1 line, number? 2 line, number? 3 line, number? 4 line with
  | some w, some h, some x, some y => some (max w 0, max h 0, x, y)
  | _, _, _, _ => none

theorem code_read (g : GlyphHeader) (line : List Char) :
    (g.read line).code =
      if startsWith line "ENCODING".toList then codePoint? line else g.code := by
  rw [GlyphHeader.read]
  split
  · rfl
  · split
    · rfl
    · split
      · split <;> rfl
      · rfl

theorem deviceWidth_read (g : GlyphHeader) (line : List Char) :
    (g.read line).deviceWidth =
      if startsWith line "DWIDTH".toList then (number? 1 line).getD g.deviceWidth
      else g.deviceWidth := by
  rw [GlyphHeader.read]
  split
  · next h =>
    rw [startsWith_of_apart (by decide) h]
    rfl
  · split
    · rfl
    · split
      · split <;> rfl
      · rfl

theorem box_read (g : GlyphHeader) (line : List Char) :
    (g.read line).box =
      if startsWith line "BBX".toList then (box? line).getD g.box else g.box := by
  rw [GlyphHeader.read]
  split
  · next h =>
    rw [startsWith_of_apart (by decide) h]
    rfl
  · split
    · next h =>
      rw [startsWith_of_apart (by decide) h]
      rfl
    · split
      · rw [box?]
        cases number? 1 line <;> cases number? 2 line <;> cases number? 3 line <;>
          cases number? 4 line <;> rfl
      · rfl

theorem GlyphHeader.ext_parts {g g' : GlyphHeader} (hcode : g.code = g'.code)
    (hdevice : g.deviceWidth = g'.deviceWidth) (hbox : g.box = g'.box) : g = g' := by
  obtain ⟨code, deviceWidth, width, height, xOffset, yOffset⟩ := g
  simp only [GlyphHeader.box, Prod.mk.injEq] at hcode hdevice hbox
  obtain ⟨rfl, rfl, rfl, rfl⟩ := hbox
  rw [hcode, hdevice]

section Parts

variable {α : Type} {part : GlyphHeader → α}
  (hkeep : ∀ {g g' : GlyphHeader} (line : List Char), part g = part g' →
    part (g.read line) = part (g'.read line))

include hkeep

theorem foldl_read_congr (header : List (List Char)) {g g' : GlyphHeader} (h : part g = part g') :
    part (header.foldl GlyphHeader.read g) = part (header.foldl GlyphHeader.read g') := by
  induction header generalizing g g' with
  | nil => exact h
  | cons line header ih => exact ih (hkeep line h)

theorem foldl_read_eq_of_set {header : List (List Char)}
    (hset : ∃ line ∈ header, ∀ g g' : GlyphHeader, part (g.read line) = part (g'.read line))
    (g g' : GlyphHeader) :
    part (header.foldl GlyphHeader.read g) = part (header.foldl GlyphHeader.read g') := by
  obtain ⟨line, hline, hset⟩ := hset
  obtain ⟨front, back, rfl⟩ := List.append_of_mem hline
  rw [List.foldl_append, List.foldl_append, List.foldl_cons, List.foldl_cons]
  exact foldl_read_congr hkeep back (hset _ _)

end Parts

/-- A block that tells all of its metrics. -/
structure Block.Settled (b : Block) : Prop where
  encoding : ∃ line ∈ b.header, startsWith line "ENCODING".toList = true
  deviceWidth : ∃ line ∈ b.header, startsWith line "DWIDTH".toList = true ∧
    (number? 1 line).isSome
  box : ∃ line ∈ b.header, startsWith line "BBX".toList = true ∧
    ∀ n ∈ [1, 2, 3, 4], (number? n line).isSome

theorem code_foldl_read {header : List (List Char)}
    (h : ∃ line ∈ header, startsWith line "ENCODING".toList = true) (g g' : GlyphHeader) :
    (header.foldl GlyphHeader.read g).code = (header.foldl GlyphHeader.read g').code := by
  obtain ⟨line, hline, hkey⟩ := h
  refine foldl_read_eq_of_set (fun line hgg => ?_) ⟨line, hline, fun g g' => ?_⟩ g g'
  · rw [code_read, code_read, hgg]
  · rw [code_read, code_read, if_pos hkey, if_pos hkey]

theorem code_foldl_read_of_not {header : List (List Char)}
    (h : ∀ line ∈ header, startsWith line "ENCODING".toList = false) (g : GlyphHeader) :
    (header.foldl GlyphHeader.read g).code = g.code := by
  induction header generalizing g with
  | nil => rfl
  | cons line header ih =>
    obtain ⟨hline, hheader⟩ := List.forall_mem_cons.1 h
    rw [List.foldl_cons, ih hheader, code_read, hline, if_neg Bool.false_ne_true]

/-- Metrics that are told in full do not depend on those before. -/
theorem Block.Settled.foldl_read {b : Block} (h : b.Settled) (g g' : GlyphHeader) :
    b.header.foldl GlyphHeader.read g = b.header.foldl GlyphHeader.read g' := by
  obtain ⟨line, hline, hkey, hnumber⟩ := h.deviceWidth
  have hdevice : (b.header.foldl GlyphHeader.read g).deviceWidth =
      (b.header.foldl GlyphHeader.read g').deviceWidth := by
    refine foldl_read_eq_of_set (fun line hgg => ?_) ⟨line, hline, fun g g' => ?_⟩ g g'
    · rw [deviceWidth_read, deviceWidth_read, hgg]
    · obtain ⟨n, hn⟩ := Option.isSome_iff_exists.1 hnumber
      rw [deviceWidth_read, deviceWidth_read, if_pos hkey, if_pos hkey, hn]
      rfl
  obtain ⟨line, hline, hkey, hnumbers⟩ := h.box
  have hbox : (b.header.foldl GlyphHeader.read g).box =
      (b.header.foldl GlyphHeader.read g').box := by
    refine foldl_read_eq_of_set (fun line hgg => ?_) ⟨line, hline, fun g g' => ?_⟩ g g'
    · rw [box_read, box_read, hgg]
    · simp only [List.forall_mem_cons, Option.isSome_iff_exists] at hnumbers
      obtain ⟨⟨w, hw⟩, ⟨h, hh⟩, ⟨x, hx⟩, ⟨y, hy⟩, -⟩ := hnumbers
      rw [box_read, box_read, if_pos hkey, if_pos hkey, box?, hw, hh, hx, hy]
      rfl
  exact GlyphHeader.ext_parts (code_foldl_read h.encoding g g') hdevice hbox

/-! ## What a broken glyph and the next block are read as -/

/-- A block with further lines in front of those of its header. -/
def Block.withHeader (b : Block) (header : List (List Char))
    (plain : ∀ line ∈ header, startsWith line "BITMAP".toList = false) : Block :=
  { b with
    header := header ++ b.header
    header_plain := List.forall_mem_append.2 ⟨plain, b.header_plain⟩ }

theorem Block.yield?_of_code_ne {b : Block} {code : UInt32} (h : b.metrics.code ≠ some code) :
    b.yield? code = none := by
  refine Option.eq_none_iff_forall_ne_some.2 fun g hg => h ?_
  obtain ⟨hglyph, rfl⟩ := Block.yield?_eq_some_iff.1 hg
  rw [Block.glyph?, GlyphHeader.glyph?] at hglyph
  split at hglyph
  · obtain ⟨code, hcode, rfl⟩ := Option.map_eq_some_iff.1 hglyph
    exact hcode
  · cases hglyph

theorem Block.yield?_congr {b c : Block} (hmetrics : b.metrics = c.metrics)
    (hrows : b.rows = c.rows) (code : UInt32) : b.yield? code = c.yield? code := by
  have hglyph : b.glyph? = c.glyph? := by rw [Block.glyph?, Block.glyph?, hmetrics, hrows]
  rw [Block.yield?_eq, Block.yield?_eq, hglyph]

theorem metrics_withHeader (b : Block) (header : List (List Char))
    (plain : ∀ line ∈ header, startsWith line "BITMAP".toList = false) :
    (b.withHeader header plain).metrics =
      b.header.foldl GlyphHeader.read (header.foldl GlyphHeader.read .standard) :=
  List.foldl_append

theorem code_withHeader (b : Block) (header : List (List Char))
    (plain : ∀ line ∈ header, startsWith line "BITMAP".toList = false) :
    (b.withHeader header plain).metrics.code = b.metrics.code ∨
      (b.withHeader header plain).metrics.code =
        (header.foldl GlyphHeader.read .standard).code := by
  rw [metrics_withHeader, Block.metrics]
  by_cases hkey : ∃ line ∈ b.header, startsWith line "ENCODING".toList = true
  · exact .inl (code_foldl_read hkey _ _)
  · refine .inr (code_foldl_read_of_not (fun line hline => ?_) _)
    exact Bool.eq_false_iff.2 fun h => hkey ⟨line, hline, h⟩

section Merged

variable {foreign : List (List Char)} (hforeign : ∀ line ∈ foreign, Foreign line) {next : Block}
  (hnext : ∀ line ∈ next.header, startsWith line "ENDCHAR".toList = false)

/-- The block that a broken glyph and the next block are read as, with lines between them that mean
nothing in a glyph. -/
def Broken.merged (hforeign : ∀ line ∈ foreign, Foreign line)
    (hnext : ∀ line ∈ next.header, startsWith line "ENDCHAR".toList = false) : Broken → Block
  | .bare opening header opens plain =>
    { next.withHeader (header ++ foreign) (List.forall_mem_append.2
        ⟨plain, fun line hline => hforeign line hline "BITMAP" (by decide)⟩) with
      opening
      opens }
  | .unended b =>
    { b with
      rows := b.rows ++ (foreign ++ (next.header ++ next.bitmap :: next.rows))
      rows_plain := List.forall_mem_append.2 ⟨b.rows_plain, List.forall_mem_append.2
        ⟨fun line hline => hforeign line hline "ENDCHAR" (by decide), List.forall_mem_append.2
          ⟨hnext, List.forall_mem_cons.2
            ⟨startsWith_of_apart (by decide) next.begins, next.rows_plain⟩⟩⟩⟩
      ending := next.ending
      ends := next.ends }

theorem lines_merged (broken : Broken) :
    broken.lines ++ (foreign ++ (next.header ++ next.bitmap :: (next.rows ++ [next.ending]))) =
      (broken.merged hforeign hnext).lines := by
  cases broken with
  | bare opening header opens plain =>
    simp only [Broken.lines, Broken.merged, Block.lines, Block.withHeader, List.cons_append,
      List.append_assoc]
  | unended b =>
    simp only [Broken.lines, Broken.merged, Block.lines, List.cons_append, List.append_assoc]

theorem linesOf_merged {before gap after : List Item}
    (hforeign : ∀ line ∈ linesOf gap ++ [next.opening], Foreign line) (broken : Broken) :
    linesOf before ++ broken.lines ++ linesOf (gap ++ .block next :: after) =
      linesOf (before ++ .block (broken.merged hforeign hnext) :: after) := by
  have hmerged := lines_merged hforeign hnext broken
  rw [linesOf_append, linesOf_append, linesOf_cons, linesOf_cons, Item.lines, Item.lines,
    ← hmerged, Block.lines]
  simp only [List.append_assoc, List.cons_append, List.nil_append]

theorem metrics_merged_bare {opening : List Char} {header : List (List Char)}
    (opens : startsWith opening "STARTCHAR".toList = true)
    (plain : ∀ line ∈ header, startsWith line "BITMAP".toList = false) :
    (Broken.merged hforeign hnext (.bare opening header opens plain)).metrics =
      (next.withHeader header plain).metrics := by
  show ((header ++ foreign) ++ next.header).foldl GlyphHeader.read .standard =
    (header ++ next.header).foldl GlyphHeader.read .standard
  rw [List.foldl_append, List.foldl_append, List.foldl_append, foldl_read_of_foreign hforeign]

/-- What a broken glyph and the next block are read as yields nothing but for their code points. -/
theorem yield?_merged_of_ne {broken : Broken} {code : UInt32}
    (hbroken : broken.metrics.code ≠ some code) (hcode : next.metrics.code ≠ some code) :
    (broken.merged hforeign hnext).yield? code = none := by
  refine Block.yield?_of_code_ne ?_
  cases broken with
  | bare opening header opens plain =>
    rw [metrics_merged_bare]
    rcases code_withHeader next header plain with h | h
    · rwa [h]
    · rw [h]
      exact hbroken
  | unended b => exact hbroken

end Merged

/-! ## The glyphs of the others -/

theorem get?_fontOf_replace {header header' : List (List Char)} {bs cs : List Block} {b c : Block}
    {code : UInt32} (h : b.yield? code = c.yield? code) :
    (fontOf header (bs ++ b :: cs)).glyphs.get? code =
      (fontOf header' (bs ++ c :: cs)).glyphs.get? code := by
  rw [get?_fontOf, get?_fontOf, List.filterMap_append, List.filterMap_append, List.filterMap_cons,
    List.filterMap_cons, h]

theorem get?_fontOf_remove {header header' : List (List Char)} {bs cs : List Block} {b : Block}
    {code : UInt32} (h : b.yield? code = none) :
    (fontOf header (bs ++ b :: cs)).glyphs.get? code =
      (fontOf header' (bs ++ cs)).glyphs.get? code := by
  rw [get?_fontOf, get?_fontOf, List.filterMap_append, List.filterMap_append, List.filterMap_cons,
    h]

theorem linesOf_foreign {gap : List Item} (h : ∀ item ∈ gap, item.Foreign) :
    blocks gap = [] ∧ ∀ line ∈ linesOf gap, Foreign line := by
  induction gap with
  | nil => exact ⟨rfl, List.forall_mem_nil _⟩
  | cons item gap ih =>
    obtain ⟨hitem, hgap⟩ := List.forall_mem_cons.1 h
    obtain ⟨hblocks, hlines⟩ := ih hgap
    cases item with
    | line text plain => exact ⟨hblocks, List.forall_mem_cons.2 ⟨hitem, hlines⟩⟩
    | block b => exact hitem.elim

/-- **What a broken glyph reaches.** Inserted in front of the next block, perhaps with header lines
between them, it leaves every glyph as it was but those of its own code point and the next block's.
Without a bitmap, its metrics are read as if they stood in front of the next block's own, so that
nothing changes if that block tells all of its metrics. Without an end, the next block is lost. -/
theorem broken_reaches_next {before gap after : List Item} {broken : Broken} {next : Block}
    {whole torn : String} (hgap : ∀ item ∈ gap, item.Foreign)
    (hnext : ∀ line ∈ next.header, startsWith line "ENDCHAR".toList = false)
    (hwhole : Spells whole (linesOf (before ++ gap ++ .block next :: after)))
    (htorn : Spells torn
      (linesOf before ++ broken.lines ++ linesOf (gap ++ .block next :: after))) :
    (∀ code, broken.metrics.code ≠ some code → next.metrics.code ≠ some code →
      (parse torn).glyphs.get? code = (parse whole).glyphs.get? code) ∧
    match broken with
    | .bare _ header _ plain =>
      (∀ text, Spells text (linesOf (before ++ .block (next.withHeader header plain) :: after)) →
        (parse torn).glyphs = (parse text).glyphs) ∧
      (next.Settled → (parse torn).glyphs = (parse whole).glyphs)
    | .unended b =>
      ∀ text, Spells text (linesOf (before ++ after)) → ∀ code, b.metrics.code ≠ some code →
        (parse torn).glyphs.get? code = (parse text).glyphs.get? code := by
  obtain ⟨hblocks, hlines⟩ := linesOf_foreign hgap
  have hforeign : ∀ line ∈ linesOf gap ++ [next.opening], Foreign line :=
    List.forall_mem_append.2 ⟨hlines, List.forall_mem_singleton.2 (foreign_of_opens next.opens)⟩
  rw [linesOf_merged hnext hforeign] at htorn
  have hblocksWhole : blocks (before ++ gap ++ .block next :: after) =
      blocks before ++ next :: blocks after := by
    rw [blocks_append, blocks_append, hblocks, List.append_nil]
    rfl
  have hblocksTorn (b : Block) : blocks (before ++ .block b :: after) =
      blocks before ++ b :: blocks after := blocks_append _ _
  rw [hwhole.parse_eq, htorn.parse_eq, hblocksWhole, hblocksTorn]
  refine ⟨fun code hbroken hcode => ?_, ?_⟩
  · exact get?_fontOf_replace ((yield?_merged_of_ne hforeign hnext hbroken hcode).trans
      (Block.yield?_of_code_ne hcode).symm)
  cases broken with
  | bare opening header opens plain =>
    have hmetrics := metrics_merged_bare hforeign hnext opens plain
    refine ⟨fun text htext => SortedMap.ext_get? fun code => ?_, fun hsettled =>
      SortedMap.ext_get? fun code => ?_⟩
    · rw [htext.parse_eq, hblocksTorn]
      exact get?_fontOf_replace (Block.yield?_congr hmetrics rfl code)
    · have hown : (next.withHeader header plain).metrics = next.metrics := by
        rw [metrics_withHeader]
        exact hsettled.foldl_read _ _
      exact get?_fontOf_replace (Block.yield?_congr (hmetrics.trans hown) rfl code)
  | unended b =>
    intro text htext code hcode
    rw [htext.parse_eq, blocks_append]
    exact get?_fontOf_remove (Block.yield?_of_code_ne hcode)

/-- A glyph without an end in front of one that is lost, and a glyph without a bitmap in front of
one that tells all of its metrics. -/
theorem broken_reaches_next_of_four :
    let a := Block.plain ["ENCODING 65".toList] [] (by decide) (by decide)
    let b := Block.plain ["ENCODING 66".toList] ["8".toList] (by decide) (by decide)
    let c := Block.plain ["ENCODING 67".toList, "DWIDTH 3 0".toList, "BBX 1 1 0 0".toList]
      ["8".toList] (by decide) (by decide)
    let d := Block.plain ["ENCODING 68".toList] [] (by decide) (by decide)
    let comment := Item.line "COMMENT".toList rfl
    let bare := Broken.bare "STARTCHAR".toList ["ENCODING 66".toList, "8".toList, "ENDCHAR".toList]
      rfl (by decide)
    let whole := textOf (linesOf [.block a, comment, .block c, .block d])
    let unendedText := textOf (linesOf [.block a] ++ (Broken.unended b).lines ++
      linesOf [comment, .block c, .block d])
    let bareText := textOf (linesOf [.block a] ++ bare.lines ++
      linesOf [comment, .block c, .block d])
    Spells whole (linesOf [.block a, comment, .block c, .block d]) ∧
      Spells unendedText (linesOf [.block a] ++ (Broken.unended b).lines ++
        linesOf [comment, .block c, .block d]) ∧
      Spells bareText (linesOf [.block a] ++ bare.lines ++
        linesOf [comment, .block c, .block d]) ∧
      c.Settled ∧
      (∀ code, b.metrics.code ≠ some code → (parse unendedText).glyphs.get? code =
        (parse (textOf (linesOf [.block a, .block d]))).glyphs.get? code) ∧
      (parse bareText).glyphs = (parse whole).glyphs := by
  intro a b c d comment bare whole unendedText bareText
  have hwhole : Spells whole _ := spells_textOf (by decide)
  have hunended : Spells unendedText _ := spells_textOf (by decide)
  have hbare : Spells bareText _ := spells_textOf (by decide)
  have hlost : Spells (textOf (linesOf [.block a, .block d])) _ := spells_textOf (by decide)
  have hgap : ∀ item ∈ [comment], item.Foreign :=
    List.forall_mem_singleton.2 (show Foreign "COMMENT".toList by decide)
  have hnext : ∀ line ∈ c.header, startsWith line "ENDCHAR".toList = false := by decide
  have hsettled : c.Settled := ⟨by decide, by decide +kernel, by decide +kernel⟩
  have hunendedReach := @broken_reaches_next [.block a] [comment] [.block d] (.unended b) c _ _
    hgap hnext hwhole hunended
  have hbareReach := @broken_reaches_next [.block a] [comment] [.block d] bare c _ _
    hgap hnext hwhole hbare
  exact ⟨hwhole, hunended, hbare, hsettled, hunendedReach.2 _ hlost, hbareReach.2.2 hsettled⟩

/-- A broken glyph between two others: without an end it costs the second one, and without a bitmap
it leaves its device width to it. -/
theorem broken_costs_next :
    let a := Block.plain ["ENCODING 65".toList] [] (by decide) (by decide)
    let b := Block.plain ["ENCODING 66".toList, "DWIDTH 9".toList] [] (by decide) (by decide)
    let bare := Broken.bare "STARTCHAR".toList
      ["ENCODING 66".toList, "DWIDTH 9".toList, "ENDCHAR".toList] rfl (by decide)
    let c := Block.plain ["ENCODING 67".toList] [] (by decide) (by decide)
    let whole := "STARTCHAR\nENCODING 65\nBITMAP\nENDCHAR\n" ++
      "STARTCHAR\nENCODING 67\nBITMAP\nENDCHAR\n"
    let unendedText := "STARTCHAR\nENCODING 65\nBITMAP\nENDCHAR\n" ++
      "STARTCHAR\nENCODING 66\nDWIDTH 9\nBITMAP\n" ++
      "STARTCHAR\nENCODING 67\nBITMAP\nENDCHAR\n"
    let bareText := "STARTCHAR\nENCODING 65\nBITMAP\nENDCHAR\n" ++
      "STARTCHAR\nENCODING 66\nDWIDTH 9\nENDCHAR\n" ++
      "STARTCHAR\nENCODING 67\nBITMAP\nENDCHAR\n"
    Spells whole (linesOf [.block a, .block c]) ∧
      Spells unendedText (linesOf [.block a] ++ (Broken.unended b).lines ++ linesOf [.block c]) ∧
      Spells bareText (linesOf [.block a] ++ bare.lines ++ linesOf [.block c]) ∧
      (parse whole).glyphs.get? 67 = some ⟨67, 0, 0, 0, 0, 0, []⟩ ∧
      (parse unendedText).glyphs.get? 67 = none ∧
      (parse bareText).glyphs.get? 67 = some ⟨67, 0, 0, 0, 0, 9, []⟩ := by
  decide +kernel

end SketchPreview.Bdf
