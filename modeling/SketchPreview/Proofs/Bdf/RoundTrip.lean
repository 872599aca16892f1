import SketchPreview.Proofs.Bdf.Block
import SketchPreview.Proofs.Bdf.Row
import SketchPreview.Proofs.Json.Number

/-!
# Fonts are read back

A font is written line by line: its name and metrics, and then for each glyph its metrics and the
rows of its dots. How the digits of rows are spelled and what the glyphs are called is free.

* `Glyph.Regular`, `BitmapFont.Regular`: the glyphs and fonts that can be written;
* `Style`, `Style.lines`, `Style.write`: a font as text;
* `number?_numbers`, `codePoint?_numbers`: the numbers on a line;
* `foldl_read_metricLines`, `foldl_addRow_rows`, `foldl_step_glyphLines`: the lines of a glyph;
* `foldl_step_fontHeader`, `foldl_step_glyphs`: the lines of a font;
* **`parse_write`**: the font is read back.
-/

namespace SketchPreview

/-! ## Regular fonts -/

/-- A glyph with as many dots as its size tells, none of its sides too long. -/
structure Glyph.Regular (g : Glyph) : Prop where
  width_nonneg : 0 ≤ g.width.toInt
  width_le : g.width.toInt ≤ 4096
  height_nonneg : 0 ≤ g.height.toInt
  height_le : g.height.toInt ≤ 4096
  deviceWidth : g.deviceWidth = 0 → g.width = 0
  rowCount : g.rows.length = g.height.toInt
  rowLength : ∀ row ∈ g.rows, row.length = g.width.toInt

/-- A font with a trimmed name on one line, the distance of lines that its metrics tell, and regular
glyphs under their code points. -/
structure BitmapFont.Regular (f : BitmapFont) : Prop where
  trimmed : Text.trim f.name.toList = f.name.toList
  oneLine : '\n' ∉ f.name.toList
  lineHeight : f.lineHeight.toInt =
    if clamp32 (f.ascent.toInt + f.descent.toInt) = 0 then 8
    else clamp32 (f.ascent.toInt + f.descent.toInt)
  code : ∀ e ∈ f.glyphs.entries, e.2.code = e.1
  glyph : ∀ e ∈ f.glyphs.entries, e.2.Regular

namespace Bdf

open Text

/-! ## Numbers -/

theorem isWord_toDigits (n : Nat) : IsWord (Nat.toDigits 10 n) :=
  ⟨Nat.toDigits_ne_nil, fun c hc => isBlank_of_isWordChar (by
    have hdigit : c.isDigit = true := Nat.isDigit_of_mem_toDigits (by decide) (by decide) hc
    simp [isWordChar, Char.isAlphanum, hdigit])⟩

theorem isWord_ofInt (n : Int) : IsWord (ofInt n) := by
  cases n with
  | ofNat n =>
    rw [Json.ofInt_ofNat]
    exact isWord_toDigits n
  | negSucc n =>
    rw [Json.ofInt_negSucc]
    refine ⟨List.cons_ne_nil _ _, fun c hc => ?_⟩
    rcases List.mem_cons.1 hc with rfl | hc
    · decide
    · exact (isWord_toDigits _).2 c hc

theorem readInt?_of_isDigit {c : Char} (hc : c.isDigit = true) (rest : List Char) :
    readInt? (c :: rest) = (readNat? (c :: rest)).map Int.ofNat := by
  rw [readInt?]
  · rintro _ heq
    cases heq
    exact absurd hc (by decide)
  · rintro _ heq
    cases heq
    exact absurd hc (by decide)

theorem readInt?_ofInt (n : Int) : readInt? (ofInt n) = some n := by
  cases n with
  | ofNat n =>
    obtain ⟨c, rest, hdigits, hc⟩ := Json.exists_toDigits_eq_cons n
    rw [Json.ofInt_ofNat, hdigits, readInt?_of_isDigit hc, ← hdigits, readNat?_toDigits]
    rfl
  | negSucc n =>
    rw [Json.ofInt_negSucc, readInt?, readNat?_toDigits]
    rfl

/-! ## Fonts as text -/

/-- What is free in writing a font: the digits of rows, and how the glyph of a code point is
called. -/
structure Style where
  digits : Digits
  title : UInt32 → List Char
  isWord_title : ∀ code, IsWord (title code)

/-- Capital digits, and glyphs called by their code points. -/
def Style.standard : Style where
  digits := .upper
  title := fun code => Nat.toDigits 10 code.toNat
  isWord_title := fun _ => isWord_toDigits _

/-- A line with a key word and numbers. -/
def numbers (key : String) (values : List Int) : List Char :=
  spaced (key.toList :: values.map ofInt)

/-- The lines of a glyph in front of its rows. -/
def Style.glyphHeader (s : Style) (g : Glyph) : List (List Char) :=
  [spaced ["STARTCHAR".toList, s.title g.code],
    numbers "ENCODING" [g.code.toNat],
    numbers "DWIDTH" [g.deviceWidth.toInt, 0],
    numbers "BBX" [g.width.toInt, g.height.toInt, g.xOffset.toInt, g.yOffset.toInt],
    "BITMAP".toList]

/-- The lines of a glyph. -/
def Style.glyphLines (s : Style) (g : Glyph) : List (List Char) :=
  s.glyphHeader g ++ g.rows.map s.digits.row ++ ["ENDCHAR".toList]

/-- The lines of a font in front of its glyphs. -/
def fontHeader (f : BitmapFont) : List (List Char) :=
  [spaced ["FONT".toList, f.name.toList], numbers "FONT_ASCENT" [f.ascent.toInt],
    numbers "FONT_DESCENT" [f.descent.toInt]]

/-- The lines of a font. -/
def Style.lines (s : Style) (f : BitmapFont) : List (List Char) :=
  fontHeader f ++ f.glyphs.entries.flatMap fun e => s.glyphLines e.2

/-- A font as text, with a newline behind each line. -/
def Style.write (s : Style) (f : BitmapFont) : String :=
  String.ofList ((s.lines f).flatMap (· ++ ['\n']))

/-! ## The numbers on a line -/

theorem isWord_of_mem_numbers {key : String} (hkey : IsWord key.toList) {values : List Int} :
    ∀ w ∈ key.toList :: values.map ofInt, IsWord w := by
  refine List.forall_mem_cons.2 ⟨hkey, fun w hw => ?_⟩
  obtain ⟨m, -, rfl⟩ := List.mem_map.1 hw
  exact isWord_ofInt m

theorem word?_numbers {key : String} (hkey : IsWord key.toList) {values : List Int} {n : Nat}
    {v : Int} (h : values[n]? = some v) :
    (word? (n + 1) (numbers key values)).bind readInt? = some v := by
  rw [numbers, word?_spaced (isWord_of_mem_numbers hkey), List.getElem?_cons_succ,
    List.getElem?_map, h, Option.map_some, Option.bind_some, readInt?_ofInt]

theorem number?_numbers {key : String} (hkey : IsWord key.toList) {values : List Int} {n : Nat}
    {v : Int32} (h : values[n]? = some v.toInt) :
    number? (n + 1) (numbers key values) = some v := by
  rw [number?, word?_numbers hkey h]
  dsimp only
  rw [if_pos (fits32_toInt v), Int32.ofInt_toInt]

theorem codePoint?_numbers {key : String} (hkey : IsWord key.toList) (code : UInt32) :
    codePoint? (numbers key [code.toNat]) = some code := by
  rw [codePoint?, word?_numbers hkey (n := 0) rfl]
  dsimp only
  rw [if_pos ⟨Int.natCast_nonneg _, Int.ofNat_lt.2 code.toNat_lt_size⟩, Int.toNat_natCast,
    UInt32.ofNat_toNat]

/-! ## Key words -/

/-- Two key words of which neither begins the other. -/
def Apart (v w : List Char) : Prop := ¬w <+: v ∧ ¬v <+: w

instance (v w : List Char) : Decidable (Apart v w) :=
  inferInstanceAs (Decidable (¬w <+: v ∧ ¬v <+: w))

theorem dropPrefix?_of_apart {key word : List Char} (h : Apart key word) (rest : List Char) :
    dropPrefix? word (key ++ rest) = none := by
  refine Option.eq_none_iff_forall_ne_some.2 fun rest' hrest => ?_
  have hword : word <+: key ++ rest := ⟨rest', (dropPrefix?_eq_some_iff.1 hrest).symm⟩
  rcases Nat.le_total word.length key.length with hle | hle
  · exact h.1 (List.prefix_of_prefix_length_le hword (List.prefix_append key rest) hle)
  · exact h.2 (List.prefix_of_prefix_length_le (List.prefix_append key rest) hword hle)

theorem startsWith_of_apart {key word line : List Char} (h : Apart key word)
    (hline : startsWith line key = true) : startsWith line word = false := by
  obtain ⟨rest, rfl⟩ := startsWith_iff.1 hline
  rw [startsWith, dropPrefix?_of_apart h]
  rfl

theorem exists_spaced (w : List Char) (ws : List (List Char)) :
    ∃ rest, spaced (w :: ws) = w ++ rest := by
  cases ws with
  | nil => exact ⟨[], by rw [spaced, List.intercalate_singleton, List.append_nil]⟩
  | cons v ws =>
    refine ⟨' ' :: spaced (v :: ws), ?_⟩
    rw [spaced, List.intercalate_cons_cons, List.append_assoc, List.singleton_append, spaced]

theorem startsWith_spaced_self (key : List Char) (ws : List (List Char)) :
    startsWith (spaced (key :: ws)) key = true := by
  obtain ⟨rest, hrest⟩ := exists_spaced key ws
  exact startsWith_iff.2 ⟨rest, hrest.symm⟩

theorem dropPrefix?_spaced {key word : List Char} (h : Apart key word) (ws : List (List Char)) :
    dropPrefix? word (spaced (key :: ws)) = none := by
  obtain ⟨rest, hrest⟩ := exists_spaced key ws
  rw [hrest, dropPrefix?_of_apart h]

theorem startsWith_spaced {key word : List Char} (h : Apart key word) (ws : List (List Char)) :
    startsWith (spaced (key :: ws)) word = false :=
  startsWith_of_apart h (startsWith_spaced_self key ws)

theorem startsWith_numbers {key : String} {word : List Char} (h : Apart key.toList word)
    (values : List Int) : startsWith (numbers key values) word = false := startsWith_spaced h _

/-! ## The lines of a glyph -/

/-- What is read of a glyph when its rows begin. -/
def headerOf (g : Glyph) : GlyphHeader :=
  ⟨some g.code, g.deviceWidth, g.width, g.height, g.xOffset, g.yOffset⟩

theorem max_zero_of_nonneg {n : Int32} (h : 0 ≤ n.toInt) : max n 0 = n := by
  have hle : (0 : Int32) ≤ n := Int32.le_iff_toInt_le.2 h
  show (if n ≤ 0 then 0 else n) = n
  split
  · next hn => exact Int32.le_antisymm hle hn
  · rfl

theorem read_encoding (h : GlyphHeader) (code : UInt32) :
    h.read (numbers "ENCODING" [code.toNat]) = { h with code := some code } := by
  rw [GlyphHeader.read, numbers, if_pos (startsWith_spaced_self _ _), ← numbers,
    codePoint?_numbers (by decide)]

theorem read_deviceWidth (h : GlyphHeader) (n : Int32) :
    h.read (numbers "DWIDTH" [n.toInt, 0]) = { h with deviceWidth := n } := by
  rw [GlyphHeader.read, numbers, startsWith_spaced (by decide), if_neg Bool.false_ne_true,
    if_pos (startsWith_spaced_self _ _), ← numbers, number?_numbers (by decide) (n := 0) rfl]
  rfl

theorem read_boundingBox (h : GlyphHeader) {width height : Int32} (hwidth : 0 ≤ width.toInt)
    (hheight : 0 ≤ height.toInt) (xOffset yOffset : Int32) :
    h.read (numbers "BBX" [width.toInt, height.toInt, xOffset.toInt, yOffset.toInt]) =
      { h with width, height, xOffset, yOffset } := by
  rw [GlyphHeader.read, numbers, startsWith_spaced (by decide), if_neg Bool.false_ne_true,
    startsWith_spaced (by decide), if_neg Bool.false_ne_true,
    if_pos (startsWith_spaced_self _ _), ← numbers, number?_numbers (by decide) (n := 0) rfl,
    number?_numbers (by decide) (n := 1) rfl, number?_numbers (by decide) (n := 2) rfl,
    number?_numbers (by decide) (n := 3) rfl]
  dsimp only
  rw [max_zero_of_nonneg hwidth, max_zero_of_nonneg hheight]

/-- The lines that tell the metrics of a glyph. -/
def metricLines (g : Glyph) : List (List Char) :=
  [numbers "ENCODING" [g.code.toNat], numbers "DWIDTH" [g.deviceWidth.toInt, 0],
    numbers "BBX" [g.width.toInt, g.height.toInt, g.xOffset.toInt, g.yOffset.toInt]]

theorem foldl_read_metricLines {g : Glyph} (hg : g.Regular) :
    (metricLines g).foldl GlyphHeader.read .standard = headerOf g := by
  rw [metricLines, List.foldl_cons, List.foldl_cons, List.foldl_cons, List.foldl_nil, read_encoding,
    read_deviceWidth, read_boundingBox _ hg.width_nonneg hg.height_nonneg]
  rfl

theorem foldl_step_glyphHeader (s : Style) {g : Glyph} (hg : g.Regular) (font : Header)
    (glyphs : SortedMap UInt32 Glyph) :
    (s.glyphHeader g).foldl Reader.step ⟨font, glyphs, .outside⟩ =
      ⟨font, glyphs, .bitmap (headerOf g) []⟩ := by
  have hlines : s.glyphHeader g =
      spaced ["STARTCHAR".toList, s.title g.code] :: (metricLines g ++ ["BITMAP".toList]) := rfl
  have hplain : ∀ line ∈ metricLines g, startsWith line "BITMAP".toList = false :=
    List.forall_mem_cons.2 ⟨startsWith_numbers (by decide) _, List.forall_mem_cons.2
      ⟨startsWith_numbers (by decide) _, List.forall_mem_singleton.2
        (startsWith_numbers (by decide) _)⟩⟩
  rw [hlines, List.foldl_cons, step_opening font glyphs (startsWith_spaced_self _ _),
    List.foldl_append, foldl_step_header font glyphs hplain, foldl_read_metricLines hg,
    List.foldl_cons, step_bitmap font glyphs (by decide)]
  rfl

theorem foldl_addRow_rows (s : Style) {g : Glyph} (hg : g.Regular) {taken rest : List (List Bool)}
    (h : taken ++ rest = g.rows) :
    (rest.map s.digits.row).foldl (headerOf g).addRow taken = g.rows := by
  induction rest generalizing taken with
  | nil => rwa [List.append_nil] at h
  | cons row rest ih =>
    have hlength : row.length = (headerOf g).width.toInt.toNat := by
      have := hg.rowLength row (h ▸ by simp)
      show row.length = g.width.toInt.toNat
      omega
    have hcount : taken.length < (headerOf g).height.toInt.toNat := by
      have := hg.rowCount
      rw [← h, List.length_append, List.length_cons] at this
      show taken.length < g.height.toInt.toNat
      omega
    have hside : (headerOf g).width ≤ maxGlyphSide := Int32.le_iff_toInt_le.2 hg.width_le
    have hrow : (headerOf g).addRow taken (s.digits.row row) = taken ++ [row] := by
      rw [GlyphHeader.addRow, if_pos ⟨hcount, hside⟩,
        trim_of_not_blank fun c hc => isBlank_of_mem_row hc, ← hlength, rowBits_row]
    rw [List.map_cons, List.foldl_cons, hrow, ih (by simpa using h)]

/-- **The lines of a glyph** add it to the font. -/
theorem foldl_step_glyphLines (s : Style) {g : Glyph} (hg : g.Regular) (font : Header)
    (glyphs : SortedMap UInt32 Glyph) :
    (s.glyphLines g).foldl Reader.step ⟨font, glyphs, .outside⟩ =
      ⟨font, glyphs.insert g.code g, .outside⟩ := by
  have hglyph : (headerOf g).glyph? g.rows = some g := by
    have hwidth : (headerOf g).width ≤ maxGlyphSide := Int32.le_iff_toInt_le.2 hg.width_le
    have hheight : (headerOf g).height ≤ maxGlyphSide := Int32.le_iff_toInt_le.2 hg.height_le
    have hdevice : (if g.deviceWidth = 0 then g.width else g.deviceWidth) = g.deviceWidth := by
      split
      · next h => rw [hg.deviceWidth h, h]
      · rfl
    rw [GlyphHeader.glyph?, if_pos ⟨hwidth, hheight⟩]
    show some { g with
      deviceWidth := if g.deviceWidth = 0 then g.width else g.deviceWidth } = some g
    rw [hdevice]
  have hrows : ∀ line ∈ g.rows.map s.digits.row, startsWith line "ENDCHAR".toList = false :=
    List.forall_mem_map.2 fun row _ => startsWith_row (c := 'N') (by decide) (by decide)
  rw [Style.glyphLines, List.foldl_append, List.foldl_append, foldl_step_glyphHeader s hg,
    foldl_step_bitmap font glyphs hrows, foldl_addRow_rows s hg (List.nil_append _),
    List.foldl_cons, List.foldl_nil, step_ending font glyphs (by decide), hglyph]
  rfl

/-! ## The lines of a font -/

/-- What is read of a font in front of its glyphs. -/
def headerOfFont (f : BitmapFont) : Header := ⟨f.name, f.ascent, f.descent⟩

theorem spaced_name (name : List Char) : spaced ["FONT".toList, name] = "FONT ".toList ++ name := by
  rw [spaced, List.intercalate_cons_cons, List.intercalate_singleton]
  rfl

theorem read_name (h : Header) {name : String} (hname : trim name.toList = name.toList) :
    h.read (spaced ["FONT".toList, name.toList]) = { h with name } := by
  rw [spaced_name, Header.read, dropPrefix?_eq_some_iff.2 rfl]
  dsimp only
  rw [hname, String.ofList_toList]

theorem read_ascent (h : Header) (n : Int32) :
    h.read (numbers "FONT_ASCENT" [n.toInt]) = { h with ascent := n } := by
  rw [Header.read, numbers, dropPrefix?_spaced (by decide)]
  dsimp only
  rw [if_pos (startsWith_spaced_self _ _), ← numbers, number?_numbers (by decide) (n := 0) rfl]
  rfl

theorem read_descent (h : Header) (n : Int32) :
    h.read (numbers "FONT_DESCENT" [n.toInt]) = { h with descent := n } := by
  rw [Header.read, numbers, dropPrefix?_spaced (by decide)]
  dsimp only
  rw [startsWith_spaced (by decide), if_neg Bool.false_ne_true,
    if_pos (startsWith_spaced_self _ _), ← numbers, number?_numbers (by decide) (n := 0) rfl]
  rfl

theorem foldl_step_fontHeader {f : BitmapFont} (hf : f.Regular) :
    (fontHeader f).foldl Reader.step .start = ⟨headerOfFont f, .empty, .outside⟩ := by
  rw [fontHeader, List.foldl_cons, List.foldl_cons, List.foldl_cons, List.foldl_nil, Reader.start,
    step_headerLine _ _ (startsWith_spaced (by decide) _), read_name _ hf.trimmed,
    step_headerLine _ _ (startsWith_numbers (by decide) _), read_ascent,
    step_headerLine _ _ (startsWith_numbers (by decide) _), read_descent]
  rfl

/-- The glyphs of a font are taken in one after the other. -/
theorem foldl_step_glyphs (s : Style) (font : Header) {entries : List (UInt32 × Glyph)}
    (h : ∀ e ∈ entries, e.2.code = e.1 ∧ e.2.Regular) (glyphs : SortedMap UInt32 Glyph) :
    (entries.flatMap fun e => s.glyphLines e.2).foldl Reader.step ⟨font, glyphs, .outside⟩ =
      ⟨font, entries.foldl (fun m e => m.insert e.1 e.2) glyphs, .outside⟩ := by
  induction entries generalizing glyphs with
  | nil => rfl
  | cons e rest ih =>
    obtain ⟨hcode, hregular⟩ := h e List.mem_cons_self
    rw [List.flatMap_cons, List.foldl_append, foldl_step_glyphLines s hregular, hcode,
      ih (fun e' he' => h e' (List.mem_cons_of_mem _ he')), List.foldl_cons]

/-! ## Every line stands on its own -/

theorem isLine_numbers {key : String} (hkey : IsWord key.toList) (values : List Int) :
    IsLine (numbers key values) := isLine_spaced (isWord_of_mem_numbers hkey)

theorem isLine_glyphLines (s : Style) (g : Glyph) : ∀ line ∈ s.glyphLines g, IsLine line := by
  have htitle : ∀ w ∈ ["STARTCHAR".toList, s.title g.code], IsWord w :=
    List.forall_mem_cons.2 ⟨by decide, List.forall_mem_singleton.2 (s.isWord_title _)⟩
  intro line hline
  rw [Style.glyphLines, List.mem_append, List.mem_append, Style.glyphHeader] at hline
  rcases hline with (hline | hline) | hline
  · simp only [List.mem_cons, List.not_mem_nil, or_false] at hline
    rcases hline with rfl | rfl | rfl | rfl | rfl
    · exact isLine_spaced htitle
    · exact isLine_numbers (by decide) _
    · exact isLine_numbers (by decide) _
    · exact isLine_numbers (by decide) _
    · exact IsWord.isLine (by decide)
  · obtain ⟨row, -, rfl⟩ := List.mem_map.1 hline
    exact isLine_of_not_blank fun c hc => .inr (isBlank_of_mem_row hc)
  · obtain rfl := List.mem_singleton.1 hline
    exact IsWord.isLine (by decide)

theorem isLine_name {f : BitmapFont} (hf : f.Regular) :
    IsLine (spaced ["FONT".toList, f.name.toList]) := by
  rw [spaced_name]
  refine ⟨fun hmem => ?_, fun hlast => ?_⟩
  · rcases List.mem_append.1 hmem with hmem | hmem
    · exact absurd hmem (by decide)
    · exact hf.oneLine hmem
  · rw [List.getLast?_append] at hlast
    cases hname : f.name.toList.getLast? with
    | none => rw [hname] at hlast; exact absurd hlast (by decide)
    | some c =>
      rw [hname] at hlast
      obtain rfl : c = '\r' := by simpa using hlast
      rw [← hf.trimmed] at hname
      exact absurd (isBlank_getLast_trim hname) (by decide)

theorem isLine_lines (s : Style) {f : BitmapFont} (hf : f.Regular) :
    ∀ line ∈ s.lines f, IsLine line := by
  intro line hline
  rcases List.mem_append.1 hline with hline | hline
  · simp only [fontHeader, List.mem_cons, List.not_mem_nil, or_false] at hline
    rcases hline with rfl | rfl | rfl
    · exact isLine_name hf
    · exact isLine_numbers (by decide) _
    · exact isLine_numbers (by decide) _
  · obtain ⟨e, -, hline⟩ := List.mem_flatMap.1 hline
    exact isLine_glyphLines s e.2 line hline

/-! ## The font is read back -/

theorem lineHeight_headerOfFont {f : BitmapFont} (hf : f.Regular) :
    (headerOfFont f).lineHeight = f.lineHeight := by
  have hsum := toInt_nearestInt32 (f.ascent.toInt + f.descent.toInt)
  refine Int32.toInt_inj.1 ?_
  rw [hf.lineHeight, ← hsum]
  show (if nearestInt32 (f.ascent.toInt + f.descent.toInt) = 0 then 8
    else nearestInt32 (f.ascent.toInt + f.descent.toInt)).toInt = _
  split
  · next h =>
    rw [h]
    rfl
  · next h =>
    have hne : (nearestInt32 (f.ascent.toInt + f.descent.toInt)).toInt ≠ 0 := fun hzero =>
      h (Int32.toInt_inj.1 hzero)
    rw [if_neg hne]

/-- **A font is read back from its text**, however its rows are spelled and its glyphs called. -/
theorem parse_write (s : Style) {f : BitmapFont} (hf : f.Regular) : parse (s.write f) = f := by
  have hglyphs : ∀ e ∈ f.glyphs.entries, e.2.code = e.1 ∧ e.2.Regular := fun e he =>
    ⟨hf.code e he, hf.glyph e he⟩
  have hmap : f.glyphs.entries.foldl (fun m e => m.insert e.1 e.2) .empty = f.glyphs :=
    f.glyphs.ofList_entries
  have hread : (s.lines f ++ [[]]).foldl Reader.step .start =
      ⟨headerOfFont f, f.glyphs, .outside⟩ := by
    rw [Style.lines, List.foldl_append, List.foldl_append, foldl_step_fontHeader hf,
      foldl_step_glyphs s _ hglyphs, hmap]
    rfl
  rw [parse, Style.write, String.toList_ofList, lines_ended (isLine_lines s hf), parseLines, hread,
    Reader.finish, Reader.bitmapFont, lineHeight_headerOfFont hf]
  rfl

/-- A font with a glyph that does not fill its bytes and one without dots. -/
theorem parse_write_tiny :
    let dots : Glyph := ⟨65, 3, 2, -1, 0, 4, [[true, false, true], [false, true, true]]⟩
    let space : Glyph := ⟨32, 0, 0, 0, 0, 0, []⟩
    let tiny : BitmapFont := ⟨"Tiny", 7, 1, 8, .ofList [(65, dots), (32, space)]⟩
    tiny.Regular ∧ parse (Style.standard.write tiny) = tiny := by
  intro dots space tiny
  have hdots : dots.Regular :=
    ⟨by decide, by decide, by decide, by decide, by decide, rfl, by decide⟩
  have hspace : space.Regular :=
    ⟨by decide, by decide, by decide, by decide, by decide, rfl, by decide⟩
  have htiny : tiny.Regular :=
    ⟨by decide, by decide, by decide, by decide,
      List.forall_mem_cons.2 ⟨hspace, List.forall_mem_singleton.2 hdots⟩⟩
  exact ⟨htiny, parse_write .standard htiny⟩

end Bdf
end SketchPreview
