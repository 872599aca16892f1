import SketchPreview.Proofs.Canvas.View
import SketchPreview.Proofs.Text
import SketchPreview.Terminal.HalfBlocks

/-!
# A terminal shows a canvas

A terminal takes in a text character by character. Control sequences change its *pen*, the colours
in force; any other character is shown in a cell of its own with the pen of that moment. Half blocks
write only what changes from one cell to the next, so what a cell looks like depends on all that is
written before it.

* `Pen`, `Pen.select?`: the colours in force, and what a control sequence makes of them;
* `Screen`, `Screen.step`, `Screen.run?`: a terminal that takes in a text;
* `run?_sequence`, `run?_switch`, `run?_cellLine`, `run?_lines`: what it makes of styled text;
* **`run?_halfBlocks`**: it shows every pixel that is looked at.
-/

namespace SketchPreview.Terminal

/-! ## The terminal -/

/-- The colours in force, where there are any. -/
structure Pen where
  foreground : Option Nat
  background : Option Nat
  deriving DecidableEq, Repr

/-- The pen without colours. -/
def Pen.plain : Pen := ⟨none, none⟩

/-- The pen after a control sequence with the given numbers: `48;5;B` sets the background, `38;5;F`
the foreground, and `0` takes both away. Other numbers are not understood. -/
def Pen.select? (pen : Pen) : List Nat → Option Pen
  | [] => some pen
  | 0 :: rest => Pen.plain.select? rest
  | 38 :: 5 :: n :: rest => { pen with foreground := some n }.select? rest
  | 48 :: 5 :: n :: rest => { pen with background := some n }.select? rest
  | _ => none

/-- A character on the screen and the colours it is shown in. -/
structure Cell where
  glyph : Char
  pen : Pen
  deriving DecidableEq, Repr

/-- A finished row, and the pen when it was finished. -/
structure Row where
  cells : List Cell
  pen : Pen
  deriving DecidableEq, Repr

/-- What a terminal is in the middle of: text, or a control sequence after its first character, or
the numbers of one. -/
inductive Phase where
  | text
  | escape
  | control (numbers : List Char)
  deriving DecidableEq, Repr

/-- A terminal: the rows above, the row that is being written, and the pen. -/
structure Screen where
  rows : List Row
  cells : List Cell
  pen : Pen
  phase : Phase
  deriving DecidableEq, Repr

namespace Screen

/-- An empty screen. -/
def start : Screen := ⟨[], [], .plain, .text⟩

/-- Takes in a character, if it can be understood. -/
def step (s : Screen) (c : Char) : Option Screen :=
  match s.phase with
  | .text =>
    if c = '\x1b' then some { s with phase := .escape }
    else if c = '\n' then some { s with rows := s.rows ++ [⟨s.cells, s.pen⟩], cells := [] }
    else some { s with cells := s.cells ++ [⟨c, s.pen⟩] }
  | .escape => if c = '[' then some { s with phase := .control [] } else none
  | .control numbers =>
    if c = 'm' then do
      let pen ← s.pen.select? (← (Text.pieces ';' numbers).mapM Text.readNat?)
      some { s with pen, phase := .text }
    else some { s with phase := .control (numbers ++ [c]) }

/-- Takes in a text. -/
def run? (s : Screen) (text : String) : Option Screen := text.toList.foldlM step s

theorem run?_append {s s' : Screen} {a : String} (h : s.run? a = some s') (b : String) :
    s.run? (a ++ b) = s'.run? b := by
  unfold run? at *
  rw [String.toList_append, List.foldlM_append, h]
  rfl

theorem run?_empty (s : Screen) : s.run? "" = some s := rfl

/-! ## Control sequences -/

variable (rows : List Row) (cells : List Cell) (pen : Pen)

theorem foldlM_step_control (before : List Char) {numbers : List Char} (h : 'm' ∉ numbers) :
    numbers.foldlM step ⟨rows, cells, pen, .control before⟩ =
      some ⟨rows, cells, pen, .control (before ++ numbers)⟩ := by
  induction numbers generalizing before with
  | nil => simp
  | cons c rest ih =>
    have hc : c ≠ 'm' := (List.ne_of_not_mem_cons h).symm
    have hstep : step ⟨rows, cells, pen, .control before⟩ c =
        some ⟨rows, cells, pen, .control (before ++ [c])⟩ := by
      simp only [step, if_neg hc]
    rw [List.foldlM_cons, hstep]
    show rest.foldlM step _ = _
    rw [ih _ (List.not_mem_of_not_mem_cons h), List.append_assoc, List.singleton_append]

/-- Numbers with semicolons between them. -/
def semicolons (ns : List Nat) : List Char := [';'].intercalate (ns.map (Nat.toDigits 10))

theorem semicolons_cons_cons (a b : Nat) (ns : List Nat) :
    semicolons (a :: b :: ns) = Nat.toDigits 10 a ++ ';' :: semicolons (b :: ns) := by
  simp only [semicolons, List.map_cons, List.intercalate_cons_cons, List.append_assoc,
    List.singleton_append]

theorem semicolons_singleton (n : Nat) : semicolons [n] = Nat.toDigits 10 n :=
  List.intercalate_singleton ..

theorem mapM_pieces_semicolons {ns : List Nat} (hne : ns ≠ []) :
    (Text.pieces ';' (semicolons ns)).mapM Text.readNat? = some ns := by
  have hpieces : Text.pieces ';' (semicolons ns) = ns.map (Nat.toDigits 10) := by
    rw [Text.pieces_eq_splitOn, semicolons, List.splitOn_intercalate]
    · intro l hl hmem
      obtain ⟨n, -, rfl⟩ := List.mem_map.1 hl
      exact absurd (Nat.isDigit_of_mem_toDigits (by decide) (by decide) hmem) (by decide)
    · simpa using hne
  rw [hpieces]
  clear hne hpieces
  induction ns with
  | nil => rfl
  | cons n rest ih => simp [ih, Text.readNat?_toDigits]

theorem not_mem_semicolons (ns : List Nat) : 'm' ∉ semicolons ns := by
  intro h
  rcases Text.mem_intercalate h with h | ⟨p, hp, h⟩
  · exact absurd h (by decide)
  · obtain ⟨n, -, rfl⟩ := List.mem_map.1 hp
    exact absurd (Nat.isDigit_of_mem_toDigits (by decide) (by decide) h) (by decide)

/-- **A control sequence** changes the pen and nothing else. -/
theorem run?_sequence {codes : List String} (ns : List Nat) (hne : ns ≠ [])
    (h : (";".intercalate codes).toList = semicolons ns) {pen' : Pen}
    (hselect : pen.select? ns = some pen') :
    run? ⟨rows, cells, pen, .text⟩ (sequence codes) = some ⟨rows, cells, pen', .text⟩ := by
  have hend : step ⟨rows, cells, pen, .control (semicolons ns)⟩ 'm' =
      some ⟨rows, cells, pen', .text⟩ := by
    simp [step, mapM_pieces_semicolons hne, hselect]
  unfold run? sequence
  rw [String.toList_append, String.toList_append, h, List.append_assoc]
  show (semicolons ns ++ ['m']).foldlM step ⟨rows, cells, pen, .control []⟩ = _
  rw [List.foldlM_append, foldlM_step_control rows cells pen [] (not_mem_semicolons ns),
    List.nil_append]
  show ['m'].foldlM step ⟨rows, cells, pen, .control (semicolons ns)⟩ = _
  rw [List.foldlM_cons, hend]
  rfl

theorem run?_reset : run? ⟨rows, cells, pen, .text⟩ reset = some ⟨rows, cells, .plain, .text⟩ :=
  run?_sequence rows cells pen [0] (by simp) rfl rfl

end Screen

/-! ## Styled text -/

/-- The pen with these colours. -/
def Colors.pen (c : Colors) : Pen := ⟨some c.foreground, some c.background⟩

/-- The pen when some colours are in force, or none. -/
def penOf (current : Option Colors) : Pen := current.elim .plain Colors.pen

/-- A half block in these colours. -/
def Colors.cell (c : Colors) : Cell := ⟨'▀', c.pen⟩

theorem toList_backgroundCode (n : Nat) :
    (backgroundCode n).toList = Screen.semicolons [48, 5, n] := by
  rw [backgroundCode, String.toList_append, show (toString n).toList = _ from Nat.toList_repr,
    Screen.semicolons_cons_cons, Screen.semicolons_cons_cons, Screen.semicolons_singleton]
  rfl

theorem toList_foregroundCode (n : Nat) :
    (foregroundCode n).toList = Screen.semicolons [38, 5, n] := by
  rw [foregroundCode, String.toList_append, show (toString n).toList = _ from Nat.toList_repr,
    Screen.semicolons_cons_cons, Screen.semicolons_cons_cons, Screen.semicolons_singleton]
  rfl

namespace Screen

variable (rows : List Row)

/-- **A switch** from the colours in force to others, whether one, both or none of them change. -/
theorem run?_switch (cells : List Cell) (current : Option Colors) (next : Colors) :
    run? ⟨rows, cells, penOf current, .text⟩ (next.switch current) =
      some ⟨rows, cells, next.pen, .text⟩ := by
  by_cases hb : current.map (·.background) = some next.background <;>
    by_cases hf : current.map (·.foreground) = some next.foreground
  · obtain ⟨c, rfl, hc⟩ := Option.map_eq_some_iff.1 hb
    have hpen : penOf (some c) = next.pen := by
      show Colors.pen c = next.pen
      rw [Colors.pen, hc, show c.foreground = next.foreground from Option.some.inj hf]
      rfl
    simp only [Colors.switch, Colors.codes, if_pos hb, if_pos hf, List.append_nil]
    rw [hpen]
    exact run?_empty _
  · obtain ⟨c, rfl, hc⟩ := Option.map_eq_some_iff.1 hb
    simp only [Colors.switch, Colors.codes, if_pos hb, if_neg hf, List.nil_append]
    refine run?_sequence rows cells _ [38, 5, next.foreground] (by simp) ?_ ?_
    · exact toList_foregroundCode _
    · show some (⟨some next.foreground, some c.background⟩ : Pen) = some next.pen
      rw [hc]
      rfl
  · obtain ⟨c, rfl, hc⟩ := Option.map_eq_some_iff.1 hf
    simp only [Colors.switch, Colors.codes, if_neg hb, if_pos hf, List.append_nil]
    refine run?_sequence rows cells _ [48, 5, next.background] (by simp) ?_ ?_
    · exact toList_backgroundCode _
    · show some (⟨some c.foreground, some next.background⟩ : Pen) = some next.pen
      rw [hc]
      rfl
  · simp only [Colors.switch, Colors.codes, if_neg hb, if_neg hf, List.singleton_append]
    refine run?_sequence rows cells _ [48, 5, next.background, 38, 5, next.foreground] (by simp)
      ?_ rfl
    rw [String.toList_intercalate, List.map_cons, List.map_singleton, toList_backgroundCode,
      toList_foregroundCode, List.intercalate_cons_cons, List.intercalate_singleton]
    simp only [semicolons_cons_cons, semicolons_singleton, List.append_assoc, List.cons_append]
    rfl

theorem run?_upperHalf (cells : List Cell) (c : Colors) :
    run? ⟨rows, cells, c.pen, .text⟩ upperHalf =
      some ⟨rows, cells ++ [c.cell], c.pen, .text⟩ := rfl

/-- The cells of a line are shown one after the other, each in its colours; the invariant is that
the pen is that of the colours in force. -/
theorem run?_cellTexts (cells : List Cell) (current : Option Colors) (line : List Colors) :
    run? ⟨rows, cells, penOf current, .text⟩ (String.join (cellTexts upperHalf current line)) =
      some ⟨rows, cells ++ line.map Colors.cell, .plain, .text⟩ := by
  induction line generalizing cells current with
  | nil =>
    rw [List.map_nil, List.append_nil]
    cases current with
    | none => rfl
    | some c => exact run?_reset rows cells c.pen
  | cons next rest ih =>
    have hcell := run?_append (run?_switch rows cells current next) upperHalf
    rw [run?_upperHalf] at hcell
    rw [cellTexts, String.join_cons, run?_append hcell]
    show run? ⟨rows, _, penOf (some next), .text⟩ _ = _
    rw [ih, List.append_assoc, List.singleton_append, List.map_cons]

/-- **A line of half blocks** is shown as a row, and ends without colours. -/
theorem run?_cellLine (line : List Colors) :
    run? ⟨rows, [], .plain, .text⟩ (cellLine upperHalf line ++ "\n") =
      some ⟨rows ++ [⟨line.map Colors.cell, .plain⟩], [], .plain, .text⟩ :=
  run?_append (run?_cellTexts rows [] none line) "\n"

theorem run?_lines (lines : List (List Colors)) :
    run? ⟨rows, [], .plain, .text⟩
        (String.join (lines.map fun line => cellLine upperHalf line ++ "\n")) =
      some ⟨rows ++ lines.map fun line => ⟨line.map Colors.cell, .plain⟩, [], .plain, .text⟩ := by
  induction lines generalizing rows with
  | nil => simp [run?_empty]
  | cons line rest ih =>
    rw [List.map_cons, String.join_cons, run?_append (run?_cellLine rows line), ih,
      List.append_assoc, List.singleton_append, List.map_cons]

end Screen

/-! ## Canvases -/

theorem getElem?_map_range {α : Type} {f : Nat → α} {n i : Nat} {a : α}
    (h : ((List.range n).map f)[i]? = some a) : i < n ∧ f i = a := by
  obtain ⟨hi, rfl⟩ := List.getElem?_eq_some_iff.1 h
  rw [List.length_map, List.length_range] at hi
  exact ⟨hi, by simp⟩

/-- **A terminal shows every pixel that is looked at.** With every `step`-th pixel of both
directions, each row shows two rows of pixels, the upper ones in the colours of the glyphs and the
lower ones behind them, black below the canvas. All styles are ended at the end of each row. -/
theorem run?_halfBlocks (c : Canvas) (step : Nat) :
    ∃ rows : List Row,
      Screen.start.run? (halfBlocks c step) = some ⟨rows, [], .plain, .text⟩ ∧
      rows.length = (c.height / max step 1 + 1) / 2 ∧
      ∀ r row, rows[r]? = some row →
        row.pen = .plain ∧ row.cells.length = c.width / max step 1 ∧
        ∀ column cell, row.cells[column]? = some cell →
          ∃ upper, c.get? (column * max step 1 : Nat) (2 * r * max step 1 : Nat) = some upper ∧
            cell = ⟨'▀', some (grey upper), some (grey
              ((c.get? (column * max step 1 : Nat) ((2 * r + 1) * max step 1 : Nat)).getD 0))⟩ := by
  unfold halfBlocks
  have hpos : 0 < max step 1 := Nat.le_max_right _ _
  generalize max step 1 = s at *
  have hside : ∀ {x n : Nat}, x < n / s → x * s < n := by
    intro x n hx
    have hle : (x + 1) * s ≤ n := (Nat.le_div_iff_mul_le hpos).1 hx
    rw [Nat.succ_mul] at hle
    omega
  have hrun := Screen.run?_lines [] ((List.range ((c.height / s + 1) / 2)).map (cells c s))
  rw [List.map_map] at hrun
  refine ⟨_, hrun, by simp, fun r row hrow => ?_⟩
  simp only [List.nil_append, List.map_map] at hrow
  obtain ⟨hr, rfl⟩ := getElem?_map_range hrow
  refine ⟨rfl, by simp [cells], fun column cell hcell => ?_⟩
  simp only [Function.comp_apply, cells, List.map_map] at hcell
  obtain ⟨hcolumn, rfl⟩ := getElem?_map_range hcell
  obtain ⟨upper, hupper⟩ := c.exists_get?_of_lt (hside hcolumn)
    (hside (show 2 * r < c.height / s by omega))
  refine ⟨upper, hupper, ?_⟩
  show (⟨'▀', some (pixelColor c (column * s) (2 * r * s)), some _⟩ : Cell) = _
  rw [pixelColor, hupper]
  rfl

end SketchPreview.Terminal
