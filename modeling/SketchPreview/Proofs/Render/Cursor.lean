import Mathlib.Algebra.Order.BigOperators.Group.List
import Mathlib.Data.List.Infix
import SketchPreview.Proofs.Render.Step

/-!
# How far text moves the cursor

Two sums tell how far a text reaches. The width of a text is held to 32 bits at every character; the
pen that draws it runs on freely, and only what it has covered at the end is held to 32 bits. They
agree while no sum along the way leaves the range, or where sums can only grow. The cursor that a
text leaves behind is where its pen stopped, as long as it fits, so a text may be printed in parts.

* `BitmapFont.extent`: the sum over unbounded numbers;
* `BitmapFont.measure_of_fits`, `BitmapFont.measure_of_nonneg`: where the width is that sum, held to
  32 bits once;
* `BitmapFont.fits64_pen`: the pen stays a 64-bit number;
* `Canvas.drawText_append`: a text drawn in parts;
* `Drawing.canvas_perform_print`, `Drawing.state_perform_print`: what printing leaves behind where a
  bitmap font is in force;
* **`Drawing.width_eq_measure`**: the width drawn is the width measured;
* **`Drawing.print_append`**: a text printed in parts.
-/

namespace SketchPreview

namespace BitmapFont

variable (f : BitmapFont)

/-! ## Sums of advances -/

/-- How far a text moves the pen, over unbounded numbers. -/
def extent (text : List Char) : Int := (text.map f.advance).sum

theorem extent_cons (c : Char) (text : List Char) :
    f.extent (c :: text) = f.advance c + f.extent text := List.sum_cons

theorem extent_append (a b : List Char) : f.extent (a ++ b) = f.extent a + f.extent b := by
  unfold extent
  rw [List.map_append, List.sum_append]

variable {f} {text : List Char}

theorem extent_nonneg (h : ∀ c ∈ text, 0 ≤ f.advance c) : 0 ≤ f.extent text :=
  List.sum_nonneg (List.forall_mem_map.2 h)

theorem foldl_of_fits {n : Int} (h : ∀ pre, pre <+: text → Fits32 (n + f.extent pre)) :
    text.foldl (fun sum c => clamp32 (sum + f.advance c)) n = n + f.extent text := by
  induction text generalizing n with
  | nil => exact (Int.add_zero n).symm
  | cons c rest ih =>
    have hfirst : Fits32 (n + f.advance c) := by
      have := h [c] (by simp)
      rwa [extent_cons, show f.extent [] = 0 from rfl, Int.add_zero] at this
    rw [List.foldl_cons, clamp32_of_fits hfirst, extent_cons, ← Int.add_assoc]
    refine ih fun pre hpre => ?_
    rw [Int.add_assoc, ← extent_cons]
    exact h (c :: pre) ((List.prefix_cons_inj c).2 hpre)

theorem foldl_of_nonneg {n : Int} (hn : Fits32 n) (h : ∀ c ∈ text, 0 ≤ f.advance c) :
    text.foldl (fun sum c => clamp32 (sum + f.advance c)) n = clamp32 (n + f.extent text) := by
  induction text generalizing n with
  | nil => exact ((congrArg clamp32 (Int.add_zero n)).trans (clamp32_of_fits hn)).symm
  | cons c rest ih =>
    obtain ⟨hc, hrest⟩ := List.forall_mem_cons.1 h
    -- once a sum has reached the upper end, what is left to add keeps it there
    have hextent := extent_nonneg hrest
    rw [List.foldl_cons, ih (fits32_clamp32 _) hrest, extent_cons]
    unfold Fits32 min32 max32 at hn
    unfold clamp32 min32 max32
    omega

theorem measure_of_fits (h : ∀ pre, pre <+: text → Fits32 (f.extent pre)) :
    f.measure text = clamp32 (f.extent text) := by
  rw [measure, foldl_of_fits (by simpa using h), Int.zero_add,
    clamp32_of_fits (h text List.prefix_rfl)]

theorem measure_of_nonneg (h : ∀ c ∈ text, 0 ≤ f.advance c) :
    f.measure text = clamp32 (f.extent text) := by
  rw [measure, foldl_of_nonneg (by decide) h, Int.zero_add]

/-! ## The pen -/

theorem fits32_advance (f : BitmapFont) (c : Char) : Fits32 (f.advance c) := by
  unfold advance
  cases f.glyph? c with
  | none => decide
  | some g => exact fits32_toInt g.advance

/-- The pen stays a 64-bit number for fewer than `2 ^ 32 - 1` characters. -/
theorem fits64_pen (f : BitmapFont) (x : Int32) {text : List Char} (h : text.length < 4294967295) :
    Fits64 (x.toInt + f.extent text) := by
  have hx := fits32_toInt x
  have hlower : text.length • min32 ≤ f.extent text := by
    have := List.card_nsmul_le_sum (text.map f.advance) min32
      (List.forall_mem_map.2 fun c _ => (f.fits32_advance c).1)
    rwa [List.length_map] at this
  have hupper : f.extent text ≤ text.length • max32 := by
    have := List.sum_le_card_nsmul (text.map f.advance) max32
      (List.forall_mem_map.2 fun c _ => (f.fits32_advance c).2)
    rwa [List.length_map] at this
  simp only [nsmul_eq_mul, Fits32, min32, max32] at hx hlower hupper
  unfold Fits64 min64 max64
  omega

end BitmapFont

namespace Canvas

/-- A text is drawn as its parts are, the second one from where the pen stopped. -/
theorem drawText_append (c : Canvas) (f : BitmapFont) (pen y scale : Int) (value : UInt8)
    (a b : List Char) :
    c.drawText f pen y scale value (a ++ b) =
      (c.drawText f pen y scale value a).1.drawText f (pen + f.extent a) y scale value b := by
  induction a generalizing c pen with
  | nil =>
    show _ = c.drawText f (pen + 0) y scale value b
    rw [Int.add_zero]
    rfl
  | cons ch rest ih =>
    rw [f.extent_cons, ← Int.add_assoc]
    exact ih _ _

end Canvas

namespace Drawing

variable {g : Drawing} {d : Display} {f : BitmapFont} (hf : g.state.activeFont? d.fonts = some f)

include hf

theorem canvas_perform_print (text : String) :
    (g.perform d (.print text)).canvas =
      (g.canvas.drawText f g.state.cursorX.toInt g.state.cursorY.toInt d.scale
        (d.textColor g.state) text.toList).1 := by
  show (g.text d g.state.cursorX g.state.cursorY text.toList).1.canvas = _
  simp only [Drawing.text, hf]

theorem state_perform_print (text : String) :
    (g.perform d (.print text)).state =
      { g.state with
        cursorX := nearestInt32 (g.state.cursorX.toInt + clamp32 (f.extent text.toList)) } := by
  rw [state_perform, DisplayState.after, DisplayState.textWidth?, hf]
  rfl

/-- **The width drawn is the width measured**, in every bitmap font, at every place and scale, for a
text whose advances never add up to a number beyond 32 bits, or none of whose advances is negative.
Printing moves the cursor by it. The pen that draws the text is a number of 64 bits, unless it has
passed `2 ^ 32 - 1` characters. -/
theorem width_eq_measure (x y : Int32) {text : String}
    (h : (∀ pre, pre <+: text.toList → Fits32 (f.extent pre)) ∨
      ∀ c ∈ text.toList, 0 ≤ f.advance c) :
    (g.text d x y text.toList).2 = some (f.measure text.toList) ∧
      (g.perform d (.print text)).state =
        { g.state with
          cursorX := nearestInt32 (g.state.cursorX.toInt + f.measure text.toList) } ∧
      ∀ pre, pre <+: text.toList → pre.length < 4294967295 → Fits64 (x.toInt + f.extent pre) := by
  have hmeasure : f.measure text.toList = clamp32 (f.extent text.toList) :=
    h.elim BitmapFont.measure_of_fits BitmapFont.measure_of_nonneg
  rw [hmeasure, state_perform_print hf, snd_text, DisplayState.textWidth?, hf]
  exact ⟨rfl, rfl, fun _ _ hlength => f.fits64_pen x hlength⟩

/-- **A text may be printed in parts.** Where a bitmap font is in force, printing one text and then
another one leaves the canvas and the state that printing both as one text leaves, as long as 32
bits hold the advances of each, of both together, and the cursor between them. The pen is a number
of 64 bits, unless it has passed `2 ^ 32 - 1` characters. -/
theorem print_append {a b : String} (ha : Fits32 (f.extent a.toList))
    (hb : Fits32 (f.extent b.toList)) (hab : Fits32 (f.extent (a ++ b).toList))
    (hcursor : Fits32 (g.state.cursorX.toInt + f.extent a.toList)) :
    ((g.perform d (.print a)).perform d (.print b)).canvas =
        (g.perform d (.print (a ++ b))).canvas ∧
      ((g.perform d (.print a)).perform d (.print b)).state =
        (g.perform d (.print (a ++ b))).state ∧
      ∀ pre, pre <+: (a ++ b).toList → pre.length < 4294967295 →
        Fits64 (g.state.cursorX.toInt + f.extent pre) := by
  have hcanvas := canvas_perform_print hf a
  have hstate := state_perform_print hf a
  rw [clamp32_of_fits ha] at hstate
  generalize g.perform d (.print a) = g' at hcanvas hstate ⊢
  have hf' : g'.state.activeFont? d.fonts = some f := by
    rw [hstate]
    exact hf
  -- the cursor stands where the pen stopped
  have hpen : g'.state.cursorX.toInt = g.state.cursorX.toInt + f.extent a.toList := by
    rw [hstate, toInt_nearestInt32, clamp32_of_fits hcursor]
  have hline : g'.state.cursorY = g.state.cursorY := by rw [hstate]
  have hcolor : d.textColor g'.state = d.textColor g.state := by
    rw [hstate]
    rfl
  refine ⟨?_, ?_, fun _ _ hlength => f.fits64_pen g.state.cursorX hlength⟩
  · rw [canvas_perform_print hf', canvas_perform_print hf, hpen, hline, hcolor, hcanvas,
      String.toList_append, Canvas.drawText_append]
  · rw [state_perform_print hf', state_perform_print hf, hpen, clamp32_of_fits hb,
      clamp32_of_fits hab, String.toList_append, f.extent_append, Int.add_assoc, hstate]

end Drawing

/-! ## At the ends of the range -/

/-- A letter that moves the pen as far as one can, one that takes it back, and no other. -/
def wideFont : BitmapFont where
  name := "wide"
  ascent := 0
  descent := 0
  lineHeight := 8
  glyphs := .ofList [(65, ⟨65, 1, 1, 0, 0, 2147483647, [[true]]⟩),
    (66, ⟨66, 2, 1, -1, 0, -2147483648, [[true, true]]⟩)]

/-- A display with that font, at scale two. -/
def wideDisplay : Display := ⟨.ofList [("wide", wideFont)], 2, 0, 255, true⟩

/-- An empty drawing, its cursor to the left of the canvas. -/
def wideDrawing : Drawing :=
  ⟨.blank 24 16 255, { DisplayState.start wideDisplay.fonts with cursorX := -3 }, 0⟩

theorem Drawing.width_eq_measure_wide :
    wideDrawing.state.activeFont? wideDisplay.fonts = some wideFont ∧
      (∀ pre, pre <+: "AB?".toList → Fits32 (wideFont.extent pre)) ∧
      (wideDrawing.text wideDisplay 1 6 "AB?".toList).2 = some 5 ∧
      (∀ c ∈ "AA?".toList, 0 ≤ wideFont.advance c) ∧
      (wideDrawing.text wideDisplay 1 6 "AA?".toList).2 = some 2147483647 := by
  have hf : wideDrawing.state.activeFont? wideDisplay.fonts = some wideFont := rfl
  have hinits : ∀ pre ∈ "AB?".toList.inits, Fits32 (wideFont.extent pre) := by decide
  have hfits : ∀ pre, pre <+: "AB?".toList → Fits32 (wideFont.extent pre) := fun pre hpre =>
    hinits pre ((List.mem_inits pre _).2 hpre)
  have hall : "AA?".toList.all (0 ≤ wideFont.advance ·) = true := by decide
  have hnonneg : ∀ c ∈ "AA?".toList, 0 ≤ wideFont.advance c := fun c hc =>
    of_decide_eq_true (List.all_eq_true.1 hall c hc)
  have hback : wideFont.measure "AB?".toList = 5 := by decide
  have hcut : wideFont.measure "AA?".toList = 2147483647 := by decide
  refine ⟨hf, hfits, ?_, hnonneg, ?_⟩
  · rw [(width_eq_measure hf 1 6 (.inl hfits)).1, hback]
  · rw [(width_eq_measure hf 1 6 (.inr hnonneg)).1, hcut]

/-- The cursor goes to the far end of the range and back, to where the whole text leaves it. -/
theorem Drawing.print_append_wide :
    wideDrawing.state.activeFont? wideDisplay.fonts = some wideFont ∧
      Fits32 (wideFont.extent "A".toList) ∧ Fits32 (wideFont.extent "B?".toList) ∧
      Fits32 (wideFont.extent ("A" ++ "B?").toList) ∧
      Fits32 (wideDrawing.state.cursorX.toInt + wideFont.extent "A".toList) ∧
      ((wideDrawing.perform wideDisplay (.print "A")).perform wideDisplay (.print "B?")).canvas =
        (wideDrawing.perform wideDisplay (.print ("A" ++ "B?"))).canvas ∧
      ((wideDrawing.perform wideDisplay (.print "A")).perform wideDisplay (.print "B?")).state =
        (wideDrawing.perform wideDisplay (.print ("A" ++ "B?"))).state := by
  have ha : Fits32 (wideFont.extent "A".toList) := by decide
  have hb : Fits32 (wideFont.extent "B?".toList) := by decide
  have hab : Fits32 (wideFont.extent ("A" ++ "B?").toList) := by decide
  have hcursor : Fits32 (wideDrawing.state.cursorX.toInt + wideFont.extent "A".toList) := by decide
  have hf : wideDrawing.state.activeFont? wideDisplay.fonts = some wideFont := rfl
  obtain ⟨hcanvas, hstate, -⟩ := print_append hf ha hb hab hcursor
  exact ⟨hf, ha, hb, hab, hcursor, hcanvas, hstate⟩

end SketchPreview
