import SketchPreview.Render.Rasterizer

/-!
# What operations do to the state

* `DisplayState.isSome_activeFont?_start`, `DisplayState.isSome_activeFont?_selectFont`: the font in
  force where the user chose one;
* `Drawing.state_text`, `Drawing.state_print`, `Drawing.state_println`: text and the cursor;
* `Drawing.isSome_activeFont?_apply`: a chosen font keeps the built-in one out.
-/

namespace SketchPreview

/-! ## Fonts in force -/

namespace DisplayState

theorem isSome_activeFont?_start {fonts : FontMap} (h : fonts.contains explicitKey) :
    ((start fonts).activeFont? fonts).isSome := by
  have hfont : (start fonts).font = some explicitKey := if_pos h
  rw [activeFont?, hfont]
  exact h

theorem isSome_activeFont?_selectFont {fonts : FontMap} (h : fonts.contains explicitKey)
    (s : DisplayState) (name : String) : ((s.selectFont fonts name).activeFont? fonts).isSome := by
  have hfont : (s.selectFont fonts name).font = fontFor? fonts name := rfl
  rw [activeFont?, hfont]
  by_cases hname : fonts.contains name
  · rw [fontFor?, if_pos hname]
    exact hname
  · rw [fontFor?, if_neg hname, if_pos h]
    exact h

end DisplayState

namespace Drawing

theorem state_text (g : Drawing) (d : Display) (x y : Int32) (text : List Char) :
    (g.text d x y text).1.state = g.state := by
  unfold Drawing.text
  split <;> rfl

theorem state_print (g : Drawing) (d : Display) (text : List Char) :
    (g.print d text).state =
      { g.state with
        cursorX := nearestInt32 (g.state.cursorX.toInt +
          (g.text d g.state.cursorX g.state.cursorY text).2.getD (assumedAdvance text)) } := by
  have h := g.state_text d g.state.cursorX g.state.cursorY text
  show ({ (g.text d g.state.cursorX g.state.cursorY text).1.state with
    cursorX := nearestInt32
      ((g.text d g.state.cursorX g.state.cursorY text).1.state.cursorX.toInt +
        (g.text d g.state.cursorX g.state.cursorY text).2.getD (assumedAdvance text)) } :
    DisplayState) = _
  rw [h]

theorem state_println (g : Drawing) (d : Display) (text : List Char) :
    (g.println d text).state =
      { g.state with
        cursorX := 0
        cursorY := nearestInt32 (g.state.cursorY.toInt + g.lineHeight d) } := by
  have h := g.state_text d g.state.cursorX g.state.cursorY text
  show ({ (g.text d g.state.cursorX g.state.cursorY text).1.state with
    cursorX := 0
    cursorY := nearestInt32
      ((g.text d g.state.cursorX g.state.cursorY text).1.state.cursorY.toInt +
        (g.text d g.state.cursorX g.state.cursorY text).1.lineHeight d) } : DisplayState) = _
  unfold lineHeight
  rw [h]

/-- Where the user chose a font, a bitmap font stays in force. -/
theorem isSome_activeFont?_apply {d : Display} (h : d.fonts.contains explicitKey) {g : Drawing}
    (hg : (g.state.activeFont? d.fonts).isSome) (op : Operation) :
    ((g.apply d op).state.activeFont? d.fonts).isSome := by
  cases op with
  | setFont name => exact DisplayState.isSome_activeFont?_selectFont h g.state name
  | drawStr x y text =>
    rw [Drawing.apply, state_text]
    exact hg
  | print text =>
    rw [Drawing.apply, state_print]
    exact hg
  | println text =>
    rw [Drawing.apply, state_println]
    exact hg
  | _ => exact hg

end Drawing

end SketchPreview
