import Mathlib.Data.List.Induction
import SketchPreview.Proofs.Render.Step

/-!
# What holds after every operation

* `Operation.fontName?`, `lastFontName?`, `FontMap.InForce`: which font has to be in force;
* `Display.IsShade`: the values that a pixel can show;
* `Drawing.Sound`: sides, pixels and font of a drawing after some operations of its request;
* `Drawing.sound_start`, `Drawing.Sound.perform`, `Drawing.sound_foldl_perform`: it holds at the
  start, every operation keeps it, so it holds after any number of them;
* **`RenderRequest.drawingAfter_sound`**: the same, told about canvas, bytes and keys.
-/

namespace SketchPreview

/-! ## Fonts -/

/-- The font that an operation selects. -/
def Operation.fontName? : Operation → Option String
  | .setFont name => some name
  | _ => none

/-- The font that the last selection among operations asks for. -/
def lastFontName? (ops : List Operation) : Option String :=
  (ops.filterMap Operation.fontName?).getLast?

/-- Which key is in force after operations. The name last selected counts, if it is a key, and else
the font that the user chose. Before any selection it is the font that the user chose, or else the
least key. -/
def FontMap.InForce (fonts : FontMap) (ops : List Operation) (font : Option String) : Prop :=
  match lastFontName? ops with
  | some name =>
    font = if name ∈ fonts.keys then some name
      else if explicitKey ∈ fonts.keys then some explicitKey else none
  | none =>
    if explicitKey ∈ fonts.keys then font = some explicitKey
    else
      match font with
      | some key => key ∈ fonts.keys ∧ ∀ key' ∈ fonts.keys, key ≤ key'
      | none => fonts.keys = []

theorem lastFontName?_concat (ops : List Operation) (op : Operation) :
    lastFontName? (ops ++ [op]) = op.fontName?.or (lastFontName? ops) := by
  rw [lastFontName?, List.filterMap_append, List.getLast?_append, lastFontName?]
  cases op <;> rfl

namespace FontMap

variable {fonts : FontMap} {ops : List Operation} {font : Option String}

theorem InForce.mem_keys (h : InForce fonts ops font) {key : String} (hkey : font = some key) :
    key ∈ fonts.keys := by
  subst hkey
  unfold InForce at h
  split at h
  · next name hname =>
    split at h
    · next hmem => exact Option.some.inj h ▸ hmem
    · split at h
      · next hexplicit => exact Option.some.inj h ▸ hexplicit
      · cases h
  · split at h
    · next hexplicit => exact Option.some.inj h ▸ hexplicit
    · exact h.1

theorem inForce_start (fonts : FontMap) :
    InForce fonts [] (DisplayState.startFont? fonts) := by
  unfold InForce DisplayState.startFont?
  show if explicitKey ∈ fonts.keys then _ else _
  split
  · next h => rw [if_pos (SortedMap.contains_iff_mem_keys.2 h)]
  · next h =>
    rw [if_neg (fun hc => h (SortedMap.contains_iff_mem_keys.1 hc))]
    cases hfirst : fonts.firstKey? with
    | none => exact SortedMap.firstKey?_eq_none_iff.1 hfirst
    | some key =>
      refine ⟨SortedMap.mem_keys_of_firstKey? hfirst, fun key' hkey' => ?_⟩
      rcases SortedMap.eq_or_before_of_firstKey? hfirst hkey' with rfl | hbefore
      · exact Std.le_refl _
      · exact Std.le_of_lt (of_decide_eq_true hbefore)

theorem inForce_setFont (fonts : FontMap) (ops : List Operation) (name : String) :
    InForce fonts (ops ++ [.setFont name]) (DisplayState.fontFor? fonts name) := by
  unfold InForce
  rw [lastFontName?_concat]
  show DisplayState.fontFor? fonts name = _
  simp only [DisplayState.fontFor?, SortedMap.contains_iff_mem_keys]

theorem InForce.concat (h : InForce fonts ops font) {op : Operation} (hop : op.fontName? = none) :
    InForce fonts (ops ++ [op]) font := by
  unfold InForce
  rw [lastFontName?_concat, hop]
  exact h

end FontMap

/-- An operation keeps the right font in force. -/
theorem DisplayState.inForce_after {d : Display} {s : DisplayState} {ops : List Operation}
    (h : FontMap.InForce d.fonts ops s.font) (op : Operation) :
    FontMap.InForce d.fonts (ops ++ [op]) (s.after d op).font := by
  cases op with
  | setFont name => exact FontMap.inForce_setFont d.fonts ops name
  | _ => exact h.concat rfl

/-! ## Values -/

/-- The values that a pixel can show: ink, paper, and the grid where there is one. -/
def Display.IsShade (d : Display) (grid : Bool) (value : UInt8) : Prop :=
  value = d.ink ∨ value = d.paper ∨ (grid ∧ 2 ≤ d.scale) ∧ value = d.gridColor

theorem Display.color_eq_or (d : Display) (s : DisplayState) :
    d.color s = d.ink ∨ d.color s = d.paper := by
  unfold Display.color
  split
  · exact .inl rfl
  · exact .inr rfl

theorem Display.textColor_eq_or (d : Display) (s : DisplayState) :
    d.textColor s = d.ink ∨ d.textColor s = d.paper := by
  unfold Display.textColor
  split
  · exact d.color_eq_or s
  · exact .inl rfl

theorem Operation.isShade_color (d : Display) (s : DisplayState) (grid : Bool) (op : Operation) :
    d.IsShade grid (op.color d s) := by
  refine or_assoc.1 (.inl ?_)
  cases op with
  | drawStr | print | println => exact d.textColor_eq_or s
  | _ => exact d.color_eq_or s

/-! ## Drawings -/

namespace Drawing

/-- Whether a drawing has the sides, the values and the font that it should have after operations.
-/
structure Sound (d : Display) (size : Dimensions) (grid : Bool) (ops : List Operation)
    (g : Drawing) : Prop where
  width : g.canvas.width = min (size.width.toNat * d.scale) maxSide
  height : g.canvas.height = min (size.height.toNat * d.scale) maxSide
  shade {x y : Int} {value : UInt8} : g.canvas.get? x y = some value → d.IsShade grid value
  font : FontMap.InForce d.fonts ops g.state.font

variable {d : Display} {size : Dimensions} {grid : Bool}

theorem sound_start (d : Display) (size : Dimensions) (grid : Bool) :
    Sound d size grid [] (start d size grid) where
  width := (d.painted_canvas size grid).width
  height := (d.painted_canvas size grid).height
  shade {x y value} hvalue := by
    rcases (d.painted_canvas size grid).get?_eq_or x y with hpaper | ⟨hmem, hgrid⟩
    · have hblank := hvalue.symm.trans (hpaper.trans (Canvas.get?_blank ..))
      split at hblank
      · exact .inr (.inl (Option.some.inj hblank))
      · cases hblank
    · exact .inr (.inr ⟨hmem.1, Option.some.inj (hvalue.symm.trans hgrid)⟩)
  font := FontMap.inForce_start d.fonts

/-- **One step.** An operation keeps a drawing sound. -/
theorem Sound.perform {ops : List Operation} {g : Drawing} (h : g.Sound d size grid ops)
    (op : Operation) : (g.perform d op).Sound d size grid (ops ++ [op]) where
  width := (g.painted_perform d op).width.trans h.width
  height := (g.painted_perform d op).height.trans h.height
  shade {x y value} hvalue := by
    rcases (g.painted_perform d op).get?_eq_or x y with hbefore | ⟨-, hcolor⟩
    · exact h.shade (hbefore.symm.trans hvalue)
    · obtain rfl := Option.some.inj (hvalue.symm.trans hcolor)
      exact op.isShade_color d g.state grid
  font := by
    rw [state_perform]
    exact DisplayState.inForce_after h.font op

/-- **Every run.** Any operations, performed from the start, lead to a sound drawing; by induction
on the operations from the last one on. -/
theorem sound_foldl_perform (d : Display) (size : Dimensions) (grid : Bool) (ops : List Operation) :
    Sound d size grid ops (ops.foldl (perform d) (start d size grid)) := by
  induction ops using List.reverseRecOn with
  | nil => exact sound_start d size grid
  | append_singleton ops op ih =>
    rw [List.foldl_append]
    exact ih.perform op

end Drawing

/-- The drawing of a request after its first `n` operations. -/
def RenderRequest.drawingAfter (r : RenderRequest) (n : Nat) : Drawing :=
  (r.operations.take n).foldl (Drawing.perform (.ofRequest r)) r.blankDrawing

/-- **What holds after every operation.** The canvas has the sides of the request, enlarged and cut,
and a byte for each pixel; each of them is ink, paper, or grid where there is one; and the font in
force is a key, the one that the operations so far select. -/
theorem RenderRequest.drawingAfter_sound (r : RenderRequest) (n : Nat) :
    ((r.drawingAfter n).canvas.width = min (r.size.width.toNat * max r.scale.toNat 1) maxSide ∧
      (r.drawingAfter n).canvas.height = min (r.size.height.toNat * max r.scale.toNat 1) maxSide ∧
      (r.drawingAfter n).canvas.pixels.size =
        (r.drawingAfter n).canvas.width * (r.drawingAfter n).canvas.height) ∧
    (∀ value ∈ (r.drawingAfter n).canvas.pixels.data,
      value = (Display.ofRequest r).ink ∨ value = (Display.ofRequest r).paper ∨
        (r.grid ∧ 2 ≤ max r.scale.toNat 1) ∧ value = (Display.ofRequest r).gridColor) ∧
    (∀ key, (r.drawingAfter n).state.font = some key → key ∈ r.fontMap.keys) ∧
    FontMap.InForce r.fontMap (r.operations.take n) (r.drawingAfter n).state.font := by
  have h : (r.drawingAfter n).Sound (.ofRequest r) r.size r.grid (r.operations.take n) :=
    Drawing.sound_foldl_perform ..
  refine ⟨⟨h.width, h.height, Canvas.size_eq _⟩, fun value hvalue => ?_, fun key hkey => ?_, h.font⟩
  · obtain ⟨x, y, hxy⟩ := Canvas.exists_get?_of_mem_pixels hvalue
    exact h.shade hxy
  · exact h.font.mem_keys hkey

end SketchPreview
