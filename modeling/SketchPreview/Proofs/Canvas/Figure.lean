import Mathlib.Data.Set.Basic
import SketchPreview.Canvas.Line
import SketchPreview.Proofs.Canvas.Circle
import SketchPreview.Proofs.Canvas.Rect

/-!
# Figures

Whatever is drawn on a canvas gives the pixels of a figure one value and leaves the others alone. A
figure is a set of places, on a canvas or not. The figure of a line depends on the sides of the
canvas, for a line that leaves it is cut first; all others are the same for every canvas.

* `Figure`, `Canvas.Painted`: a canvas before and after the places of a figure are given a value;
* `Painted.trans`, `Painted.foldl`: one figure after the other;
* `Painted.get?_eq_or`: what a pixel can show afterwards;
* `Figure.rect`, `Figure.frame`, `Figure.circle`, `Figure.disc`, `Figure.line`: what the drawing
  functions paint, with `painted_fillRect` and the like.
-/

namespace SketchPreview

/-- A set of places, on a canvas or not. -/
abbrev Figure := Set (Int × Int)

namespace Canvas

/-- Whether a canvas is another one after the places of a figure have been given a value. -/
structure Painted (figure : Figure) (value : UInt8) (before after : Canvas) : Prop where
  width : after.width = before.width
  height : after.height = before.height
  of_mem {x y : Int} : before.Holds x y → (x, y) ∈ figure → after.get? x y = some value
  of_not_mem {x y : Int} : (x, y) ∉ figure → after.get? x y = before.get? x y

theorem get?_of_not_holds {c : Canvas} {x y : Int} (h : ¬c.Holds x y) : c.get? x y = none :=
  dif_neg h

namespace Painted

variable {a b c : Canvas} {s t : Figure} {value : UInt8}

theorem holds_iff (h : Painted s value a b) (x y : Int) : b.Holds x y ↔ a.Holds x y :=
  holds_iff_of_sides h.width h.height x y

protected theorem refl (c : Canvas) (value : UInt8) : Painted ∅ value c c where
  width := rfl
  height := rfl
  of_mem _ hmem := hmem.elim
  of_not_mem _ := rfl

protected theorem trans (h : Painted s value a b) (h' : Painted t value b c) :
    Painted (s ∪ t) value a c where
  width := h'.width.trans h.width
  height := h'.height.trans h.height
  of_mem {x y} hxy hmem := by
    by_cases ht : (x, y) ∈ t
    · exact h'.of_mem ((h.holds_iff x y).2 hxy) ht
    · rw [h'.of_not_mem ht]
      exact h.of_mem hxy (hmem.resolve_right ht)
  of_not_mem hmem := by
    rw [h'.of_not_mem fun ht => hmem (.inr ht), h.of_not_mem fun hs => hmem (.inl hs)]

theorem congr (h : Painted s value a b)
    (hst : ∀ x y, a.Holds x y → ((x, y) ∈ s ↔ (x, y) ∈ t)) : Painted t value a b where
  width := h.width
  height := h.height
  of_mem {x y} hxy hmem := h.of_mem hxy ((hst x y hxy).2 hmem)
  of_not_mem {x y} hmem := by
    by_cases hxy : a.Holds x y
    · exact h.of_not_mem fun hs => hmem ((hst x y hxy).1 hs)
    · rw [get?_of_not_holds hxy, get?_of_not_holds fun e => hxy ((h.holds_iff x y).1 e)]

theorem foldl {α : Type} {f : Canvas → α → Canvas} {figure : α → Figure}
    (h : ∀ c i, Painted (figure i) value c (f c i)) (l : List α) (c : Canvas) :
    Painted {p | ∃ i ∈ l, p ∈ figure i} value c (l.foldl f c) := by
  induction l generalizing c with
  | nil => exact (Painted.refl c value).congr fun x y _ => by simp
  | cons i l ih =>
    refine ((h c i).trans (ih (f c i))).congr fun x y _ => ?_
    simp only [Set.mem_union, Set.mem_ofPred_eq, List.mem_cons, exists_eq_or_imp]

theorem get?_eq_or (h : Painted s value a b) (x y : Int) :
    b.get? x y = a.get? x y ∨ (x, y) ∈ s ∧ b.get? x y = some value := by
  by_cases hmem : (x, y) ∈ s
  · by_cases hxy : a.Holds x y
    · exact .inr ⟨hmem, h.of_mem hxy hmem⟩
    · rw [get?_of_not_holds hxy, get?_of_not_holds fun e => hxy ((h.holds_iff x y).1 e)]
      exact .inl rfl
  · exact .inl (h.of_not_mem hmem)

end Painted

/-! ## Points and regions -/

theorem painted_set (c : Canvas) (x y : Int) (value : UInt8) :
    Painted {(x, y)} value c (c.set x y value) where
  width := width_set ..
  height := height_set ..
  of_mem {x' y'} hxy hmem := by
    obtain ⟨rfl, rfl⟩ := Prod.mk.injEq .. ▸ Set.mem_singleton_iff.1 hmem
    exact (get?_set ..).trans (if_pos ⟨rfl, rfl, hxy⟩)
  of_not_mem hmem :=
    (get?_set ..).trans (if_neg fun e => hmem (Set.mem_singleton_iff.2 (Prod.ext e.1 e.2.1)))

theorem painted_paint (c : Canvas) (points : List (Int × Int)) (value : UInt8) :
    Painted {p | p ∈ points} value c (c.paint points value) where
  width := width_paint ..
  height := height_paint ..
  of_mem hxy hmem := (get?_paint ..).trans (if_pos ⟨hmem, hxy⟩)
  of_not_mem hmem := (get?_paint ..).trans (if_neg fun e => hmem e.1)

end Canvas

/-- The places between two columns and two rows that satisfy a condition. -/
def Figure.region (left right top bottom : Nat) (p : Nat → Nat → Bool) : Figure :=
  {q | left ≤ q.1 ∧ q.1 < right ∧ top ≤ q.2 ∧ q.2 < bottom ∧ p q.1.toNat q.2.toNat}

theorem Canvas.painted_paintRegion (c : Canvas) (left right top bottom : Nat)
    (p : Nat → Nat → Bool) (value : UInt8) :
    Painted (.region left right top bottom p) value c
      (c.paintRegion left right top bottom p value) where
  width := rfl
  height := rfl
  of_mem hxy hmem := (get?_paintRegion ..).trans (if_pos ⟨hxy, hmem⟩)
  of_not_mem hmem := (get?_paintRegion ..).trans (if_neg fun e => hmem e.2)

/-! ## Rectangles -/

/-- What a solid rectangle covers. -/
def Figure.rect (x y w h : Int) : Figure :=
  {p | (Span.ofExtent x w).Contains p.1 ∧ (Span.ofExtent y h).Contains p.2}

theorem Canvas.painted_fillRect (c : Canvas) (x y w h : Int) (value : UInt8) :
    Painted (.rect x y w h) value c (c.fillRect x y w h value) where
  width := rfl
  height := rfl
  of_mem hxy hmem := (get?_fillRect_of_contains ..).trans (if_pos ⟨hxy, hmem⟩)
  of_not_mem hmem := (get?_fillRect_of_contains ..).trans (if_neg fun e => hmem e.2)

/-- What the outline of a rectangle covers: its upper, lower, left and right edge. -/
def Figure.frame (x y w h : Int) : Figure :=
  let across := Span.ofExtent x w
  let down := Span.ofExtent y h
  let width := add64 across.extent 1
  let height := add64 down.extent 1
  rect across.start down.start width 1 ∪ rect across.start down.stop width 1 ∪
    rect across.start down.start 1 height ∪ rect across.stop down.start 1 height

theorem Canvas.painted_strokeRect (c : Canvas) (x y w h : Int) (value : UInt8) :
    Painted (.frame x y w h) value c (c.strokeRect x y w h value) :=
  (((painted_fillRect ..).trans (painted_fillRect ..)).trans (painted_fillRect ..)).trans
    (painted_fillRect ..)

/-! ## Circles -/

/-- What the outline of a circle covers: the pixels that the midpoint walk plots, or the centre for
a radius that is not positive. -/
def Figure.circle (cx cy r : Int) : Figure :=
  if r ≤ 0 then {(cx, cy)} else {p | p ∈ circleWalk cx cy r}

theorem Canvas.painted_circle (c : Canvas) (cx cy : Int) {r : Int} (hr : r ≤ max64)
    (value : UInt8) : Painted (.circle cx cy r) value c (c.circle cx cy r value) := by
  unfold Figure.circle Canvas.circle
  split
  · exact c.painted_set cx cy value
  · refine (c.painted_paint _ value).congr fun x y hxy => ?_
    exact mem_circlePoints_iff_mem_circleWalk (by omega) hr hxy

/-- What a filled circle covers. -/
def Figure.disc (cx cy r : Int) : Figure :=
  let r := abs64 r
  let radius := Float.ofInt r
  let limit := radius * radius
  let fx := Float.ofInt cx
  let fy := Float.ofInt cy
  let left := sub64 (sub64 cx r) 1
  let top := sub64 (sub64 cy r) 1
  region left.toNat (add64 cx r + 1).toNat top.toNat (add64 cy r + 1).toNat
    fun x y => Canvas.withinDisc fx fy limit x y

theorem Canvas.painted_disc (c : Canvas) (cx cy r : Int) (value : UInt8) :
    Painted (.disc cx cy r) value c (c.disc cx cy r value) :=
  c.painted_paintRegion ..

/-! ## Lines -/

/-- What a line covers on a canvas: the pixels of the segment that is left after the cut. -/
def Figure.line (c : Canvas) (s : Segment) : Figure :=
  {p | ∃ t, c.clipSegment? s = some t ∧ p ∈ t.points}

namespace Canvas

theorem painted_line (c : Canvas) (x0 y0 x1 y1 : Int) (value : UInt8) :
    Painted (.line c ⟨x0, y0, x1, y1⟩) value c (c.line x0 y0 x1 y1 value) := by
  unfold Canvas.line
  split
  · next s hs =>
    refine (c.painted_paint s.points value).congr fun x y _ => ?_
    simp [Figure.line, hs]
  · next hs =>
    refine (Painted.refl c value).congr fun x y _ => ?_
    simp [Figure.line, hs]

theorem clipSegment?_congr {c d : Canvas} (hw : c.width = d.width) (hh : c.height = d.height)
    (s : Segment) : c.clipSegment? s = d.clipSegment? s := by
  obtain ⟨w, h, pixels, _, _, _⟩ := c
  obtain ⟨w', h', pixels', _, _, _⟩ := d
  subst hw hh
  rfl

end Canvas

theorem Figure.line_congr {c d : Canvas} (hw : c.width = d.width) (hh : c.height = d.height)
    (s : Segment) : Figure.line c s = Figure.line d s := by
  unfold Figure.line
  rw [Canvas.clipSegment?_congr hw hh]

end SketchPreview
