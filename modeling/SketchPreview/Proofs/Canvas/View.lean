import SketchPreview.Canvas.Rect

/-!
# A canvas is its view

* `holds_iff_of_sides`: which pixels lie on a canvas depends on its sides alone;
* `width_set`, `width_paint`, `width_fillRect` and the like: painting keeps the sides;
* `exists_get?_of_lt`: there is a pixel at each place between the sides;
* **`ext_get?`**: canvases of equal sides that show the same are equal.
-/

namespace SketchPreview.Canvas

/-! ## Sides -/

theorem width_set (c : Canvas) (x y : Int) (value : UInt8) : (c.set x y value).width = c.width := by
  unfold set
  split <;> rfl

theorem height_set (c : Canvas) (x y : Int) (value : UInt8) :
    (c.set x y value).height = c.height := by
  unfold set
  split <;> rfl

theorem width_paint (c : Canvas) (points : List (Int × Int)) (value : UInt8) :
    (c.paint points value).width = c.width := by
  induction points generalizing c with
  | nil => rfl
  | cons p rest ih => exact (ih (c.set p.1 p.2 value)).trans (width_set ..)

theorem height_paint (c : Canvas) (points : List (Int × Int)) (value : UInt8) :
    (c.paint points value).height = c.height := by
  induction points generalizing c with
  | nil => rfl
  | cons p rest ih => exact (ih (c.set p.1 p.2 value)).trans (height_set ..)

theorem width_fillRect (c : Canvas) (x y w h : Int) (value : UInt8) :
    (c.fillRect x y w h value).width = c.width := rfl

theorem height_fillRect (c : Canvas) (x y w h : Int) (value : UInt8) :
    (c.fillRect x y w h value).height = c.height := rfl

theorem holds_iff_of_sides {c d : Canvas} (hw : c.width = d.width) (hh : c.height = d.height)
    (x y : Int) : c.Holds x y ↔ d.Holds x y := by
  unfold Holds
  rw [hw, hh]

theorem exists_get?_of_lt {c : Canvas} {x y : Nat} (hx : x < c.width) (hy : y < c.height) :
    ∃ value, c.get? x y = some value := by
  have hholds : c.Holds x y :=
    ⟨Int.natCast_nonneg _, Int.ofNat_lt.2 hx, Int.natCast_nonneg _, Int.ofNat_lt.2 hy⟩
  exact ⟨_, dif_pos hholds⟩

/-! ## Extensionality -/

theorem get?_mod_div (c : Canvas) {i : Nat} (h : i < c.pixels.size) :
    c.get? (i % c.width : Nat) (i / c.width : Nat) = c.pixels.data[i]? := by
  have hi : i < c.width * c.height := c.size_eq ▸ h
  have hw : 0 < c.width := Nat.pos_of_mul_pos_right (Nat.zero_lt_of_lt hi)
  have hx : i % c.width < c.width := Nat.mod_lt _ hw
  have hy : i / c.width < c.height := Nat.div_lt_of_lt_mul hi
  have hholds : c.Holds (i % c.width : Nat) (i / c.width : Nat) :=
    ⟨Int.natCast_nonneg _, Int.ofNat_lt.2 hx, Int.natCast_nonneg _, Int.ofNat_lt.2 hy⟩
  rw [get?_eq, if_pos hholds, index, Int.toNat_natCast, Int.toNat_natCast, Nat.div_add_mod']

theorem exists_get?_of_mem_pixels {c : Canvas} {value : UInt8} (h : value ∈ c.pixels.data) :
    ∃ x y, c.get? x y = some value := by
  obtain ⟨i, hi, hvalue⟩ := Array.mem_iff_getElem.1 h
  refine ⟨_, _, (c.get?_mod_div hi).trans ?_⟩
  rw [Array.getElem?_eq_getElem hi, hvalue]

/-- **Canvases of equal sides that show the same are equal.** -/
theorem ext_get? {c d : Canvas} (hw : c.width = d.width) (hh : c.height = d.height)
    (h : ∀ x y, c.get? x y = d.get? x y) : c = d := by
  have hsize : c.pixels.size = d.pixels.size := by rw [c.size_eq, d.size_eq, hw, hh]
  have hpixels : c.pixels = d.pixels := by
    refine ByteArray.ext (Array.ext_getElem? fun i => ?_)
    by_cases hi : i < c.pixels.size
    · have hd := d.get?_mod_div (hsize ▸ hi)
      rw [← c.get?_mod_div hi, ← hd, hw]
      exact h _ _
    · have hj : ¬i < d.pixels.size := hsize ▸ hi
      rw [Array.getElem?_eq_none (Nat.not_lt.1 hi), Array.getElem?_eq_none (Nat.not_lt.1 hj)]
  obtain ⟨w, h, pixels, hs, hw', hh'⟩ := c
  obtain ⟨w', h', pixels', hs', hw'', hh''⟩ := d
  subst hw hh hpixels
  rfl

end SketchPreview.Canvas
