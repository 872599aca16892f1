import SketchPreview.Canvas.Zoom
import SketchPreview.Proofs.Canvas.Rect
import SketchPreview.Proofs.Canvas.View

/-!
# Magnified canvases

A canvas magnifies another one when it shows a square of equal pixels for each pixel of the other.

* `Canvas.Magnifies`: a canvas that magnifies another one by a whole factor;
* `Span.Magnifies`: the same for what two spans cover on canvases;
* **`Canvas.Magnifies.fillRect`**: rectangles between magnified ends keep a canvas magnified;
* **`Canvas.magnifies_zoomed`**, **`Canvas.Magnifies.eq_zoomed`**: enlarging a canvas gives the one
  canvas that magnifies it.
-/

namespace SketchPreview

/-! ## Spans -/

/-- Whether a span covers the squares of side `s` over what another one covers, as far as a canvas
with pixels that large can tell. -/
def Span.Magnifies (big : Span) (s : Nat) (small : Span) : Prop :=
  s ≤ maxSide → ∀ x : Int, 0 ≤ x → x < maxSide → (big.Contains x ↔ small.Contains (x / s))

theorem Span.magnifies_of_ends {big small : Span} {s : Nat} (hs : 0 < s) {left right : Int}
    (hbig : s ≤ maxSide → ∀ x : Int, 0 ≤ x → x < maxSide →
      (big.Contains x ↔ left * s ≤ x ∧ x < right * s))
    (hsmall : ∀ x : Int, 0 ≤ x → x < maxSide → (small.Contains x ↔ left ≤ x ∧ x < right)) :
    big.Magnifies s small := by
  intro hmax x h0 hx
  have hpos : (0 : Int) < s := Int.natCast_pos.2 hs
  have h0' : 0 ≤ x / s := Int.ediv_nonneg h0 (Int.le_of_lt hpos)
  have hx' : x / s < maxSide := Int.lt_of_le_of_lt (Int.ediv_le_self _ h0) hx
  rw [hbig hmax x h0 hx, hsmall _ h0' hx', Int.le_ediv_iff_mul_le hpos,
    Int.ediv_lt_iff_lt_mul hpos]

namespace Canvas

variable {big small : Canvas} {s : Nat}

/-- Whether a canvas shows a square of side `s` for each pixel of another one. -/
structure Magnifies (big : Canvas) (s : Nat) (small : Canvas) : Prop where
  width : big.width = small.width * s
  height : big.height = small.height * s
  view : ∀ x y : Int, big.get? x y = small.get? (x / s) (y / s)

/-! ## Sides -/

theorem ediv_side_iff (hs : 0 < s) (side : Nat) (x : Int) :
    0 ≤ x / s ∧ x / s < side ↔ 0 ≤ x ∧ x < (side * s : Nat) := by
  have hpos : (0 : Int) < s := Int.natCast_pos.2 hs
  rw [Int.le_ediv_iff_mul_le hpos, Int.ediv_lt_iff_lt_mul hpos, Int.zero_mul, Int.natCast_mul]

/-- A canvas with enlarged sides holds the squares of the pixels that the other one holds. -/
theorem holds_iff_of_enlarged (hs : 0 < s) (hw : big.width = small.width * s)
    (hh : big.height = small.height * s) (x y : Int) :
    big.Holds x y ↔ small.Holds (x / s) (y / s) := by
  have hx := ediv_side_iff hs small.width x
  have hy := ediv_side_iff hs small.height y
  rw [← hw] at hx
  rw [← hh] at hy
  unfold Holds
  rw [← and_assoc, ← hx, hy.symm, and_assoc]

theorem Magnifies.holds_iff (h : big.Magnifies s small) (hs : 0 < s) (x y : Int) :
    big.Holds x y ↔ small.Holds (x / s) (y / s) :=
  holds_iff_of_enlarged hs h.width h.height x y

theorem Magnifies.le_maxSide (h : big.Magnifies s small) {x y : Int} (hxy : big.Holds x y) :
    s ≤ maxSide := by
  have hpos : 0 < small.width * s := by
    rw [← h.width]
    have := hxy.1
    have := hxy.2.1
    omega
  calc s ≤ small.width * s := Nat.le_mul_of_pos_left s (Nat.pos_of_mul_pos_right hpos)
    _ = big.width := h.width.symm
    _ ≤ maxSide := big.width_le

/-! ## Painting -/

theorem magnifies_blank (hs : 0 < s) {width height : Nat} (hw : width * s ≤ maxSide)
    (hh : height * s ≤ maxSide) (value : UInt8) :
    (blank (width * s) (height * s) value).Magnifies s (blank width height value) := by
  have hw' : width ≤ maxSide := Nat.le_trans (Nat.le_mul_of_pos_right _ hs) hw
  have hh' : height ≤ maxSide := Nat.le_trans (Nat.le_mul_of_pos_right _ hs) hh
  have hwidth : (blank (width * s) (height * s) value).width =
      (blank width height value).width * s := by
    simp only [blank, Nat.min_eq_left hw, Nat.min_eq_left hw']
  have hheight : (blank (width * s) (height * s) value).height =
      (blank width height value).height * s := by
    simp only [blank, Nat.min_eq_left hh, Nat.min_eq_left hh']
  refine ⟨hwidth, hheight, fun x y => ?_⟩
  rw [get?_blank, get?_blank]
  exact if_congr (holds_iff_of_enlarged hs hwidth hheight x y) rfl rfl

/-- **A rectangle and the rectangle between magnified ends keep a canvas magnified.** -/
theorem Magnifies.fillRect (h : big.Magnifies s small) (hs : 0 < s) {x y w k x' y' w' k' : Int}
    (across : (Span.ofExtent x w).Magnifies s (Span.ofExtent x' w'))
    (down : (Span.ofExtent y k).Magnifies s (Span.ofExtent y' k')) (value : UInt8) :
    (big.fillRect x y w k value).Magnifies s (small.fillRect x' y' w' k' value) := by
  refine ⟨?_, ?_, fun i j => ?_⟩
  · rw [width_fillRect, width_fillRect, h.width]
  · rw [height_fillRect, height_fillRect, h.height]
  · rw [get?_fillRect_of_contains, get?_fillRect_of_contains, h.view]
    refine if_congr ?_ rfl rfl
    rw [← h.holds_iff hs]
    refine and_congr_right fun hij => ?_
    have hmax := h.le_maxSide hij
    have hwidth := big.width_le
    have hheight := big.height_le
    obtain ⟨hi0, hi, hj0, hj⟩ := hij
    exact and_congr (across hmax i hi0 (by omega)) (down hmax j hj0 (by omega))

/-! ## Enlarging -/

theorem zoomFactor_pos (c : Canvas) (factor : Nat) : 0 < c.zoomFactor factor :=
  Nat.le_max_left _ _

theorem index_div_width {c : Canvas} {x y : Int} (h : c.Holds x y) :
    c.index x y / c.width = y.toNat := by
  have hx : x.toNat < c.width := by
    have := h.1
    have := h.2.1
    omega
  rw [index, Nat.mul_comm, Nat.mul_add_div (Nat.zero_lt_of_lt hx), Nat.div_eq_of_lt hx,
    Nat.add_zero]

theorem index_mod_width {c : Canvas} {x y : Int} (h : c.Holds x y) :
    c.index x y % c.width = x.toNat := by
  have hx : x.toNat < c.width := by
    have := h.1
    have := h.2.1
    omega
  rw [index, Nat.mul_comm, Nat.mul_add_mod, Nat.mod_eq_of_lt hx]

theorem some_get! (b : ByteArray) {i : Nat} (h : i < b.size) : some (b.get! i) = b.data[i]? := by
  obtain ⟨data⟩ := b
  show some data[i]! = data[i]?
  rw [getElem!_pos data i h, getElem?_pos data i h]

/-- **An enlarged canvas magnifies the canvas.** -/
theorem magnifies_zoomed (c : Canvas) (factor : Nat) :
    (c.zoomed factor).Magnifies (c.zoomFactor factor) c := by
  refine ⟨rfl, rfl, fun x y => ?_⟩
  have hiff : (c.zoomed factor).Holds x y ↔
      c.Holds (x / c.zoomFactor factor) (y / c.zoomFactor factor) :=
    holds_iff_of_enlarged (c.zoomFactor_pos factor) rfl rfl x y
  by_cases h : (c.zoomed factor).Holds x y
  · have h' := hiff.1 h
    obtain ⟨i, rfl⟩ := Int.eq_ofNat_of_zero_le h.1
    obtain ⟨j, rfl⟩ := Int.eq_ofNat_of_zero_le h.2.2.1
    have hi : (c.zoomed factor).index i j < (c.zoomed factor).width * (c.zoomed factor).height :=
      (c.zoomed factor).size_eq ▸ index_lt h
    have hbyte : (c.zoomed factor).pixels.data[(c.zoomed factor).index i j]? =
        some (c.pixels.get! (c.index (i / c.zoomFactor factor) (j / c.zoomFactor factor))) := by
      refine (Bytes.data_generate _ _ _).trans ((if_pos hi).trans ?_)
      show some (c.pixels.get!
        ((c.zoomed factor).index i j / (c.zoomed factor).width / c.zoomFactor factor * c.width +
          (c.zoomed factor).index i j % (c.zoomed factor).width / c.zoomFactor factor)) = _
      rw [index_div_width h, index_mod_width h]
      rfl
    rw [get?_eq, get?_eq, if_pos h, if_pos h', hbyte]
    exact some_get! _ (index_lt h')
  · rw [get?_eq, get?_eq, if_neg h, if_neg (fun e => h (hiff.2 e))]

theorem zoomFactor_eq {c : Canvas} {factor : Nat} (hf : 0 < factor)
    (h : c.longest * factor ≤ maxSide) : c.zoomFactor factor = factor := by
  have hlongest : 0 < c.longest := Nat.le_max_right _ _
  have hle : factor ≤ maxSide / c.longest := by
    rw [Nat.le_div_iff_mul_le hlongest, Nat.mul_comm]
    exact h
  unfold zoomFactor
  omega

/-- **Enlarging gives the one canvas that magnifies a canvas.** -/
theorem Magnifies.eq_zoomed (h : big.Magnifies s small) (hs : 0 < s) : big = small.zoomed s := by
  have hw : small.width * s ≤ maxSide := h.width ▸ big.width_le
  have hh : small.height * s ≤ maxSide := h.height ▸ big.height_le
  have hz := small.magnifies_zoomed s
  by_cases hlongest : small.longest * s ≤ maxSide
  · rw [zoomFactor_eq hs hlongest] at hz
    refine ext_get? (h.width.trans hz.width.symm) (h.height.trans hz.height.symm) fun x y => ?_
    rw [h.view, hz.view]
  · -- The squares are larger than a canvas, so there is no pixel to enlarge.
    have hside : ∀ side, side * s ≤ maxSide → side ≠ small.longest :=
      fun _ hle e => hlongest (e ▸ hle)
    obtain ⟨hw0, hh0⟩ : small.width = 0 ∧ small.height = 0 := by
      have hw' := hside _ hw
      have hh' := hside _ hh
      unfold longest at hw' hh'
      omega
    have hnone : ∀ x y, small.get? x y = none := fun x y => by
      rw [get?_eq, if_neg]
      rintro ⟨h1, h2, -⟩
      omega
    refine ext_get? ?_ ?_ fun x y => ?_
    · rw [h.width, hz.width, hw0, Nat.zero_mul, Nat.zero_mul]
    · rw [h.height, hz.height, hh0, Nat.zero_mul, Nat.zero_mul]
    · rw [h.view, hz.view, hnone, hnone]

end Canvas

end SketchPreview
