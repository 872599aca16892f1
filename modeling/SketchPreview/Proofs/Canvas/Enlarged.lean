import SketchPreview.Proofs.Canvas.Magnified

/-!
# Enlarging a canvas

The factor that is asked for is held between one and what the longer side leaves room for. Under
the factor that results, each pixel of a canvas becomes a square of pixels of its value.

* `Magnifies.trans`, `magnifies_one`: enlarging twice, and not at all;
* `magnifies_zoomed_of_fits`: a factor for which there is room is the one that is used;
* `sourceIndex`, `sourceIndex_lt`, `data_zoomed`: the byte that each byte of an enlarged canvas is
  copied from;
* **`zoomed_exact`**: the sides and the pixels of an enlarged canvas, and how factors combine.
-/

namespace SketchPreview.Canvas

/-! ## Factors -/

theorem Magnifies.trans {big middle small : Canvas} {s t : Nat} (h : big.Magnifies t middle)
    (h' : middle.Magnifies s small) : big.Magnifies (s * t) small where
  width := by rw [h.width, h'.width, Nat.mul_assoc]
  height := by rw [h.height, h'.height, Nat.mul_assoc]
  view x y := by
    have ht : (0 : Int) ≤ t := Int.natCast_nonneg t
    rw [h.view, h'.view, Int.ediv_ediv_of_nonneg ht, Int.ediv_ediv_of_nonneg ht, Nat.mul_comm,
      Int.natCast_mul]

theorem magnifies_one (c : Canvas) : c.Magnifies 1 c where
  width := (Nat.mul_one _).symm
  height := (Nat.mul_one _).symm
  view x y := by rw [Int.natCast_one, Int.ediv_one, Int.ediv_one]

theorem get?_of_width_eq_zero {c : Canvas} (h : c.width = 0) (x y : Int) : c.get? x y = none := by
  rw [get?_eq, if_neg]
  rintro ⟨h1, h2, -⟩
  omega

theorem magnifies_zoomed_of_fits {c : Canvas} {factor : Nat} (hf : 0 < factor)
    (h : factor * max c.width c.height ≤ maxSide) : (c.zoomed factor).Magnifies factor c := by
  have hz := c.magnifies_zoomed factor
  by_cases hempty : max c.width c.height = 0
  · -- The factor may have been cut here, but there is no pixel to tell.
    obtain ⟨hw, hh⟩ : c.width = 0 ∧ c.height = 0 := by omega
    have hwidth : (c.zoomed factor).width = 0 := by rw [hz.width, hw, Nat.zero_mul]
    refine ⟨?_, ?_, fun x y => ?_⟩
    · rw [hwidth, hw, Nat.zero_mul]
    · rw [hz.height, hh, Nat.zero_mul, Nat.zero_mul]
    · rw [get?_of_width_eq_zero hwidth, get?_of_width_eq_zero hw]
  · have hlongest : c.longest = max c.width c.height := by
      unfold longest
      omega
    have hroom : c.longest * factor ≤ maxSide := by
      rw [hlongest, Nat.mul_comm]
      exact h
    rwa [zoomFactor_eq hf hroom] at hz

theorem zoomed_one (c : Canvas) : c.zoomed 1 = c := (c.magnifies_one.eq_zoomed Nat.one_pos).symm

theorem zoomed_zoomed {c : Canvas} {a b : Nat} (ha : 0 < a) (hb : 0 < b)
    (h : a * b * max c.width c.height ≤ maxSide) : (c.zoomed a).zoomed b = c.zoomed (a * b) := by
  have hroom : a * max c.width c.height ≤ maxSide :=
    Nat.le_trans (Nat.mul_le_mul_right _ (Nat.le_mul_of_pos_right a hb)) h
  have hfirst := magnifies_zoomed_of_fits ha hroom
  have hroom' : b * max (c.zoomed a).width (c.zoomed a).height ≤ maxSide := by
    calc b * max (c.zoomed a).width (c.zoomed a).height
        = b * (max c.width c.height * a) := by
          rw [hfirst.width, hfirst.height, Nat.mul_max_mul_right]
      _ = a * b * max c.width c.height := by
          rw [Nat.mul_comm _ a, Nat.mul_left_comm, Nat.mul_assoc]
      _ ≤ maxSide := h
  exact ((magnifies_zoomed_of_fits hb hroom').trans hfirst).eq_zoomed (Nat.mul_pos ha hb)

/-! ## Bytes -/

/-- The byte of a canvas that a byte of the enlarged canvas is copied from. -/
def sourceIndex (c : Canvas) (factor i : Nat) : Nat :=
  i / (c.zoomed factor).width / c.zoomFactor factor * c.width +
    i % (c.zoomed factor).width / c.zoomFactor factor

section Bytes

variable {c : Canvas} {factor i : Nat} (hi : i < (c.zoomed factor).pixels.size)
include hi

theorem width_zoomed_pos : 0 < (c.zoomed factor).width := by
  rw [size_eq] at hi
  exact Nat.pos_of_mul_pos_right (Nat.zero_lt_of_lt hi)

theorem sourceIndex_lt : sourceIndex c factor i < c.pixels.size := by
  have hcolumn : i % (c.zoomed factor).width / c.zoomFactor factor < c.width :=
    Nat.div_lt_of_lt_mul (Nat.mul_comm c.width _ ▸ Nat.mod_lt i (width_zoomed_pos hi))
  have hrow : i / (c.zoomed factor).width / c.zoomFactor factor < c.height := by
    rw [size_eq] at hi
    exact Nat.div_lt_of_lt_mul (Nat.mul_comm c.height _ ▸ Nat.div_lt_of_lt_mul hi)
  exact index_lt (c := c) ⟨Int.natCast_nonneg _, Int.ofNat_lt.2 hcolumn, Int.natCast_nonneg _,
    Int.ofNat_lt.2 hrow⟩

theorem data_zoomed :
    (c.zoomed factor).pixels.data[i]? = c.pixels.data[sourceIndex c factor i]? := by
  have hlt : i < (c.zoomed factor).width * (c.zoomed factor).height :=
    (c.zoomed factor).size_eq ▸ hi
  exact (Bytes.data_generate _ _ _).trans ((if_pos hlt).trans (some_get! _ (sourceIndex_lt hi)))

end Bytes

/-! ## Enlarging -/

/-- **An enlarged canvas** shows a square for each pixel, of a side between one and what the sides
leave room for. Nothing is read outside the canvas or divided by zero, a canvas without pixels
included. -/
theorem zoomed_exact (c : Canvas) (factor : Nat) :
    c.zoomFactor factor = max 1 (min factor (max 1 (maxSide / max (max c.width c.height) 1))) ∧
    ((c.zoomed factor).width = c.width * c.zoomFactor factor ∧
      (c.zoomed factor).height = c.height * c.zoomFactor factor) ∧
    ((c.zoomed factor).width ≤ maxSide ∧ (c.zoomed factor).height ≤ maxSide) ∧
    (∀ x y : Nat, x < (c.zoomed factor).width → y < (c.zoomed factor).height →
      ∃ value, (c.zoomed factor).get? x y = some value ∧
        c.get? (x / c.zoomFactor factor : Nat) (y / c.zoomFactor factor : Nat) = some value) ∧
    (0 < c.zoomFactor factor ∧ ∀ i < (c.zoomed factor).pixels.size,
      0 < (c.zoomed factor).width ∧ sourceIndex c factor i < c.pixels.size ∧
        (c.zoomed factor).pixels.data[i]? = c.pixels.data[sourceIndex c factor i]?) ∧
    c.zoomed 1 = c ∧
    ∀ a b : Nat, 0 < a → 0 < b → a * b * max c.width c.height ≤ maxSide →
      (c.zoomed a).zoomed b = c.zoomed (a * b) := by
  have hz := c.magnifies_zoomed factor
  refine ⟨?_, ⟨hz.width, hz.height⟩, ⟨width_le _, height_le _⟩, fun x y hx hy => ?_,
    ⟨c.zoomFactor_pos factor, fun i hi => ?_⟩, c.zoomed_one, fun a b => zoomed_zoomed⟩
  · rw [zoomFactor, longest, Nat.max_comm 1 (_ / _)]
  · obtain ⟨value, hvalue⟩ := exists_get?_of_lt hx hy
    exact ⟨value, hvalue, (hz.view x y).symm.trans hvalue⟩
  · exact ⟨width_zoomed_pos hi, sourceIndex_lt hi, data_zoomed hi⟩

/-- A white pixel and a black one. -/
def domino : Canvas := (blank 2 1 255).set 1 0 0

/-- The black half becomes a square, and six times as large is three times twice as large. -/
theorem zoomed_exact_domino :
    (3 < (domino.zoomed 2).width ∧ 1 < (domino.zoomed 2).height ∧
        (domino.zoomed 2).get? 3 1 = some 0) ∧
      (7 < (domino.zoomed 2).pixels.size ∧ sourceIndex domino 2 7 < domino.pixels.size) ∧
      (0 < 2 ∧ 0 < 3 ∧ 2 * 3 * max domino.width domino.height ≤ maxSide ∧
        (domino.zoomed 2).zoomed 3 = domino.zoomed 6) := by
  obtain ⟨-, -, -, hview, hbytes, -, hproduct⟩ := domino.zoomed_exact 2
  have hw : 3 < (domino.zoomed 2).width := by decide
  have hh : 1 < (domino.zoomed 2).height := by decide
  have hblack : domino.get? (3 / domino.zoomFactor 2 : Nat) (1 / domino.zoomFactor 2 : Nat) =
    some 0 := by decide
  have hsize : 7 < (domino.zoomed 2).pixels.size := by decide
  have hroom : 2 * 3 * max domino.width domino.height ≤ maxSide := by decide
  obtain ⟨value, hbig, hsmall⟩ := hview 3 1 hw hh
  exact ⟨⟨hw, hh, hbig.trans (hsmall.symm.trans hblack)⟩, ⟨hsize, (hbytes.2 7 hsize).2.1⟩,
    by decide, by decide, hroom, hproduct 2 3 (by decide) (by decide) hroom⟩

end SketchPreview.Canvas
