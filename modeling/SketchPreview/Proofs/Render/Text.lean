import Mathlib.Algebra.Ring.Int.Defs
import SketchPreview.Proofs.Canvas.Magnified
import SketchPreview.Render.Text

/-!
# Text on magnified canvases

* `Glyph.Fits`, `BitmapFont.Fits`, `FontMap.Fits`: glyphs that are no larger than a font file can
  make them;
* `Span.magnifies_dot`: the place of a dot, however far from the canvas its pen is;
* `Canvas.snd_drawText`: how far a text moves the pen;
* **`Canvas.Magnifies.drawText`**: text keeps a canvas magnified.
-/

namespace SketchPreview

/-! ## Bounded glyphs -/

/-- The greatest number of rows, and of dots in a row, of a glyph. -/
def maxGlyphDots : Nat := 4096

/-- Whether the picture of a glyph is no larger than a font file can make it. -/
def Glyph.Fits (g : Glyph) : Prop :=
  g.rows.length ≤ maxGlyphDots ∧ ∀ row ∈ g.rows, row.length ≤ maxGlyphDots

/-- Whether all glyphs of a font fit. -/
def BitmapFont.Fits (f : BitmapFont) : Prop := ∀ e ∈ f.glyphs.entries, e.2.Fits

/-- Whether all fonts of a request fit. -/
def FontMap.Fits (fonts : FontMap) : Prop := ∀ e ∈ fonts.entries, e.2.Fits

instance (g : Glyph) : Decidable g.Fits := inferInstanceAs (Decidable (_ ∧ _))

instance (f : BitmapFont) : Decidable f.Fits := inferInstanceAs (Decidable (∀ e ∈ _, _))

instance (fonts : FontMap) : Decidable (FontMap.Fits fonts) :=
  inferInstanceAs (Decidable (∀ e ∈ _, _))

theorem lt_length_of_mem_rowDots {row : List Bool} {x : Nat} (h : x ∈ rowDots row) :
    x < row.length := by
  obtain ⟨⟨dot, i⟩, hmem, hdot⟩ := List.mem_filterMap.1 h
  have hi := List.snd_lt_of_mem_zipIdx hmem
  cases dot <;> simp_all

theorem Glyph.Fits.lt_of_mem_dots {g : Glyph} (hg : g.Fits) {p : Nat × Nat} (h : p ∈ g.dots) :
    p.1 < maxGlyphDots ∧ p.2 < maxGlyphDots := by
  obtain ⟨⟨row, y⟩, hrow, hp⟩ := List.mem_flatMap.1 h
  obtain ⟨x, hx, rfl⟩ := List.mem_map.1 hp
  have hy := List.snd_lt_of_mem_zipIdx hrow
  have hlength := hg.2 row (List.fst_mem_of_mem_zipIdx hrow)
  exact ⟨Nat.lt_of_lt_of_le (lt_length_of_mem_rowDots hx) hlength, Nat.lt_of_lt_of_le hy hg.1⟩

/-! ## Dots -/

theorem Span.contains_dot {s : Nat} (hmax : s ≤ maxSide) (p : Int) {i : Nat}
    (hi : i < maxGlyphDots) {x : Int} (h0 : 0 ≤ x) (hx : x < maxSide) :
    (Span.ofExtent (add64 (mul64 p s) (mul64 i s)) s).Contains x ↔
      (p + i) * s ≤ x ∧ x < (p + i + 1) * s := by
  have hfits : Fits64 (add64 (mul64 p s) (mul64 i s)) := fits64_clamp64 _
  have hj : i * s ≤ maxGlyphDots * maxSide := Nat.mul_le_mul (Nat.le_of_lt hi) hmax
  have hj' : ((i * s : Nat) : Int) = i * s := Int.natCast_mul i s
  unfold maxGlyphDots at hj
  unfold maxSide at hj hmax hx
  rw [contains_ofExtent hfits (by unfold min64; omega) (by unfold max64; omega) h0 hx,
    Int.add_mul, Int.add_mul, Int.add_mul, Int.one_mul]
  simp only [add64, mul64, clamp64, min64, max64]
  rw [← hj']
  -- the pen may be anywhere; where its place is cut, no dot reaches back to a canvas
  generalize p * (s : Int) = q
  omega

/-- A dot in display pixels of one side magnifies the dot in single pixels. -/
theorem Span.magnifies_dot {s : Nat} (hs : 0 < s) (p : Int) {i : Nat} (hi : i < maxGlyphDots) :
    (Span.ofExtent (add64 (mul64 p s) (mul64 i s)) s).Magnifies s
      (Span.ofExtent (add64 (mul64 p (1 : Nat)) (mul64 i (1 : Nat))) (1 : Nat)) := by
  refine magnifies_of_ends hs (fun hmax x h0 hx => contains_dot hmax p hi h0 hx) fun x h0 hx => ?_
  rw [contains_dot (by decide) p hi h0 hx, Int.natCast_one, Int.mul_one, Int.mul_one]

namespace Canvas

variable {big small : Canvas} {s : Nat}

/-! ## Glyphs and texts -/

theorem Magnifies.drawDots (h : big.Magnifies s small) (hs : 0 < s) (left top : Int)
    {dots : List (Nat × Nat)} (hdots : ∀ p ∈ dots, p.1 < maxGlyphDots ∧ p.2 < maxGlyphDots)
    (value : UInt8) :
    (big.drawDots (mul64 left s) (mul64 top s) s dots value).Magnifies s
      (small.drawDots (mul64 left (1 : Nat)) (mul64 top (1 : Nat)) (1 : Nat) dots value) := by
  refine List.foldl_rel (r := fun big small : Canvas => big.Magnifies s small) h
    fun p hp big small h => ?_
  obtain ⟨hx, hy⟩ := hdots p hp
  exact h.fillRect hs (Span.magnifies_dot hs left hx) (Span.magnifies_dot hs top hy) value

theorem Magnifies.drawGlyph (h : big.Magnifies s small) (hs : 0 < s) {g : Glyph} (hg : g.Fits)
    (baseline pen y : Int) (value : UInt8) :
    (big.drawGlyph g baseline pen y s value).Magnifies s
      (small.drawGlyph g baseline pen y (1 : Nat) value) :=
  h.drawDots hs _ _ (fun _ hp => hg.lt_of_mem_dots hp) value

/-- **A text keeps a canvas magnified.** -/
theorem Magnifies.drawText (h : big.Magnifies s small) (hs : 0 < s) {f : BitmapFont} (hf : f.Fits)
    (pen y : Int) (value : UInt8) (text : List Char) :
    (big.drawText f pen y s value text).1.Magnifies s
      (small.drawText f pen y (1 : Nat) value text).1 := by
  induction text generalizing big small pen with
  | nil => exact h
  | cons ch rest ih =>
    cases hg : f.glyph? ch with
    | none =>
      simp only [Canvas.drawText, hg]
      exact ih h _
    | some g =>
      simp only [Canvas.drawText, hg]
      exact ih (h.drawGlyph hs (hf _ (SortedMap.mem_entries_of_get? hg)) _ _ _ value) _

theorem snd_drawText (c : Canvas) (f : BitmapFont) (pen y scale : Int) (value : UInt8)
    (text : List Char) :
    (c.drawText f pen y scale value text).2 = pen + (text.map f.advance).sum := by
  induction text generalizing c pen with
  | nil => exact (Int.add_zero pen).symm
  | cons ch rest ih =>
    rw [drawText, ih, List.map_cons, List.sum_cons, Int.add_assoc]

end Canvas

end SketchPreview
