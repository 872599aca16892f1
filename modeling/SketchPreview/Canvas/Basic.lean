import SketchPreview.Bytes
import SketchPreview.Crc32

/-!
# Canvases

A canvas is a rectangle of grey values, row by row, one byte a pixel. Its sides have a greatest
length. What a canvas shows is its *view* `get?`; every operation is described by what it does to
the view, and whatever lies outside the canvas is cut off.

* `Canvas`, `Canvas.blank`, `Canvas.get?`;
* `Canvas.set`, `Canvas.paint`: single pixels;
* `Canvas.paintRegion`: the pixels of a region that satisfy a condition;
* `get?_set`, `get?_paint`, `get?_paintRegion`: what these do to the view;
* `Canvas.checksum`, `Canvas.toPgm`.
-/

namespace SketchPreview

/-- The greatest side of a canvas in pixels. -/
def maxSide : Nat := 8192

/-- A rectangle of grey values. -/
structure Canvas where
  width : Nat
  height : Nat
  pixels : ByteArray
  size_eq : pixels.size = width * height
  width_le : width ≤ maxSide
  height_le : height ≤ maxSide

namespace Canvas

/-- A canvas of one grey value. Sides that are too long are cut. -/
def blank (width height : Nat) (value : UInt8) : Canvas where
  width := min width maxSide
  height := min height maxSide
  pixels := Bytes.generate (min width maxSide * min height maxSide) fun _ => value
  size_eq := Bytes.size_generate _ _
  width_le := Nat.min_le_right _ _
  height_le := Nat.min_le_right _ _

/-- Whether a pixel lies on the canvas. -/
def Holds (c : Canvas) (x y : Int) : Prop := 0 ≤ x ∧ x < c.width ∧ 0 ≤ y ∧ y < c.height

instance (c : Canvas) (x y : Int) : Decidable (c.Holds x y) :=
  inferInstanceAs (Decidable (_ ∧ _ ∧ _ ∧ _))

/-- The place of a pixel among the bytes. -/
def index (c : Canvas) (x y : Int) : Nat := y.toNat * c.width + x.toNat

theorem index_lt {c : Canvas} {x y : Int} (h : c.Holds x y) : c.index x y < c.pixels.size := by
  obtain ⟨hx0, hx, hy0, hy⟩ := h
  rw [c.size_eq, index]
  have h1 : x.toNat < c.width := by omega
  have h2 : y.toNat + 1 ≤ c.height := by omega
  calc y.toNat * c.width + x.toNat < y.toNat * c.width + c.width := by omega
    _ = (y.toNat + 1) * c.width := by rw [Nat.succ_mul]
    _ ≤ c.height * c.width := Nat.mul_le_mul_right _ h2
    _ = c.width * c.height := Nat.mul_comm _ _

/-- The grey value of a pixel, if it lies on the canvas. -/
def get? (c : Canvas) (x y : Int) : Option UInt8 :=
  if h : c.Holds x y then some (c.pixels.get (c.index x y) (index_lt h)) else none

/-- Gives a pixel a grey value, if it lies on the canvas. -/
def set (c : Canvas) (x y : Int) (value : UInt8) : Canvas :=
  if c.Holds x y then
    { c with
      pixels := c.pixels.set! (c.index x y) value
      size_eq := by rw [Bytes.size_set!, c.size_eq] }
  else c

/-- Gives the pixels of a list a grey value. -/
def paint (c : Canvas) (points : List (Int × Int)) (value : UInt8) : Canvas :=
  points.foldl (fun c p => c.set p.1 p.2 value) c

/-- Writes `value` at `base + x`, `base + x + 1`, …, `n` places, where `p` holds of the offset. -/
@[specialize]
def paintSpan (p : Nat → Bool) (value : UInt8) (base : Nat) :
    Nat → Nat → ByteArray → ByteArray
  | 0, _, b => b
  | n + 1, x, b => paintSpan p value base n (x + 1) (if p x then b.set! (base + x) value else b)

/-- Writes `value` in the rows `y`, `y + 1`, …, `m` rows, each from `left` on for `n` places, where
`p` holds of column and row. -/
@[specialize]
def paintRows (p : Nat → Nat → Bool) (value : UInt8) (width left n : Nat) :
    Nat → Nat → ByteArray → ByteArray
  | 0, _, b => b
  | m + 1, y, b =>
    paintRows p value width left n m (y + 1)
      (paintSpan (fun x => p x y) value (y * width) n left b)

theorem size_paintSpan (p : Nat → Bool) (value : UInt8) (base n x : Nat) (b : ByteArray) :
    (paintSpan p value base n x b).size = b.size := by
  induction n generalizing x b with
  | zero => rfl
  | succ n ih =>
    rw [paintSpan, ih]
    split
    · exact Bytes.size_set! _ _ _
    · rfl

theorem size_paintRows (p : Nat → Nat → Bool) (value : UInt8) (width left n m y : Nat)
    (b : ByteArray) : (paintRows p value width left n m y b).size = b.size := by
  induction m generalizing y b with
  | zero => rfl
  | succ m ih => rw [paintRows, ih, size_paintSpan]

/-- Gives the pixels in the columns from `left` to `right` and the rows from `top` to `bottom`, the
far ends left out, a grey value where `p` holds. -/
@[specialize]
def paintRegion (c : Canvas) (left right top bottom : Nat) (p : Nat → Nat → Bool)
    (value : UInt8) : Canvas :=
  { c with
    pixels := paintRows p value c.width left (min right c.width - left)
      (min bottom c.height - top) top c.pixels
    size_eq := by rw [size_paintRows, c.size_eq] }

/-- The checksum of the pixels. -/
def checksum (c : Canvas) : UInt32 := crc32 c.pixels

/-- The canvas as a binary portable greymap. -/
def toPgm (c : Canvas) : ByteArray :=
  ("P5\n" ++ toString c.width ++ " " ++ toString c.height ++ "\n255\n").toUTF8 ++ c.pixels

/-! ## What the operations do to the view -/

theorem get?_eq (c : Canvas) (x y : Int) :
    c.get? x y = if c.Holds x y then c.pixels.data[c.index x y]? else none := by
  by_cases h : c.Holds x y
  · rw [if_pos h]
    exact (dif_pos h).trans (Array.getElem?_eq_getElem (index_lt h)).symm
  · rw [if_neg h]
    exact dif_neg h

theorem get?_blank (width height : Nat) (value : UInt8) (x y : Int) :
    (blank width height value).get? x y =
      if (blank width height value).Holds x y then some value else none := by
  rw [get?_eq]
  split
  · next h =>
    have hi : (blank width height value).index x y < min width maxSide * min height maxSide :=
      (blank width height value).size_eq ▸ index_lt h
    exact (Bytes.data_generate _ (fun _ => value) _).trans (if_pos hi)
  · rfl

theorem index_inj {c : Canvas} {x y x' y' : Int} (h : c.Holds x y) (h' : c.Holds x' y')
    (e : c.index x y = c.index x' y') : x = x' ∧ y = y' := by
  obtain ⟨hx0, hx, hy0, hy⟩ := h
  obtain ⟨hx0', hx', hy0', hy'⟩ := h'
  have h1 : x.toNat < c.width := by omega
  have h2 : x'.toNat < c.width := by omega
  have hm := congrArg (· % c.width) e
  have hd := congrArg (· / c.width) e
  simp only [index, Nat.mul_comm _ c.width, Nat.mul_add_mod, Nat.mod_eq_of_lt h1,
    Nat.mod_eq_of_lt h2] at hm
  simp only [index, Nat.mul_comm _ c.width, Nat.mul_add_div (Nat.zero_lt_of_lt h1),
    Nat.div_eq_of_lt h1, Nat.div_eq_of_lt h2] at hd
  omega

theorem holds_set (c : Canvas) (x y : Int) (value : UInt8) (x' y' : Int) :
    (c.set x y value).Holds x' y' ↔ c.Holds x' y' := by
  unfold set
  split <;> rfl

theorem get?_set (c : Canvas) (x y : Int) (value : UInt8) (x' y' : Int) :
    (c.set x y value).get? x' y' =
      if x' = x ∧ y' = y ∧ c.Holds x y then some value else c.get? x' y' := by
  rw [get?_eq, get?_eq]
  by_cases h : c.Holds x y
  · by_cases h' : c.Holds x' y'
    · have hs : (c.set x y value).pixels = c.pixels.set! (c.index x y) value := by
        simp [set, h]
      have hi : (c.set x y value).index x' y' = c.index x' y' := by simp [set, h, index]
      rw [if_pos ((holds_set ..).2 h'), hs, hi, Bytes.data_set!, if_pos h']
      by_cases e : x' = x ∧ y' = y
      · obtain ⟨rfl, rfl⟩ := e
        simp [h, index_lt h]
      · have hne : ¬(c.index x' y' = c.index x y ∧ c.index x y < c.pixels.size) :=
          fun hh => e (index_inj h' h hh.1)
        rw [if_neg hne, if_neg (fun hh => e ⟨hh.1, hh.2.1⟩)]
    · rw [if_neg (fun hh => h' ((holds_set ..).1 hh)), if_neg h', if_neg]
      rintro ⟨rfl, rfl, -⟩
      exact h' h
  · simp [set, h]

theorem holds_paint (c : Canvas) (points : List (Int × Int)) (value : UInt8) (x y : Int) :
    (c.paint points value).Holds x y ↔ c.Holds x y := by
  induction points generalizing c with
  | nil => rfl
  | cons p rest ih =>
    have hc : (c.paint (p :: rest) value) = (c.set p.1 p.2 value).paint rest value := rfl
    rw [hc, ih, holds_set]

/-- The painted pixels show the value and the others are as before. -/
theorem get?_paint (c : Canvas) (points : List (Int × Int)) (value : UInt8) (x y : Int) :
    (c.paint points value).get? x y =
      if (x, y) ∈ points ∧ c.Holds x y then some value else c.get? x y := by
  induction points generalizing c with
  | nil => simp [paint]
  | cons p rest ih =>
    have hc : (c.paint (p :: rest) value) = (c.set p.1 p.2 value).paint rest value := rfl
    rw [hc, ih, get?_set]
    simp only [holds_set]
    by_cases h : c.Holds x y
    · by_cases hp : x = p.1 ∧ y = p.2
      · obtain ⟨rfl, rfl⟩ := hp
        simp [h]
      · have hne : (x, y) ≠ p := fun e => hp ⟨congrArg Prod.fst e, congrArg Prod.snd e⟩
        have hn : ¬(x = p.1 ∧ y = p.2 ∧ c.Holds p.1 p.2) := fun e => hp ⟨e.1, e.2.1⟩
        simp [h, hne, hn]
    · have hn : ¬(x = p.1 ∧ y = p.2 ∧ c.Holds p.1 p.2) := by
        rintro ⟨rfl, rfl, e⟩
        exact h e
      simp [h, hn]

theorem data_paintSpan (p : Nat → Bool) (value : UInt8) (base n x : Nat) (b : ByteArray) (j : Nat) :
    (paintSpan p value base n x b).data[j]? =
      if base + x ≤ j ∧ j < base + x + n ∧ p (j - base) ∧ j < b.size then some value
      else b.data[j]? := by
  induction n generalizing x b with
  | zero => rw [paintSpan, if_neg (by omega)]
  | succ n ih =>
    rw [paintSpan, ih]
    have hs : (if p x then b.set! (base + x) value else b).size = b.size := by
      split
      · exact Bytes.size_set! _ _ _
      · rfl
    have hd : (if p x then b.set! (base + x) value else b).data[j]? =
        if p x ∧ j = base + x ∧ j < b.size then some value else b.data[j]? := by
      by_cases hp : p x = true
      · rw [if_pos hp, Bytes.data_set!]
        by_cases hj : j = base + x
        · simp [hp, hj]
        · simp [hj]
      · simp [hp]
    rw [hs, hd]
    by_cases hj : j = base + x
    · have he : j - base = x := by omega
      rw [if_neg (by omega), he]
      by_cases hp : p x = true ∧ j < b.size
      · rw [if_pos ⟨hp.1, hj, hp.2⟩, if_pos ⟨by omega, by omega, hp⟩]
      · rw [if_neg (fun h => hp ⟨h.1, h.2.2⟩), if_neg (fun h => hp h.2.2)]
    · rw [if_neg (fun h : p x = true ∧ j = base + x ∧ j < b.size => hj h.2.1)]
      by_cases hc : base + (x + 1) ≤ j ∧ j < base + (x + 1) + n ∧ p (j - base) = true ∧ j < b.size
      · rw [if_pos hc, if_pos ⟨by omega, by omega, hc.2.2⟩]
      · rw [if_neg hc, if_neg]
        rintro ⟨h1, h2, h3⟩
        exact hc ⟨by omega, by omega, h3⟩

theorem data_paintRows (p : Nat → Nat → Bool) (value : UInt8) {width left n : Nat}
    (hw : left + n ≤ width) (m y : Nat) (b : ByteArray) {i k : Nat} (hi : i < width) :
    (paintRows p value width left n m y b).data[k * width + i]? =
      if y ≤ k ∧ k < y + m ∧ left ≤ i ∧ i < left + n ∧ p i k ∧ k * width + i < b.size then
        some value
      else b.data[k * width + i]? := by
  induction m generalizing y b with
  | zero => rw [paintRows, if_neg (by omega)]
  | succ m ih =>
    rw [paintRows, ih, size_paintSpan]
    by_cases hk : k = y
    · subst hk
      have he : k * width + i - k * width = i := by omega
      rw [if_neg (by omega), data_paintSpan, he]
      by_cases hc : left ≤ i ∧ i < left + n ∧ p i k = true ∧ k * width + i < b.size
      · rw [if_pos ⟨by omega, by omega, hc.2.2⟩, if_pos ⟨by omega, by omega, hc⟩]
      · rw [if_neg (fun h => hc ⟨by omega, by omega, h.2.2⟩), if_neg (fun h => hc h.2.2)]
    · have hrow : ¬(y * width + left ≤ k * width + i ∧ k * width + i < y * width + left + n) := by
        rintro ⟨h1, h2⟩
        rcases Nat.lt_or_gt_of_ne hk with h | h
        · have := Nat.mul_le_mul_right width (Nat.succ_le_of_lt h)
          rw [Nat.succ_mul] at this
          omega
        · have := Nat.mul_le_mul_right width (Nat.succ_le_of_lt h)
          rw [Nat.succ_mul] at this
          omega
      have hb : (paintSpan (fun x => p x y) value (y * width) n left b).data[k * width + i]? =
          b.data[k * width + i]? := by
        rw [data_paintSpan, if_neg (fun h => hrow ⟨h.1, h.2.1⟩)]
      rw [hb]
      by_cases hc : y + 1 ≤ k ∧ k < y + 1 + m ∧ left ≤ i ∧ i < left + n ∧ p i k = true ∧
          k * width + i < b.size
      · rw [if_pos hc, if_pos ⟨by omega, by omega, hc.2.2⟩]
      · rw [if_neg hc, if_neg]
        rintro ⟨h1, h2, h3⟩
        exact hc ⟨by omega, by omega, h3⟩

theorem paintRows_zero (p : Nat → Nat → Bool) (value : UInt8) (width left m y : Nat)
    (b : ByteArray) : paintRows p value width left 0 m y b = b := by
  induction m generalizing y with
  | zero => rfl
  | succ m ih => rw [paintRows, paintSpan, ih]

theorem get?_paintRegion (c : Canvas) (left right top bottom : Nat) (p : Nat → Nat → Bool)
    (value : UInt8) (x y : Int) :
    (c.paintRegion left right top bottom p value).get? x y =
      if c.Holds x y ∧ left ≤ x ∧ x < right ∧ top ≤ y ∧ y < bottom ∧ p x.toNat y.toNat then
        some value
      else c.get? x y := by
  rw [get?_eq, get?_eq]
  by_cases h : c.Holds x y
  · have hi := index_lt h
    have hh : (c.paintRegion left right top bottom p value).Holds x y := h
    have he : (c.paintRegion left right top bottom p value).index x y = c.index x y := rfl
    rw [if_pos hh, if_pos h, he]
    obtain ⟨hx0, hx, hy0, hy⟩ := id h
    by_cases hl : left ≤ min right c.width
    · have hw : left + (min right c.width - left) ≤ c.width := by omega
      have hx' : x.toNat < c.width := by omega
      have key := data_paintRows p value hw (min bottom c.height - top) top c.pixels
        (k := y.toNat) hx'
      rw [show (c.paintRegion left right top bottom p value).pixels.data[c.index x y]? = _ from key]
      by_cases hp : left ≤ x ∧ x < right ∧ top ≤ y ∧ y < bottom ∧ p x.toNat y.toNat = true
      · rw [if_pos ⟨by omega, by omega, by omega, by omega, hp.2.2.2.2, hi⟩, if_pos ⟨h, hp⟩]
      · have hn : ¬(top ≤ y.toNat ∧ y.toNat < top + (min bottom c.height - top) ∧
            left ≤ x.toNat ∧ x.toNat < left + (min right c.width - left) ∧
            p x.toNat y.toNat = true ∧ y.toNat * c.width + x.toNat < c.pixels.size) := by
          rintro ⟨h1, h2, h3, h4, h5, -⟩
          exact hp ⟨by omega, by omega, by omega, by omega, h5⟩
        rw [if_neg hn, if_neg (fun e => hp e.2)]
        rfl
    · have hz : min right c.width - left = 0 := by omega
      have hp : (c.paintRegion left right top bottom p value).pixels = c.pixels := by
        simp only [paintRegion, hz, paintRows_zero]
      rw [if_neg (by omega), hp]
  · have hh : ¬(c.paintRegion left right top bottom p value).Holds x y := h
    rw [if_neg hh, if_neg h, if_neg (fun e => h e.1)]

end Canvas

end SketchPreview
