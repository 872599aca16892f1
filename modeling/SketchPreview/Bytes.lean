/-!
# Byte arrays

* `Bytes.generate n f`: the bytes `f 0`, …, `f (n - 1)`;
* `data_generate`, `size_set!`.
-/

namespace SketchPreview.Bytes

/-- Appends the bytes `f i`, `f (i + 1)`, …, `n` of them. -/
@[specialize]
def generateFrom (f : Nat → UInt8) : Nat → Nat → ByteArray → ByteArray
  | 0, _, acc => acc
  | n + 1, i, acc => generateFrom f n (i + 1) (acc.push (f i))

/-- The bytes `f 0`, …, `f (n - 1)`. -/
@[inline]
def generate (n : Nat) (f : Nat → UInt8) : ByteArray :=
  generateFrom f n 0 (ByteArray.emptyWithCapacity n)

theorem size_generateFrom (f : Nat → UInt8) (n i : Nat) (acc : ByteArray) :
    (generateFrom f n i acc).size = acc.size + n := by
  induction n generalizing i acc with
  | zero => rfl
  | succ n ih => rw [generateFrom, ih, ByteArray.size_push]; omega

theorem size_generate (n : Nat) (f : Nat → UInt8) : (generate n f).size = n := by
  rw [generate, size_generateFrom]
  exact Nat.zero_add n

theorem data_generateFrom (f : Nat → UInt8) (n i : Nat) (acc : ByteArray) (j : Nat) :
    (generateFrom f n i acc).data[j]? =
      if j < acc.size then acc.data[j]?
      else if j < acc.size + n then some (f (i + (j - acc.size))) else none := by
  induction n generalizing i acc with
  | zero =>
    rw [generateFrom]
    split
    · rfl
    · next h =>
      rw [if_neg (by omega)]
      exact Array.getElem?_eq_none (Nat.not_lt.1 h)
  | succ n ih =>
    have hd : (acc.push (f i)).data = acc.data.push (f i) := rfl
    have hs : acc.data.size = acc.size := rfl
    rw [generateFrom, ih, ByteArray.size_push, hd, Array.getElem?_push, hs]
    by_cases h1 : j < acc.size
    · rw [if_pos (by omega), if_neg (by omega), if_pos h1]
    · by_cases h2 : j = acc.size
      · subst h2
        rw [if_pos (by omega), if_pos rfl, if_neg h1, if_pos (by omega)]
        simp
      · rw [if_neg (by omega), if_neg h1]
        by_cases h3 : j < acc.size + 1 + n
        · rw [if_pos h3, if_pos (by omega)]
          congr 2; omega
        · rw [if_neg h3, if_neg (by omega)]

theorem data_generate (n : Nat) (f : Nat → UInt8) (j : Nat) :
    (generate n f).data[j]? = if j < n then some (f j) else none := by
  rw [generate, data_generateFrom]
  have h0 : (ByteArray.emptyWithCapacity n).size = 0 := rfl
  simp [h0]

theorem size_set! (b : ByteArray) (i : Nat) (v : UInt8) : (b.set! i v).size = b.size := by
  cases b with
  | mk data => simp [ByteArray.set!, ByteArray.size]

theorem data_set! (b : ByteArray) (i j : Nat) (v : UInt8) :
    (b.set! i v).data[j]? = if j = i ∧ i < b.size then some v else b.data[j]? := by
  cases b with
  | mk data =>
    simp only [ByteArray.set!, ByteArray.size, Array.set!_eq_setIfInBounds,
      Array.getElem?_setIfInBounds]
    by_cases h : i = j
    · subst h
      by_cases h' : i < data.size
      · simp [h']
      · simp [h']
    · simp [h, Ne.symm h]

end SketchPreview.Bytes
