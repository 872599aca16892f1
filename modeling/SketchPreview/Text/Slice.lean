/-!
# Places counted in bytes

A place in a text may be told by the number of bytes in front of it, as UTF-8 writes them. Not every
number of bytes is such a place: one that falls inside a character is not.

* `byteLength`, `charIndices`: the bytes of a text, the places of its characters;
* `slice?`: the text between two places, where both are places of the text.
-/

namespace SketchPreview.Text

/-- The number of bytes of a text. -/
def byteLength : List Char → Nat
  | [] => 0
  | c :: rest => c.utf8Size + byteLength rest

/-- The characters of a text, each with its place, when the text begins at place `i`. -/
def charIndices (i : Nat) : List Char → List (Nat × Char)
  | [] => []
  | c :: rest => (i, c) :: charIndices (i + c.utf8Size) rest

/-- The first `n` bytes of a text and the rest, unless the cut falls inside a character or behind
the end. -/
def splitBytes? : Nat → List Char → Option (List Char × List Char)
  | 0, s => some ([], s)
  | _ + 1, [] => none
  | n + 1, c :: rest =>
    if c.utf8Size ≤ n + 1 then
      (splitBytes? (n + 1 - c.utf8Size) rest).map fun (front, behind) => (c :: front, behind)
    else none

/-- The text from byte `start` to byte `stop`. There is none when a cut falls inside a character or
behind the end, or when `stop` comes before `start`. -/
def slice? (s : List Char) (start stop : Nat) : Option (List Char) :=
  if start ≤ stop then do
    let (_, behind) ← splitBytes? start s
    let (text, _) ← splitBytes? (stop - start) behind
    some text
  else none

@[simp]
theorem byteLength_nil : byteLength [] = 0 := rfl

@[simp]
theorem byteLength_cons (c : Char) (s : List Char) :
    byteLength (c :: s) = c.utf8Size + byteLength s := rfl

@[simp]
theorem byteLength_append (s t : List Char) :
    byteLength (s ++ t) = byteLength s + byteLength t := by
  induction s with
  | nil => exact (Nat.zero_add _).symm
  | cons c s ih => rw [List.cons_append, byteLength_cons, ih, byteLength_cons, Nat.add_assoc]

theorem byteLength_eq_zero_iff {s : List Char} : byteLength s = 0 ↔ s = [] := by
  cases s with
  | nil => simp
  | cons c s =>
    have := c.utf8Size_pos
    simp only [byteLength_cons, reduceCtorEq, iff_false]
    omega

theorem splitBytes?_eq_some_iff {n : Nat} {s front behind : List Char} :
    splitBytes? n s = some (front, behind) ↔ s = front ++ behind ∧ byteLength front = n := by
  fun_induction splitBytes? n s generalizing front with
  | case1 s =>
    rw [byteLength_eq_zero_iff]
    constructor
    · rintro ⟨⟩
      exact ⟨rfl, rfl⟩
    · rintro ⟨rfl, rfl⟩
      rfl
  | case2 n =>
    simp only [reduceCtorEq, false_iff, List.nil_eq, List.append_eq_nil_iff, not_and, and_imp]
    rintro rfl -
    simp
  | case3 n c rest hle ih =>
    have := c.utf8Size_pos
    cases front with
    | nil => simp
    | cons d front =>
      simp only [Option.map_eq_some_iff, Prod.exists, Prod.mk.injEq, List.cons.injEq,
        List.cons_append, byteLength_cons]
      constructor
      · rintro ⟨_, _, hsplit, ⟨rfl, rfl⟩, rfl⟩
        obtain ⟨rfl, hlength⟩ := ih.1 hsplit
        exact ⟨⟨rfl, rfl⟩, by omega⟩
      · rintro ⟨⟨rfl, rfl⟩, hlength⟩
        exact ⟨front, behind, ih.2 ⟨rfl, by omega⟩, ⟨rfl, rfl⟩, rfl⟩
  | case4 n c rest hlt =>
    cases front with
    | nil => simp
    | cons d front =>
      simp only [reduceCtorEq, false_iff, List.cons_append, List.cons.injEq, byteLength_cons,
        not_and, and_imp]
      rintro rfl -
      omega

/-- A slice is what stands between two cuts of the text. -/
theorem slice?_eq_some_iff {s text : List Char} {start stop : Nat} :
    slice? s start stop = some text ↔ ∃ front behind, s = front ++ text ++ behind ∧
      byteLength front = start ∧ byteLength (front ++ text) = stop := by
  rw [slice?]
  split
  next hle =>
    simp only [Option.bind_eq_bind, Option.bind_eq_some_iff, Prod.exists, splitBytes?_eq_some_iff,
      Option.some.injEq]
    constructor
    · rintro ⟨front, _, ⟨rfl, rfl⟩, _, behind, ⟨rfl, hlength⟩, rfl⟩
      exact ⟨front, behind, by simp, rfl, by simp; omega⟩
    · rintro ⟨front, behind, rfl, rfl, rfl⟩
      exact ⟨front, text ++ behind, ⟨by simp, rfl⟩, text, behind, ⟨rfl, by simp⟩, rfl⟩
  next hlt =>
    simp only [reduceCtorEq, false_iff, not_exists, not_and]
    rintro front behind - rfl rfl
    simp at hlt

end SketchPreview.Text
