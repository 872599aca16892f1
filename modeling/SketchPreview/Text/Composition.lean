import SketchPreview.Text.Composition.Table

/-!
# Composed text

A letter with marks can be one character or several. The composed form of a text, which is its
normalization form C, takes every character apart, orders the marks behind each letter and puts
together what has a character of its own.

* `decompose`: the parts of a character;
* `orderMarks`: a text with its marks in order; `orderMarks_perm`: it holds the same characters;
* `compose`: a text put together;
* `composed`: the composed form of a text.
-/

namespace SketchPreview.Text

/-! ## Syllables of Hangul -/

/-- The number of vowels of Hangul. -/
def vowelCount : Nat := 21

/-- The number of ways for a syllable of Hangul to end. -/
def endingCount : Nat := 28

/-- The code point of the first syllable of Hangul. -/
def syllableStart : Nat := 0xAC00

/-- The code point of the last syllable of Hangul. -/
def syllableEnd : Nat := 0xD7A3

/-- The code point of the first consonant of Hangul. -/
def consonantStart : Nat := 0x1100

/-- The number of consonants that begin a syllable of Hangul. -/
def consonantCount : Nat := 19

/-- The code point of the first vowel of Hangul. -/
def vowelStart : Nat := 0x1161

/-- The code point in front of the first consonant that ends a syllable of Hangul. -/
def endingStart : Nat := 0x11A7

/-- The number of a syllable of Hangul. -/
def syllable? (c : Char) : Option Nat :=
  if syllableStart ≤ c.toNat ∧ c.toNat ≤ syllableEnd then some (c.toNat - syllableStart) else none

/-- The letters of a syllable of Hangul, given its number. -/
def syllableLetters (n : Nat) : List Char :=
  let ending := n % endingCount
  [Char.ofNat (consonantStart + n / endingCount / vowelCount),
    Char.ofNat (vowelStart + n / endingCount % vowelCount)] ++
    if ending = 0 then [] else [Char.ofNat (endingStart + ending)]

/-- The syllable of Hangul that a consonant and a vowel make, or a syllable without an ending and an
ending. -/
def syllableOf? (a b : Char) : Option Char :=
  if consonantStart ≤ a.toNat ∧ a.toNat < consonantStart + consonantCount ∧
      vowelStart ≤ b.toNat ∧ b.toNat < vowelStart + vowelCount then
    some (Char.ofNat (syllableStart +
      ((a.toNat - consonantStart) * vowelCount + (b.toNat - vowelStart)) * endingCount))
  else
    match syllable? a with
    | some n =>
      if n % endingCount = 0 ∧ endingStart < b.toNat ∧ b.toNat < endingStart + endingCount then
        some (Char.ofNat (a.toNat + (b.toNat - endingStart)))
      else none
    | none => none

/-! ## Taking apart -/

/-- The code point of the first composed character. -/
def firstComposed : Nat := 0xC0

/-- The number of steps after which every character has been taken apart. -/
def deepest : Nat := 3

/-- A text after a number of steps of taking its characters apart. -/
def decomposeSteps : Nat → List Char → List Char
  | 0, s => s
  | n + 1, s => decomposeSteps n (s.flatMap fun c => (rowForm? decompositionRows c).getD [c])

/-- The parts of a character. -/
def decompose (c : Char) : List Char :=
  match syllable? c with
  | some n => syllableLetters n
  | none => if c.toNat < firstComposed then [c] else decomposeSteps deepest [c]

/-! ## Ordering marks -/

/-- The code point of the first mark. -/
def firstMark : Nat := 0x300

/-- The combining class of a character, which is zero for one that no mark may pass. -/
def combiningClass (c : Char) : Nat :=
  if c.toNat < firstMark then 0
  else
    match combiningClasses.find? fun r => r.first ≤ c.toNat && c.toNat ≤ r.last with
    | some r => r.rank
    | none => 0

/-- Puts a character in front of a text in order. A mark passes those of lower classes. -/
def insertMark (c : Char) : List Char → List Char
  | [] => [c]
  | d :: rest =>
    if 0 < combiningClass d ∧ combiningClass d < combiningClass c then d :: insertMark c rest
    else c :: d :: rest

/-- A text in which the marks behind each letter are in the order of their classes. -/
def orderMarks (s : List Char) : List Char := s.foldr insertMark []

theorem insertMark_perm (c : Char) (s : List Char) : (insertMark c s).Perm (c :: s) := by
  induction s with
  | nil => exact .refl _
  | cons d rest ih =>
    unfold insertMark
    split
    · exact (ih.cons d).trans (.swap c d rest)
    · exact .refl _

theorem orderMarks_perm (s : List Char) : (orderMarks s).Perm s := by
  induction s with
  | nil => exact .refl _
  | cons c rest ih => exact (insertMark_perm c _).trans (ih.cons c)

/-! ## Putting together -/

/-- The characters with two parts that become them again, each with its parts. -/
def compositions : List (List Char × Char) :=
  decompositionRows.flatMap fun row =>
    ((pieces ' ' row.forms.toList).zipIdx row.first).filterMap fun (parts, n) =>
      if parts.length = 2 && !inRanges uncomposedRanges (Char.ofNat n) then
        some (parts, Char.ofNat n)
      else none

/-- The character that two others make. No character in front of the marks is a second part. -/
def compose? (a b : Char) : Option Char :=
  if b.toNat < firstMark then none
  else (syllableOf? a b).or ((compositions.find? (·.1 == [a, b])).map (·.2))

/-- Puts the rest of a text together behind a letter. The marks that the letter did not take are
given backwards; one of them bars the letter from marks of its class and of lower ones. -/
def composeBehind (letter : Char) (marks : List Char) : List Char → List Char
  | [] => letter :: marks.reverse
  | c :: rest =>
    let isBarred := marks.head?.any fun m => combiningClass c ≤ combiningClass m
    match if isBarred then none else compose? letter c with
    | some whole => composeBehind whole marks rest
    | none =>
      if combiningClass c = 0 then letter :: marks.reverse ++ composeBehind c [] rest
      else composeBehind letter (c :: marks) rest

/-- A text in order with every letter and its marks put together. Marks at the beginning stay. -/
def compose : List Char → List Char
  | [] => []
  | c :: rest => if combiningClass c = 0 then composeBehind c [] rest else c :: compose rest

/-- The composed form of a text. -/
def composed (s : List Char) : List Char := compose (orderMarks (s.flatMap decompose))

end SketchPreview.Text
