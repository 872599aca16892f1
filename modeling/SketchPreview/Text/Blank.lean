/-!
# Blank characters and trimming

A character is *blank* when it has the Unicode property `White_Space`. Text is handled as a list of
characters.

* `isBlank`; `isBlank_of_isWhitespace`: the ASCII whitespace of the core library is blank;
* `trimStart`, `trimEnd`, `trim`: drop blanks at the ends;
* `word?`: the words between blanks, counted from zero.
-/

namespace SketchPreview.Text

/-- The ranges of code points with the Unicode property `White_Space`, both ends included. -/
def blankRanges : List (Nat × Nat) :=
  [(0x09, 0x0D), (0x20, 0x20), (0x85, 0x85), (0xA0, 0xA0), (0x1680, 0x1680), (0x2000, 0x200A),
    (0x2028, 0x2029), (0x202F, 0x202F), (0x205F, 0x205F), (0x3000, 0x3000)]

/-- Whether a character has the Unicode property `White_Space`. -/
def isBlank (c : Char) : Bool := blankRanges.any fun r => r.1 ≤ c.toNat && c.toNat ≤ r.2

/-- Drops the blanks in front. -/
def trimStart (s : List Char) : List Char := s.dropWhile isBlank

/-- Drops the blanks at the end. -/
def trimEnd (s : List Char) : List Char := (s.reverse.dropWhile isBlank).reverse

/-- Drops the blanks at both ends. -/
def trim (s : List Char) : List Char := trimEnd (trimStart s)

/-- The `n`-th word of a text, where words are the runs between blanks. -/
def word? : Nat → List Char → Option (List Char)
  | 0, s =>
    match trimStart s with
    | [] => none
    | c :: rest => some (c :: rest.takeWhile (!isBlank ·))
  | n + 1, s => word? n ((trimStart s).dropWhile (!isBlank ·))

theorem isBlank_of_isWhitespace {c : Char} (h : c.isWhitespace) : isBlank c := by
  simp only [Char.isWhitespace, Bool.or_eq_true, decide_eq_true_eq] at h
  rcases h with ((rfl | rfl) | rfl) | rfl <;> decide

theorem trimStart_nil : trimStart [] = [] := rfl

theorem trim_nil : trim [] = [] := rfl

theorem length_trimStart_le (s : List Char) : (trimStart s).length ≤ s.length :=
  (List.dropWhile_sublist _).length_le

end SketchPreview.Text
