/-!
# Nesting

Parentheses and commas count only outside quoted text. While a line is read from left to right, a
`Nesting` remembers how many parentheses are open, which quote is open, and whether the character
before was a backslash: a quote right after a backslash does not end the text it stands in.

* `Nesting`, `Nesting.step`, `Nesting.isTop`;
* `closing?`: the text up to the parenthesis that closes an open one, and what follows;
* `topPieces`: the pieces of a text between the commas outside parentheses and quotes.
-/

namespace SketchPreview.Call

/-- How deep a place in a text lies. The depth is counted without bound; a text has to have `2 ^ 31`
parentheses of a kind before it leaves 32 bits. -/
structure Nesting where
  depth : Int
  quote : Option Char
  afterBackslash : Bool
  deriving DecidableEq, Repr

namespace Nesting

/-- Outside everything. -/
def start : Nesting := ⟨0, none, false⟩

/-- Inside one parenthesis. -/
def inside : Nesting := ⟨1, none, false⟩

/-- Whether a place lies outside all parentheses and quotes. -/
def isTop (n : Nesting) : Bool := n.depth == 0 && n.quote.isNone

/-- The nesting after one more character. -/
def step (n : Nesting) (c : Char) : Nesting :=
  let afterBackslash := c == '\\'
  match n.quote with
  | some q => ⟨n.depth, if c = q ∧ ¬n.afterBackslash then none else some q, afterBackslash⟩
  | none =>
    if c = '"' ∨ c = '\'' then ⟨n.depth, some c, afterBackslash⟩
    else if c = '(' then ⟨n.depth + 1, none, afterBackslash⟩
    else if c = ')' then ⟨n.depth - 1, none, afterBackslash⟩
    else ⟨n.depth, none, afterBackslash⟩

end Nesting

/-- The text up to the first character after which everything is closed, without that character,
and the text after it. -/
def closing? (n : Nesting) : List Char → Option (List Char × List Char)
  | [] => none
  | c :: rest =>
    if (n.step c).isTop then some ([], rest)
    else (closing? (n.step c) rest).map fun p => (c :: p.1, p.2)

/-- The pieces of a text between the commas that lie outside parentheses and quotes; the text begins
at nesting `n`. -/
def topPieces (n : Nesting) : List Char → List (List Char)
  | [] => [[]]
  | c :: rest =>
    if c = ',' ∧ n.isTop then [] :: topPieces (n.step c) rest
    else
      match topPieces (n.step c) rest with
      | [] => [[c]]
      | p :: ps => (c :: p) :: ps

theorem closing?_length {n : Nesting} {s inner rest : List Char}
    (h : closing? n s = some (inner, rest)) : inner.length + 1 + rest.length = s.length := by
  induction s generalizing n inner rest with
  | nil => simp [closing?] at h
  | cons c s ih =>
    unfold closing? at h
    split at h
    · cases h; simp; omega
    · obtain ⟨p, hp, he⟩ := Option.map_eq_some_iff.1 h
      cases he
      have := ih hp
      simp; omega

end SketchPreview.Call
