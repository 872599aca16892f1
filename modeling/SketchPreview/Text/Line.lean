/-!
# Lines

A text is cut at its newlines; a carriage return just before a cut or the end belongs to the line
ending. There is always at least one line, and a text that ends in a newline has an empty last one.

* `pieces sep`: the pieces of a text between separators;
* `lines`: the pieces between newlines without their line endings;
* `length_pieces`: there is one piece more than there are separators.
-/

namespace SketchPreview.Text

/-- Puts a character in front of the first piece. -/
def consHead (c : Char) : List (List Char) → List (List Char)
  | [] => [[c]]
  | p :: rest => (c :: p) :: rest

/-- The pieces of a text between occurrences of `sep`. -/
def pieces (sep : Char) : List Char → List (List Char)
  | [] => [[]]
  | c :: rest => if c = sep then [] :: pieces sep rest else consHead c (pieces sep rest)

/-- Drops one carriage return at the end. -/
def dropReturn (line : List Char) : List Char :=
  if line.getLast? = some '\r' then line.dropLast else line

/-- The lines of a text. -/
def lines (s : List Char) : List (List Char) := (pieces '\n' s).map dropReturn

theorem pieces_ne_nil (sep : Char) (s : List Char) : pieces sep s ≠ [] := by
  cases s with
  | nil => simp [pieces]
  | cons c rest =>
    unfold pieces
    split
    · simp
    · cases pieces sep rest <;> simp [consHead]

theorem length_consHead {c : Char} {ps : List (List Char)} (h : ps ≠ []) :
    (consHead c ps).length = ps.length := by
  cases ps with
  | nil => exact absurd rfl h
  | cons p rest => rfl

theorem length_pieces (sep : Char) (s : List Char) :
    (pieces sep s).length = s.count sep + 1 := by
  induction s with
  | nil => rfl
  | cons c rest ih =>
    unfold pieces
    split
    · next h => subst h; simp [ih]
    · next h => rw [length_consHead (pieces_ne_nil _ _), ih, List.count_cons_of_ne h]

end SketchPreview.Text
