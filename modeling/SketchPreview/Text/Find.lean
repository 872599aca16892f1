/-!
# Searching in text

* `dropPrefix?`: what follows a given beginning;
* `before?`: the text in front of the first occurrence of a word;
* `cutAt?`: the text in front of the first occurrence of a word and what follows it.
-/

namespace SketchPreview.Text

/-- What follows the beginning `word` of a text. -/
def dropPrefix? : List Char → List Char → Option (List Char)
  | [], s => some s
  | _ :: _, [] => none
  | w :: word, c :: rest => if w = c then dropPrefix? word rest else none

/-- Whether a text begins with `word`. -/
def startsWith (s word : List Char) : Bool := (dropPrefix? word s).isSome

/-- The text in front of the first occurrence of `word` and the text after it. -/
def cutAt? (word : List Char) : List Char → Option (List Char × List Char)
  | [] => (dropPrefix? word []).map fun rest => ([], rest)
  | c :: rest =>
    match dropPrefix? word (c :: rest) with
    | some after => some ([], after)
    | none => (cutAt? word rest).map fun p => (c :: p.1, p.2)

/-- The text in front of the first occurrence of `word`. -/
def before? (word s : List Char) : Option (List Char) := (cutAt? word s).map (·.1)

theorem dropPrefix?_eq_some_iff {word s rest : List Char} :
    dropPrefix? word s = some rest ↔ s = word ++ rest := by
  induction word generalizing s with
  | nil => simp [dropPrefix?, eq_comm]
  | cons w word ih =>
    cases s with
    | nil => simp [dropPrefix?]
    | cons c s =>
      unfold dropPrefix?
      split
      · next h => subst h; simp [ih]
      · next h => simp [Ne.symm h]

theorem cutAt?_append {word s pre rest : List Char} (h : cutAt? word s = some (pre, rest)) :
    s = pre ++ word ++ rest := by
  induction s generalizing pre rest with
  | nil =>
    obtain ⟨after, hd, he⟩ := Option.map_eq_some_iff.1 h
    cases he
    simpa using dropPrefix?_eq_some_iff.1 hd
  | cons c s ih =>
    unfold cutAt? at h
    split at h
    · next after hd =>
      cases h
      simpa using dropPrefix?_eq_some_iff.1 hd
    · obtain ⟨p, hp, he⟩ := Option.map_eq_some_iff.1 h
      cases he
      simp [ih hp]

end SketchPreview.Text
