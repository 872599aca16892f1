import Mathlib.Data.List.Forall2
import SketchPreview.Font.Resolver

/-!
# Sources with steady answers

A source may do what it likes to the world when it is asked for a file. It is *steady* when its
answer does not depend on that: a `Shelf` lists what it says about each file.

* `Gives`: a computation whose result is known, whatever it does to the world;
* `Shelf`, `FontSource.Steady`: what a source always answers;
* `places`, `search`: the files in the order in which they are looked for, the first of them that
  can be had, and the problems before it;
* **`gives_findFont`**: looking for a file in steady sources gives exactly that.
-/

namespace SketchPreview

/-! ## Computations with a known result -/

section Gives

variable {σ α β : Type} {I : σ → Prop}

/-- In every world that satisfies `I`, a computation gives `a` and keeps `I`. -/
def Gives (I : σ → Prop) (x : StateM σ α) (a : α) : Prop :=
  ∀ w, I w → (x.run w).1 = a ∧ I (x.run w).2

theorem Gives.fst {x : StateM σ α} {a : α} (h : Gives I x a) {w : σ} (hw : I w) :
    (x.run w).1 = a :=
  (h w hw).1

theorem Gives.snd {x : StateM σ α} {a : α} (h : Gives I x a) {w : σ} (hw : I w) :
    I (x.run w).2 :=
  (h w hw).2

theorem gives_pure (a : α) : Gives I (pure a) a := fun _ hw => ⟨rfl, hw⟩

theorem Gives.run_bind {x : StateM σ α} {a : α} (h : Gives I x a) (f : α → StateM σ β) {w : σ}
    (hw : I w) : (x >>= f).run w = (f a).run (x.run w).2 := by
  rw [← h.fst hw]
  rfl

theorem Gives.bind {x : StateM σ α} {a : α} (h : Gives I x a) {f : α → StateM σ β} {b : β}
    (hf : Gives I (f a) b) : Gives I (x >>= f) b := by
  intro w hw
  rw [h.run_bind f hw]
  exact hf _ (h.snd hw)

end Gives

/-! ## Shelves -/

/-- What a source says about each file. -/
structure Shelf where
  label : String
  answer : String → Except Diagnostic (Option String)

/-- A file of a shelf, if its text can be had. -/
def Shelf.file? (s : Shelf) (file : String) : Option FontFile :=
  match s.answer file with
  | .ok (some text) => some ⟨s.label, file, text⟩
  | _ => none

/-- What a shelf reports of a file that it could not look for. -/
def Shelf.problem? (s : Shelf) (file : String) : Option Diagnostic :=
  match s.answer file with
  | .error d => some d
  | .ok _ => none

/-- A source that always answers as a shelf says, in the worlds that satisfy `I`. -/
structure FontSource.Steady {σ : Type} (I : σ → Prop) (s : FontSource (StateM σ)) (shelf : Shelf) :
    Prop where
  label : s.label = shelf.label
  load (file : String) : Gives I (s.load file) (shelf.answer file)

/-! ## The search -/

/-- Where files are looked for: all of them on the first shelf, then all on the next one. -/
def places (shelves : List Shelf) (files : List String) : List (Shelf × String) :=
  shelves.flatMap fun s => files.map fun file => (s, file)

/-- The first file of some places that can be had. -/
def firstFile? (ps : List (Shelf × String)) : Option FontFile :=
  ps.findSome? fun p => p.1.file? p.2

/-- The problems at the places before the first file that can be had. -/
def problemsBefore (ps : List (Shelf × String)) : List Diagnostic :=
  (ps.takeWhile fun p => (p.1.file? p.2).isNone).filterMap fun p => p.1.problem? p.2

/-- A search through some places: the problems on the way, and the file that it ends at. -/
def search (ps : List (Shelf × String)) : List Diagnostic × Option FontFile :=
  (problemsBefore ps, firstFile? ps)

theorem search_cons_file {s : Shelf} {file text : String} (h : s.answer file = .ok (some text))
    (ps : List (Shelf × String)) : search ((s, file) :: ps) = ([], some ⟨s.label, file, text⟩) := by
  simp [search, problemsBefore, firstFile?, Shelf.file?, h]

theorem search_cons_none {s : Shelf} {file : String} (h : s.answer file = .ok none)
    (ps : List (Shelf × String)) : search ((s, file) :: ps) = search ps := by
  simp [search, problemsBefore, firstFile?, Shelf.file?, Shelf.problem?, h]

theorem search_cons_error {s : Shelf} {file : String} {d : Diagnostic}
    (h : s.answer file = .error d) (ps : List (Shelf × String)) :
    search ((s, file) :: ps) = (d :: (search ps).1, (search ps).2) := by
  simp [search, problemsBefore, firstFile?, Shelf.file?, Shelf.problem?, h]

theorem search_append (ps qs : List (Shelf × String)) :
    search (ps ++ qs) =
      if (search ps).2.isSome then search ps
      else ((search ps).1 ++ (search qs).1, (search qs).2) := by
  induction ps with
  | nil => simp [search, problemsBefore, firstFile?]
  | cons p ps ih =>
    obtain ⟨s, file⟩ := p
    rw [List.cons_append]
    match h : s.answer file with
    | .ok (some text) => simp [search_cons_file h]
    | .ok none => rw [search_cons_none h, search_cons_none h, ih]
    | .error d =>
      rw [search_cons_error h, search_cons_error h, ih]
      split <;> simp

section Steady

variable {σ : Type} {I : σ → Prop}

theorem gives_find {s : FontSource (StateM σ)} {shelf : Shelf} (hs : s.Steady I shelf)
    (files : List String) :
    Gives I (s.find files) (search (files.map fun file => (shelf, file))) := by
  induction files with
  | nil => exact gives_pure _
  | cons file rest ih =>
    refine (hs.load file).bind ?_
    rw [List.map_cons]
    match h : shelf.answer file with
    | .ok (some text) =>
      rw [search_cons_file h, ← hs.label]
      exact gives_pure _
    | .ok none =>
      rw [search_cons_none h]
      exact ih
    | .error d =>
      rw [search_cons_error h]
      exact ih.bind (gives_pure _)

/-- **A search of steady sources**, by induction on them. -/
theorem gives_findFont {sources : List (FontSource (StateM σ))} {shelves : List Shelf}
    (h : List.Forall₂ (FontSource.Steady I) sources shelves) (files : List String) :
    Gives I (findFont files sources) (search (places shelves files)) := by
  induction h with
  | nil => exact gives_pure _
  | @cons s shelf sources shelves hs hrest ih =>
    refine (gives_find hs files).bind ?_
    rw [places, List.flatMap_cons, search_append, ← places]
    match hfound : search (files.map fun file => (shelf, file)) with
    | (ds, some f) => exact gives_pure _
    | (ds, none) => exact ih.bind (gives_pure _)

end Steady

end SketchPreview
