import SketchPreview.CommandLine.Run
import SketchPreview.Proofs.Font.Candidate
import SketchPreview.Proofs.Font.Lookup
import SketchPreview.Storage.Disk

/-!
# The files that sources are asked for

Whatever the sources answer, they are asked for candidates of the names only, and the first source
is asked for the first candidate of every name. The names of a sketch are words, so their files lie
directly in the folder of a source. A recording may select any name; its files lie there just when
no name has a stroke.

* `FontSource.logged`, `asked`: the files that sources are asked for;
* `Logs`: what a computation adds to the log;
* `logs_find`, `logs_findFont`, `logs_resolveName`, `exists_log_resolveAll`: from a source to a list
  of names;
* `isComponent_of_mem_asked_namesIn`: the files of a sketch;
* **`asked_isComponent_iff`**: the files of a recording.
-/

namespace SketchPreview

open Text CommandLine

variable {σ α β : Type}

/-! ## Sources with a log -/

/-- A source that logs the files it is asked for. -/
def FontSource.logged (s : FontSource (StateM σ)) : FontSource (StateM (σ × List String)) where
  label := s.label
  load file w :=
    let answer := (s.load file).run w.1
    (answer.1, (answer.2, w.2 ++ [file]))

/-- The files that sources are asked for while fonts are looked for, in order. -/
def asked (sources : List (FontSource (StateM σ))) (names : List String)
    (explicit : Option BitmapFont) (w : σ) : List String :=
  ((resolveNames (sources.map .logged) .empty names explicit).run (w, [])).2.2

/-- A computation does what another one does, and logs some files besides, all those of `must` and
none but those of `may`. -/
def Logs (must may : List String) (x : StateM (σ × List String) α) (y : StateM σ α) : Prop :=
  ∀ w log, ∃ new, x.run (w, log) = ((y.run w).1, ((y.run w).2, log ++ new)) ∧
    must ⊆ new ∧ new ⊆ may

variable {must may : List String}

theorem logs_pure (a : α) : Logs [] may (σ := σ) (pure a) (pure a) := fun _ log =>
  ⟨[], by rw [List.append_nil]; rfl, List.Subset.refl _, List.nil_subset _⟩

theorem Logs.mono {must' may' : List String} {x : StateM (σ × List String) α} {y : StateM σ α}
    (h : Logs must may x y) (hmust : must' ⊆ must) (hmay : may ⊆ may') : Logs must' may' x y :=
  fun w log =>
    let ⟨new, hrun, hnew, hall⟩ := h w log
    ⟨new, hrun, List.Subset.trans hmust hnew, List.Subset.trans hall hmay⟩

theorem Logs.bind {x : StateM (σ × List String) α} {y : StateM σ α} (h : Logs must may x y)
    {f : α → StateM (σ × List String) β} {g : α → StateM σ β} (hf : ∀ a, Logs [] may (f a) (g a)) :
    Logs must may (x >>= f) (y >>= g) := by
  intro w log
  obtain ⟨new, hrun, hmust, hmay⟩ := h w log
  obtain ⟨more, hrun', -, hmay'⟩ := hf (y.run w).1 (y.run w).2 (log ++ new)
  refine ⟨new ++ more, ?_, List.Subset.trans hmust (List.subset_append_left _ _),
    List.append_subset.2 ⟨hmay, hmay'⟩⟩
  rw [StateT.run_bind, hrun, ← List.append_assoc]
  exact hrun'

/-! ## The search -/

theorem logs_load (s : FontSource (StateM σ)) (file : String) :
    Logs [file] [file] (s.logged.load file) (s.load file) := fun _ _ =>
  ⟨[file], rfl, List.Subset.refl _, List.Subset.refl _⟩

/-- One source is asked for the first of some files at least, by induction on them. -/
theorem logs_find (s : FontSource (StateM σ)) (files : List String) :
    Logs files.head?.toList files (s.logged.find files) (s.find files) := by
  induction files with
  | nil => exact logs_pure _
  | cons file rest ih =>
    have hrest : Logs [] (file :: rest) (s.logged.find rest) (s.find rest) :=
      ih.mono (List.nil_subset _) (List.subset_cons_self _ _)
    refine ((logs_load s file).mono (List.Subset.refl _) (by simp)).bind fun answer => ?_
    match answer with
    | .ok (some text) => exact logs_pure _
    | .ok none => exact hrest
    | .error d => exact hrest.bind fun _ => logs_pure _

theorem logs_findFont (files : List String) (s : FontSource (StateM σ))
    (rest : List (FontSource (StateM σ))) :
    Logs files.head?.toList files (findFont files ((s :: rest).map .logged))
      (findFont files (s :: rest)) := by
  induction rest generalizing s with
  | nil =>
    refine (logs_find s files).bind fun found => ?_
    match found with
    | (ds, some f) => exact logs_pure _
    | (ds, none) => exact logs_pure _
  | cons s' rest ih =>
    refine (logs_find s files).bind fun found => ?_
    match found with
    | (ds, some f) => exact logs_pure _
    | (ds, none) =>
      exact ((ih s').mono (List.nil_subset _) (List.Subset.refl _)).bind fun _ => logs_pure _

/-! ## Names -/

variable {s : FontSource (StateM σ)} {rest : List (FontSource (StateM σ))}

theorem logs_resolveName {cache : FontCache} {name : String} (h : ¬cache.Knows name)
    (r : Resolution) :
    Logs (Font.candidates name).head?.toList (Font.candidates name)
      (resolveName ((s :: rest).map .logged) cache r name)
      (resolveName (s :: rest) cache r name) := by
  rw [resolveName_of_not_knows h, resolveName_of_not_knows h]
  exact (logs_findFont _ s rest).bind fun _ => logs_pure _

theorem knows_resolveName {sources : List (FontSource (StateM σ))} {cache : FontCache}
    {r : Resolution} {name other : String} {w : σ} (hname : ¬cache.Knows name)
    (h : ((resolveName sources cache r name).run w).1.1.Knows other) :
    other = name ∨ cache.Knows other := by
  rw [resolveName_of_not_knows hname] at h
  exact knows_remember h

/-- **A list of names**, by induction on it: the files are candidates of the names, and among them
is the first one of each name that is not known. -/
theorem exists_log_resolveAll (cache : FontCache) (r : Resolution) (names : List String) (w : σ)
    (log : List String) :
    let result := (resolveAll (s :: rest) cache r names).run w
    ∃ new, (resolveAll ((s :: rest).map .logged) cache r names).run (w, log) =
        (result.1, (result.2, log ++ new)) ∧
      (∀ file ∈ new, ∃ name ∈ names, file ∈ Font.candidates name) ∧
      ∀ name ∈ names, cache.Knows name ∨ (Font.candidates name).head?.toList ⊆ new := by
  induction names generalizing cache r w log with
  | nil => exact ⟨[], by rw [List.append_nil]; rfl, by simp, by simp⟩
  | cons name names ih =>
    by_cases hknown : cache.Knows name
    · obtain ⟨r', hr'⟩ := exists_resolveName_of_knows hknown r
      obtain ⟨new, hrun, hmay, hmust⟩ := ih cache r' w log
      refine ⟨new, ?_, fun file hfile => ?_, List.forall_mem_cons.2 ⟨.inl hknown, hmust⟩⟩
      · rw [resolveAll, resolveAll, hr', hr']
        exact hrun
      · obtain ⟨name', hname', hfile⟩ := hmay file hfile
        exact ⟨name', List.mem_cons_of_mem _ hname', hfile⟩
    · obtain ⟨first, hfirst, hmust₁, hmay₁⟩ := logs_resolveName hknown r w log
      obtain ⟨new, hrun, hmay, hmust⟩ := ih _ _ _ (log ++ first)
      refine ⟨first ++ new, ?_, fun file hfile => ?_, fun name' hname' => ?_⟩
      · rw [resolveAll, StateT.run_bind, hfirst, ← List.append_assoc]
        exact hrun
      · rcases List.mem_append.1 hfile with hfile | hfile
        · exact ⟨name, List.mem_cons_self, hmay₁ hfile⟩
        · obtain ⟨name', hname', hfile⟩ := hmay file hfile
          exact ⟨name', List.mem_cons_of_mem _ hname', hfile⟩
      · have hfound : (Font.candidates name).head?.toList ⊆ first ++ new :=
          List.Subset.trans hmust₁ (List.subset_append_left _ _)
        rcases List.mem_cons.1 hname' with rfl | hname'
        · exact .inr hfound
        rcases hmust name' hname' with hknown' | hnew
        · rcases knows_resolveName hknown hknown' with rfl | hknown'
          · exact .inr hfound
          · exact .inl hknown'
        · exact .inr (List.Subset.trans hnew (List.subset_append_right _ _))

/-! ## Names of a sketch -/

namespace Font

theorem isWordChar_of_argument? {s name : List Char} (h : argument? s = some name) {c : Char}
    (hc : c ∈ name) : isWordChar c = true := by
  unfold argument? at h
  split at h
  · dsimp only at h
    split at h
    · obtain rfl := Option.some.inj h
      exact List.all_eq_true.1 List.all_takeWhile c hc
    · cases h
  · cases h

theorem isWordChar_of_mem_selections {s name : List Char} (h : name ∈ selections s) {c : Char}
    (hc : c ∈ name) : isWordChar c = true := by
  induction s with
  | nil => cases h
  | cons first rest ih =>
    rw [selections] at h
    split at h
    · next found hfound =>
      rcases List.mem_cons.1 h with rfl | h
      · obtain ⟨_, -, hargument⟩ := Option.bind_eq_some_iff.1 hfound
        exact isWordChar_of_argument? hargument hc
      · exact ih h
    · exact ih h

theorem isWordChar_of_mem_namesIn {source name : String} (h : name ∈ namesIn source) {c : Char}
    (hc : c ∈ name.toList) : isWordChar c = true := by
  obtain ⟨selected, hselected, rfl⟩ := List.mem_map.1 h
  rw [String.toList_ofList] at hc
  exact isWordChar_of_mem_selections (List.mem_eraseDups.1 hselected) hc

end Font

/-! ## Where the files lie -/

theorem asked_spec (names : List String) (explicit : Option BitmapFont) (w : σ) :
    (∀ file ∈ asked (s :: rest) names explicit w, ∃ name ∈ names, file ∈ Font.candidates name) ∧
      ∀ name ∈ names, (Font.candidates name).head?.toList ⊆
        asked (s :: rest) names explicit w := by
  obtain ⟨new, hrun, hmay, hmust⟩ :=
    @exists_log_resolveAll σ s rest .empty .empty names w []
  have hasked : asked (s :: rest) names explicit w = new := by
    rw [asked, resolveNames, StateT.run_bind, hrun]
    rfl
  rw [hasked]
  refine ⟨hmay, fun name hname => (hmust name hname).resolve_left (not_knows_empty name)⟩

theorem isComponent_of_mem_asked {names : List String} (hnames : ∀ name ∈ names, '/' ∉ name.toList)
    {explicit : Option BitmapFont} {w : σ} {file : String}
    (h : file ∈ asked (s :: rest) names explicit w) : FilePath.IsComponent file := by
  obtain ⟨name, hname, hfile⟩ := (asked_spec names explicit w).1 file h
  exact Font.isComponent_of_mem_candidates hfile (hnames name hname)

/-- **The files of a sketch** lie directly in every folder, since its names are words. -/
theorem isComponent_of_mem_asked_namesIn {source : String} {explicit : Option BitmapFont} {w : σ}
    {file : String} (h : file ∈ asked (s :: rest) (Font.namesIn source) explicit w) :
    FilePath.IsComponent file :=
  isComponent_of_mem_asked (fun _ hname hstroke =>
    absurd (Font.isWordChar_of_mem_namesIn hname hstroke) (by decide)) h

/-- **The files of a recording** lie directly in every folder just when no name that it selects has
a stroke. -/
theorem asked_isComponent_iff (s : FontSource (StateM σ)) (rest : List (FontSource (StateM σ)))
    (operations : List Operation) (explicit : Option BitmapFont) (w : σ) :
    (∀ file ∈ asked (s :: rest) (selectedFonts operations) explicit w,
        FilePath.IsComponent file ∧ ∀ folder,
          FilePath.steps (FilePath.join folder file) = FilePath.steps folder ++ [file]) ↔
      ∀ name ∈ selectedFonts operations, '/' ∉ name.toList := by
  constructor
  · intro h name hname hstroke
    obtain ⟨file, hfile, hfileStroke⟩ := Font.stroke_mem_of_head?_candidates hstroke
    have hasked : file ∈ asked (s :: rest) (selectedFonts operations) explicit w :=
      (asked_spec _ explicit w).2 name hname (by simp [hfile])
    exact (h file hasked).1.stroke hfileStroke
  · intro h file hfile
    have hcomponent := isComponent_of_mem_asked h hfile
    exact ⟨hcomponent, fun folder => FilePath.steps_join folder hcomponent⟩

/-- A disk with a folder for fonts, and a font beside it. -/
def diskWithFontBeside : Disk :=
  ((Disk.empty 0).put ["fonts"] .folder).putFile ["x.bdf"] "STARTFONT 2.1".toUTF8

/-- A name of a recording that leads out of the folder, so that the font beside it is taken. -/
theorem asked_beside_folder :
    let sources : List (FontSource (StateM Disk)) := [directorySource Disk.fileSystem "fonts"]
    let names := selectedFonts [.setFont "u8g2_font_../x"]
    asked sources names none diskWithFontBeside = ["../x.bdf"] ∧
      ¬FilePath.IsComponent "../x.bdf" ∧
      diskWithFontBeside.locate (FilePath.join "fonts" "../x.bdf") = .ok ["x.bdf"] ∧
      ((resolveNames sources .empty names none).run diskWithFontBeside).1.2.notes =
        ["cache ../x.bdf -> u8g2_font_../x"] := by
  refine ⟨rfl, fun h => ?_, rfl, rfl⟩
  exact absurd h.stroke (by decide)

end SketchPreview
