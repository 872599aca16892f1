import SketchPreview.Proofs.Storage.Disk

/-!
# What the listing of a folder tells

A place on a disk is named step by step, and every operation keeps it so. Therefore the listing of a
folder tells where its files stand: one step below the folder, each by a path of its own.

* `Named`: disks whose places are named step by step;
* `named_empty`, `Named.write`, `Named.createFolders`, `Named.remove`: the disks there are;
* `mem_files_iff`, `nodup_files`: what a listing tells;
* `place_of_entry_join`, **`node?_of_mem_files`**: where the path of a file leads.
-/

namespace SketchPreview

namespace FilePath

theorem not_mem_of_mem_steps {path name : String} (h : name ∈ steps path) :
    '/' ∉ name.toList ∧ name ≠ "" := by
  obtain ⟨p, hp, rfl⟩ := List.mem_map.1 h
  obtain ⟨hp, hne⟩ := List.mem_filter.1 hp
  rw [String.toList_ofList]
  refine ⟨Text.not_mem_of_mem_pieces hp, fun hempty => of_decide_eq_true hne ?_⟩
  rw [← String.toList_ofList (l := p), hempty]
  rfl

theorem mem_steps_of_mem_components {path name : String} (h : name ∈ components path) :
    name ∈ steps path := by
  rw [components] at h
  split at h
  · cases h
  · next first rest hsteps =>
    rw [hsteps]
    rcases List.mem_append.1 h with h | h
    · split at h
      · cases h
      · rw [List.mem_singleton.1 h]
        exact List.mem_cons_self
    · exact List.mem_cons_of_mem _ (List.mem_filter.1 h).1

theorem mem_steps_of_mem_parents {path name : String} {names : List String}
    (h : names ∈ parents path) (hname : name ∈ names) : name ∈ steps path := by
  obtain ⟨n, -, rfl⟩ := List.mem_map.1 h
  exact mem_steps_of_mem_components (List.dropLast_subset _ (List.take_subset _ _ hname))

end FilePath

namespace Disk

open FilePath

variable {d d' : Disk} {folder : String} {place : List String}

/-! ## Places that are named -/

/-- Each step of each place is a name of something in a folder. -/
structure Named (d : Disk) : Prop where
  current : ∀ name ∈ d.current, IsComponent name
  ne_nil : ∀ e ∈ d.nodes.entries, e.1 ≠ []
  component : ∀ e ∈ d.nodes.entries, ∀ name ∈ e.1, IsComponent name

instance (d : Disk) : Decidable d.Named :=
  decidable_of_iff ((∀ name ∈ d.current, IsComponent name) ∧ (∀ e ∈ d.nodes.entries, e.1 ≠ []) ∧
      ∀ e ∈ d.nodes.entries, ∀ name ∈ e.1, IsComponent name)
    ⟨fun ⟨h, h', h''⟩ => ⟨h, h', h''⟩, fun h => ⟨h.current, h.ne_nil, h.component⟩⟩

theorem named_empty (clock : Int) : (empty clock).Named where
  current _ h := absurd h List.not_mem_nil
  ne_nil _ h := absurd h List.not_mem_nil
  component _ h := absurd h List.not_mem_nil

theorem isComponent_of_step {next : List String} {name : String}
    (hplace : ∀ x ∈ place, IsComponent x) (hname : '/' ∉ name.toList ∧ name ≠ "")
    (h : step place name = .ok next) : ∀ x ∈ next, IsComponent x := by
  by_cases hpoint : name = "."
  · rw [step, if_pos hpoint] at h
    cases h
    exact hplace
  by_cases hpoints : name = ".."
  · rw [step, if_neg hpoint, if_pos hpoints] at h
    cases h
    exact fun x hx => hplace x (List.dropLast_subset place hx)
  · have hcomponent : IsComponent name := ⟨hname.1, hname.2, hpoint, hpoints⟩
    rw [step_of_isComponent hcomponent h]
    exact List.forall_mem_append.2 ⟨hplace, List.forall_mem_singleton.2 hcomponent⟩

theorem isComponent_of_start {path : String} (hplace : ∀ x ∈ place, IsComponent x) :
    ∀ x ∈ start place path, IsComponent x := by
  rw [start]
  split
  · exact fun x hx => absurd hx List.not_mem_nil
  · exact hplace

theorem isComponent_of_leads {follow : Bool} {n : Nat} {names q : List String}
    (h : d.Leads follow n place names q) (hplace : ∀ x ∈ place, IsComponent x)
    (hnames : ∀ name ∈ names, '/' ∉ name.toList ∧ name ≠ "") : ∀ x ∈ q, IsComponent x := by
  induction h with
  | stay => exact hplace
  | last hstep _ => exact isComponent_of_step hplace (hnames _ List.mem_cons_self) hstep
  | folder hstep _ _ _ ih =>
    obtain ⟨hname, hrest⟩ := List.forall_mem_cons.1 hnames
    exact ih (isComponent_of_step hplace hname hstep) hrest
  | link hstep _ _ _ ih =>
    obtain ⟨hname, hrest⟩ := List.forall_mem_cons.1 hnames
    refine ih (isComponent_of_start hplace) (List.forall_mem_append.2 ⟨?_, hrest⟩)
    exact fun _ => not_mem_of_mem_steps

namespace Named

theorem origin (hd : d.Named) (path : String) : ∀ x ∈ d.origin path, IsComponent x :=
  isComponent_of_start hd.current

theorem find (hd : d.Named) {follow : Bool} {path : String} (h : d.find follow path = .ok place) :
    ∀ x ∈ place, IsComponent x := by
  obtain ⟨-, -, hleads⟩ := find_eq_ok.1 h
  exact isComponent_of_leads hleads (hd.origin path) fun _ => not_mem_of_mem_steps

theorem put (hd : d.Named) (hne : place ≠ []) (hplace : ∀ x ∈ place, IsComponent x) (node : Node) :
    (d.put place node).Named := by
  have hentries : ∀ e ∈ (d.nodes.insert place node).entries, e.1 = place ∨ e ∈ d.nodes.entries := by
    rintro ⟨q, node'⟩ he
    rw [← SortedMap.get?_eq_some_iff, SortedMap.get?_insert] at he
    split at he
    · next hq => exact .inl (beq_iff_eq.1 hq)
    · exact .inr (SortedMap.get?_eq_some_iff.1 he)
  refine ⟨hd.current, fun e he => ?_, fun e he => ?_⟩
  · rcases hentries e he with h | h
    · exact h ▸ hne
    · exact hd.ne_nil e h
  · rcases hentries e he with h | h
    · exact h ▸ hplace
    · exact hd.component e h

theorem of_entries_subset (hd : d.Named) (hcurrent : d'.current = d.current)
    (h : d'.nodes.entries ⊆ d.nodes.entries) : d'.Named :=
  ⟨hcurrent ▸ hd.current, fun e he => hd.ne_nil e (h he), fun e he => hd.component e (h he)⟩

theorem nextWrite (hd : d.Named) : d.nextWrite.Named :=
  hd.of_entries_subset rfl (List.Subset.refl _)

theorem putFile (hd : d.Named) {path : String} (hlocate : d.locate path = .ok place)
    (hplain : d.Plain place) (bytes : ByteArray) : (d.nextWrite.putFile place bytes).Named :=
  have hput := hd.nextWrite.put (ne_nil_of_node?_ne hplain.ne_folder) (hd.find hlocate)
    (.file bytes d.clock (d.nextWrite.access place))
  hput.of_entries_subset rfl (List.Subset.refl _)

theorem write (hd : d.Named) (path : String) (bytes : ByteArray) :
    (d.write path bytes).2.Named := by
  obtain ⟨e, hwrite⟩ | ⟨e, hwrite⟩ | ⟨place, hlocate, hplain, hwrite | ⟨size, e, -, hwrite⟩⟩ :=
    write_cases d path bytes
  · exact hwrite ▸ hd
  · exact hwrite ▸ hd.nextWrite
  · exact hwrite ▸ hd.putFile hlocate hplain bytes
  · exact hwrite ▸ hd.putFile hlocate hplain _

theorem settle (hd : d.Named) (hplace : ∀ x ∈ place, IsComponent x) {names : List String}
    (hnames : ∀ name ∈ names, '/' ∉ name.toList ∧ name ≠ "") :
    (d.settle place names (d.createFolder place names)).2.Named := by
  cases hcreate : d.createFolder place names with
  | ok d' =>
    obtain ⟨p, hleads, hp, rfl⟩ := createFolder_eq_ok.1 hcreate
    have hne : d.node? p ≠ some .folder := by simp [hp]
    exact hd.put (ne_nil_of_node?_ne hne) (isComponent_of_leads hleads hplace hnames) .folder
  | error e =>
    rw [Disk.settle]
    split
    · exact hd
    · exact hd

theorem createAlong (hd : d.Named) (hplace : ∀ x ∈ place, IsComponent x)
    {paths : List (List String)}
    (hpaths : ∀ names ∈ paths, ∀ name ∈ names, '/' ∉ name.toList ∧ name ≠ "") :
    (d.createAlong place paths).2.Named := by
  induction paths with
  | nil => exact hd
  | cons names above ih =>
    obtain ⟨hnames, habove⟩ := List.forall_mem_cons.1 hpaths
    rw [Disk.createAlong]
    split
    · split
      · next hsome =>
        have hd' := ih habove
        rw [hsome] at hd'
        exact hd'.settle hplace hnames
      · exact ih habove
    · exact hd.settle hplace hnames

theorem createFolders (hd : d.Named) (path : String) : (d.createFolders path).2.Named := by
  rw [Disk.createFolders]
  split
  · exact hd
  · split
    · exact hd
    · refine hd.createAlong (hd.origin path) (List.forall_mem_cons.2 ⟨?_, ?_⟩)
      · exact fun _ => not_mem_of_mem_steps
      · exact fun names hnames name hname =>
          not_mem_of_mem_steps (mem_steps_of_mem_parents hnames hname)

theorem remove (hd : d.Named) {path : String} (h : d.remove path = (.ok (), d')) : d'.Named := by
  obtain ⟨place, node, -, -, -, rfl⟩ := remove_eq_ok.1 h
  exact hd.of_entries_subset rfl (List.filter_sublist).subset

end Named

/-! ## Listings -/

/-- What the listing of a folder tells of a place and what stands there. -/
def storedFile? (folder : String) (place : List String) : List String × Node → Option StoredFile
  | (p, .file bytes modified _) =>
    if p.dropLast = place then some ⟨join folder (p.getLastD ""), bytes.size.toUInt64, modified⟩
    else none
  | _ => none

theorem files_eq_ok {files : List StoredFile} :
    d.files folder = .ok files ↔ ∃ place, d.locate folder = .ok place ∧
      d.node? place = some .folder ∧
      files = d.nodes.entries.filterMap (storedFile? folder place) := by
  rw [Disk.files]
  cases hlocate : d.locate folder with
  | error e => simp [bind, Except.bind]
  | ok place =>
    rcases hnode : d.node? place with _ | _ | _ | _ | _
    · simp [bind, Except.bind, hnode]
    · simp only [bind, Except.bind, hnode, Except.ok.injEq, exists_eq_left', true_and]
      exact eq_comm
    · simp [bind, Except.bind, hnode]
    · simp [bind, Except.bind, hnode]
    · simp [bind, Except.bind, hnode]

theorem storedFile?_eq_some {e : List String × Node} (he : e.1 ≠ []) {f : StoredFile} :
    storedFile? folder place e = some f ↔ ∃ name bytes t access,
      e = (place ++ [name], .file bytes t access) ∧
        f = ⟨join folder name, bytes.size.toUInt64, t⟩ := by
  obtain ⟨p, _ | ⟨bytes, t, access⟩ | _ | _⟩ := e
  · simp [storedFile?]
  · obtain ⟨front, name, rfl⟩ := List.eq_nil_or_concat p |>.resolve_left he
    simp only [storedFile?, List.concat_eq_append, List.dropLast_concat, List.getLastD_concat]
    constructor
    · intro h
      obtain ⟨rfl, hf⟩ := Option.ite_none_right_eq_some.1 h
      exact ⟨name, bytes, t, access, rfl, (Option.some.inj hf).symm⟩
    · rintro ⟨name', bytes', t', access', he, rfl⟩
      obtain ⟨hplace, hnode⟩ := Prod.mk.inj he
      obtain ⟨rfl, hname⟩ := List.append_inj' hplace rfl
      cases hname
      cases hnode
      exact if_pos rfl
  · simp [storedFile?]
  · simp [storedFile?]

theorem join_inj {a b : String} (ha : IsComponent a) (hb : IsComponent b)
    (h : join folder a = join folder b) : a = b := by
  have hsteps := congrArg steps h
  rw [steps_join folder ha, steps_join folder hb, List.append_cancel_left_eq] at hsteps
  exact List.singleton_inj.1 hsteps

theorem Named.isComponent (hd : d.Named) {name : String} {node : Node}
    (h : (place ++ [name], node) ∈ d.nodes.entries) : IsComponent name :=
  hd.component _ h name (List.mem_append_right _ List.mem_cons_self)

theorem node?_concat_eq_some_iff {name : String} {node : Node} :
    d.node? (place ++ [name]) = some node ↔ (place ++ [name], node) ∈ d.nodes.entries := by
  rw [node?, if_neg (by simp), SortedMap.get?_eq_some_iff]

section Listing

variable {files : List StoredFile}

/-- Exactly the plain files that stand in a folder are listed. -/
theorem mem_files_iff (hd : d.Named) (h : d.files folder = .ok files) {f : StoredFile} :
    f ∈ files ↔ ∃ place name bytes t access, d.locate folder = .ok place ∧
      d.node? (place ++ [name]) = some (.file bytes t access) ∧
        f = ⟨join folder name, bytes.size.toUInt64, t⟩ := by
  obtain ⟨place, hlocate, -, rfl⟩ := files_eq_ok.1 h
  rw [List.mem_filterMap]
  constructor
  · rintro ⟨e, he, hf⟩
    obtain ⟨name, bytes, t, access, rfl, rfl⟩ := (storedFile?_eq_some (hd.ne_nil e he)).1 hf
    exact ⟨place, name, bytes, t, access, hlocate, node?_concat_eq_some_iff.2 he, rfl⟩
  · rintro ⟨place', name, bytes, t, access, hlocate', hfile, rfl⟩
    obtain rfl : place = place' := Except.ok.inj (hlocate.symm.trans hlocate')
    have he := node?_concat_eq_some_iff.1 hfile
    exact ⟨_, he, (storedFile?_eq_some (hd.ne_nil _ he)).2 ⟨name, bytes, t, access, rfl, rfl⟩⟩

theorem nodup_files (hd : d.Named) (h : d.files folder = .ok files) : files.Nodup := by
  obtain ⟨place, -, -, rfl⟩ := files_eq_ok.1 h
  refine List.Pairwise.filterMap _ (S := (· ≠ ·)) ?_
    (d.nodes.keys_ne.imp_of_mem fun ha hb hne => And.intro ha (And.intro hb hne))
  rintro a b ⟨ha, hb, hne⟩ f hf g hg rfl
  obtain ⟨name, bytes, t, access, rfl, rfl⟩ := (storedFile?_eq_some (hd.ne_nil a ha)).1 hf
  obtain ⟨name', bytes', t', access', rfl, hfg⟩ := (storedFile?_eq_some (hd.ne_nil b hb)).1 hg
  have hname := join_inj (hd.isComponent ha) (hd.isComponent hb) (congrArg StoredFile.path hfg)
  exact hne (by rw [hname])

theorem place_of_entry_join (hlocate : d.locate folder = .ok place)
    (hplace : d.node? place = some .folder) {name : String} (hname : IsComponent name)
    {p : List String} (h : d.entry (join folder name) = .ok p) : p = place ++ [name] := by
  obtain ⟨-, -, hleads⟩ := find_eq_ok.1 h
  obtain ⟨-, -, hfolder⟩ := find_eq_ok.1 hlocate
  rw [steps_join folder hname, origin, start, isAbsolute_join folder hname] at hleads
  exact step_of_isComponent hname ((hfolder.concat hplace).1 hleads)

theorem node?_of_mem_files (hd : d.Named) (h : d.files folder = .ok files) {f : StoredFile}
    (hf : f ∈ files) {p : List String} (hp : d.entry f.path = .ok p) :
    ∃ bytes access, d.node? p = some (.file bytes f.modified access) ∧
      bytes.size.toUInt64 = f.size := by
  obtain ⟨place, name, bytes, t, access, hlocate, hnode, rfl⟩ := (mem_files_iff hd h).1 hf
  obtain ⟨place', hlocate', hplace, -⟩ := files_eq_ok.1 h
  obtain rfl : place = place' := Except.ok.inj (hlocate.symm.trans hlocate')
  have hname := hd.isComponent (node?_concat_eq_some_iff.1 hnode)
  rw [place_of_entry_join hlocate hplace hname hp]
  exact ⟨bytes, access, hnode, rfl⟩

end Listing

end Disk

end SketchPreview
