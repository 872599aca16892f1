import Mathlib.Data.Prod.Lex
import Mathlib.Data.String.Basic
import SketchPreview.Proofs.Program
import SketchPreview.Storage.Trim

/-!
# The files that have to go

Files are put in an order, and the first of them go, one by one, until the rest is within a limit.
The total that is left is kept up to date in a word by taking off the size of each file that goes.
If all the files together fit into a word, so does every total after that, and none is less than the
size that is taken off it.

* `StoredFile.key`, `precedes_iff_key_le`: what the order goes by;
* `totalSize`, `totalFrom_eq_ok`, `totalFrom_eq_error`: totals, and when a word holds them;
* `surplus`, `IsShortestCut`, **`surplus_cut`**: the shortest run of files that is enough;
* `prefix_surplus`: a larger limit lets fewer of the same files go;
* `removeAll`, **`trimFiles_eq`**: counting in words removes just these files.
-/

namespace SketchPreview

/-! ## The order -/

namespace StoredFile

/-- What the order of files goes by: the moment, then the size, then the path. -/
def key (f : StoredFile) : Int ×ₗ Nat ×ₗ String := toLex (f.modified, toLex (f.size.toNat, f.path))

theorem precedes_iff_key_le {a b : StoredFile} : a.precedes b = true ↔ a.key ≤ b.key := by
  rw [key, key, Prod.Lex.toLex_le_toLex, Prod.Lex.toLex_le_toLex, precedes]
  by_cases hmodified : a.modified = b.modified
  · by_cases hsize : a.size = b.size
    · simp [hmodified, hsize]
    · simp [hmodified, hsize, UInt64.toNat_inj, UInt64.lt_iff_toNat_lt]
  · simp [hmodified]

end StoredFile

theorem pairwise_mergeSort_precedes (files : List StoredFile) :
    (files.mergeSort StoredFile.precedes).Pairwise (fun a b => a.key ≤ b.key) := by
  refine (List.pairwise_mergeSort (fun a b c hab hbc => ?_) (fun a b => ?_) files).imp
    fun h => StoredFile.precedes_iff_key_le.1 h
  · rw [StoredFile.precedes_iff_key_le] at *
    exact hab.trans hbc
  · rw [Bool.or_eq_true, StoredFile.precedes_iff_key_le, StoredFile.precedes_iff_key_le]
    exact le_total _ _

/-! ## Totals -/

/-- The total size of files. -/
def totalSize : List StoredFile → Nat
  | [] => 0
  | f :: rest => f.size.toNat + totalSize rest

theorem totalSize_append (l l' : List StoredFile) :
    totalSize (l ++ l') = totalSize l + totalSize l' := by
  induction l with
  | nil => exact (Nat.zero_add _).symm
  | cons f rest ih => rw [List.cons_append, totalSize, totalSize, ih, Nat.add_assoc]

theorem totalSize_perm {l l' : List StoredFile} (h : l.Perm l') : totalSize l = totalSize l' := by
  induction h with
  | nil => rfl
  | cons f _ ih => rw [totalSize, totalSize, ih]
  | swap f g l => rw [totalSize, totalSize, totalSize, totalSize, Nat.add_left_comm]
  | trans _ _ ih ih' => rw [ih, ih']

theorem totalFrom_eq_ok {total s : UInt64} {l : List StoredFile} :
    totalFrom total l = .ok s ↔ s.toNat = total.toNat + totalSize l := by
  induction l generalizing total with
  | nil =>
    rw [totalFrom, Except.ok.injEq, totalSize, Nat.add_zero, UInt64.toNat_inj]
    exact eq_comm
  | cons f rest ih =>
    rw [totalFrom, totalSize, ← Nat.add_assoc]
    cases hadd : Checked.add total f.size with
    | ok next => rw [ih, Checked.add_eq_ok.1 hadd]
    | error o =>
      refine ⟨(nomatch ·), fun h => ?_⟩
      have hnext : (UInt64.ofNat (total.toNat + f.size.toNat)).toNat =
          total.toNat + f.size.toNat :=
        UInt64.toNat_ofNat_of_lt' (Nat.lt_of_le_of_lt (h ▸ Nat.le_add_right ..) s.toNat_lt_size)
      rw [Checked.add_eq_ok.2 hnext] at hadd
      cases hadd

/-- A total that no word holds is not counted to its end. -/
theorem totalFrom_eq_error {total : UInt64} {l : List StoredFile}
    (h : UInt64.size ≤ total.toNat + totalSize l) : totalFrom total l = .error .add := by
  induction l generalizing total with
  | nil => exact absurd total.toNat_lt_size (Nat.not_lt.2 h)
  | cons f rest ih =>
    rw [totalSize, ← Nat.add_assoc] at h
    rw [totalFrom]
    by_cases hfits : total.toNat + f.size.toNat < UInt64.size
    · obtain ⟨next, hnext⟩ : ∃ next : UInt64, next.toNat = total.toNat + f.size.toNat :=
        ⟨_, UInt64.toNat_ofNat_of_lt' hfits⟩
      rw [Checked.add_eq_ok.2 hnext]
      exact ih (hnext ▸ h)
    · rw [Checked.add_eq_error (Nat.not_lt.1 hfits)]

/-! ## The shortest run that is enough -/

/-- A list of files is cut behind as few of them as bring the rest within a limit: with fewer of
them gone, more than the limit would be left. -/
structure IsShortestCut (limit : Nat) (gone kept : List StoredFile) : Prop where
  fits : totalSize kept ≤ limit
  shortest {front back : List StoredFile} :
    gone = front ++ back → back ≠ [] → limit < totalSize (back ++ kept)

variable {limit : Nat} {gone kept : List StoredFile}

theorem isShortestCut_nil (h : totalSize kept ≤ limit) : IsShortestCut limit [] kept where
  fits := h
  shortest hgone hback := absurd (List.nil_eq_append_iff.1 hgone).2 hback

theorem IsShortestCut.cons {f : StoredFile} (h : IsShortestCut limit gone kept)
    (hf : limit < totalSize (f :: (gone ++ kept))) : IsShortestCut limit (f :: gone) kept where
  fits := h.fits
  shortest {front back} hgone hback := by
    cases front with
    | nil =>
      obtain rfl : f :: gone = back := hgone
      exact hf
    | cons g front => exact h.shortest (List.cons.inj hgone).2 hback

theorem IsShortestCut.eq_nil_iff (h : IsShortestCut limit gone kept) :
    gone = [] ↔ totalSize (gone ++ kept) ≤ limit := by
  constructor
  · rintro rfl
    exact h.fits
  · intro hall
    by_contra hgone
    have hmore : limit < totalSize (gone ++ kept) := h.shortest (List.nil_append gone).symm hgone
    exact absurd hmore (Nat.not_lt.2 hall)

/-- The first files of a list, as few of them as bring the rest within a limit. -/
def surplusOf (limit : Nat) : List StoredFile → List StoredFile
  | [] => []
  | f :: rest => if totalSize (f :: rest) ≤ limit then [] else f :: surplusOf limit rest

/-- The files that have to go so that the rest is within a limit. -/
def surplus (limit : Nat) (files : List StoredFile) : List StoredFile :=
  surplusOf limit (files.mergeSort StoredFile.precedes)

theorem surplusOf_of_le {l : List StoredFile} (h : totalSize l ≤ limit) :
    surplusOf limit l = [] := by
  cases l with
  | nil => rfl
  | cons f rest => exact if_pos h

theorem exists_isShortestCut (limit : Nat) (l : List StoredFile) :
    ∃ kept, surplusOf limit l ++ kept = l ∧ IsShortestCut limit (surplusOf limit l) kept := by
  induction l with
  | nil => exact ⟨[], rfl, isShortestCut_nil (Nat.zero_le _)⟩
  | cons f rest ih =>
    rw [surplusOf]
    by_cases hfits : totalSize (f :: rest) ≤ limit
    · rw [if_pos hfits]
      exact ⟨f :: rest, rfl, isShortestCut_nil hfits⟩
    · obtain ⟨kept, hrest, hcut⟩ := ih
      rw [if_neg hfits]
      refine ⟨kept, by rw [List.cons_append, hrest], hcut.cons ?_⟩
      rw [hrest]
      exact Nat.lt_of_not_le hfits

theorem surplus_cut (limit : Nat) (files : List StoredFile) :
    ∃ kept, (surplus limit files ++ kept).Perm files ∧
      (surplus limit files ++ kept).Pairwise (fun a b => a.key ≤ b.key) ∧
      IsShortestCut limit (surplus limit files) kept := by
  obtain ⟨kept, hsorted, hcut⟩ := exists_isShortestCut limit (files.mergeSort StoredFile.precedes)
  refine ⟨kept, ?_, ?_, hcut⟩
  · rw [surplus, hsorted]
    exact List.mergeSort_perm files StoredFile.precedes
  · rw [surplus, hsorted]
    exact pairwise_mergeSort_precedes files

theorem totalSize_mergeSort (files : List StoredFile) :
    totalSize (files.mergeSort StoredFile.precedes) = totalSize files :=
  totalSize_perm (List.mergeSort_perm files StoredFile.precedes)

theorem surplus_of_le {files : List StoredFile} (h : totalSize files ≤ limit) :
    surplus limit files = [] :=
  surplusOf_of_le ((totalSize_mergeSort files).symm ▸ h)

theorem prefix_surplusOf {limit limit' : Nat} (h : limit ≤ limit') (l : List StoredFile) :
    surplusOf limit' l <+: surplusOf limit l := by
  induction l with
  | nil => exact List.prefix_rfl
  | cons f rest ih =>
    rw [surplusOf, surplusOf]
    by_cases hfits : totalSize (f :: rest) ≤ limit'
    · rw [if_pos hfits]
      exact List.nil_prefix
    · rw [if_neg hfits, if_neg fun hle => hfits (Nat.le_trans hle h)]
      exact (List.prefix_cons_inj f).2 ih

theorem prefix_surplus {limit limit' : Nat} (h : limit ≤ limit') (files : List StoredFile) :
    surplus limit' files <+: surplus limit files :=
  prefix_surplusOf h _

/-! ## Counting in words -/

namespace FileSystem

variable {m : Type → Type} [Monad m]

/-- Removes files one after the other, until one cannot be removed. -/
def removeAll (fs : FileSystem m) : List StoredFile → m (Except FileError Unit)
  | [] => return .ok ()
  | f :: rest => do
    match ← fs.remove f.path with
    | .ok () => fs.removeAll rest
    | .error e => return .error e

variable [LawfulMonad m] [MonadExceptOf Overflow m] (fs : FileSystem m) {limit total : UInt64}

/-- The running total is the total size of the files that are left, and so it is never less than the
size of the next one. -/
theorem removeUntil_eq {l : List StoredFile} (htotal : total.toNat = totalSize l)
    (h : limit < total) :
    fs.removeUntil limit total l = fs.removeAll (surplusOf limit.toNat l) := by
  induction l generalizing total with
  | nil => rfl
  | cons f rest ih =>
    have hmore : ¬totalSize (f :: rest) ≤ limit.toNat := by
      rw [← htotal]
      exact Nat.not_le.2 (UInt64.lt_iff_toNat_lt.1 h)
    have hrest : totalSize rest ≤ total.toNat := htotal ▸ Nat.le_add_left ..
    have hsize : (UInt64.ofNat (totalSize rest)).toNat = totalSize rest :=
      UInt64.toNat_ofNat_of_lt' (Nat.lt_of_le_of_lt hrest total.toNat_lt_size)
    have hsub : Checked.sub total f.size = .ok (UInt64.ofNat (totalSize rest)) :=
      Checked.sub_eq_ok.2 (by rw [hsize, htotal, totalSize, Nat.add_comm])
    rw [removeUntil, surplusOf, if_neg hmore, removeAll]
    refine bind_congr fun result => ?_
    match result with
    | .error e => rfl
    | .ok () =>
      simp only [hsub, fitting, pure_bind]
      by_cases hfits : UInt64.ofNat (totalSize rest) ≤ limit
      · have hle : totalSize rest ≤ limit.toNat := hsize ▸ UInt64.le_iff_toNat_le.1 hfits
        rw [if_pos hfits, surplusOf_of_le hle]
        rfl
      · rw [if_neg hfits]
        exact ih hsize (UInt64.not_le.1 hfits)

/-- **Counting in words** removes the shortest run of files that is enough, if a word holds the size
of all the files together. -/
theorem trimFiles_eq {files : List StoredFile} (h : totalSize files < UInt64.size) :
    fs.trimFiles limit files = fs.removeAll (surplus limit.toNat files) := by
  have hsize : (UInt64.ofNat (totalSize files)).toNat = totalSize files :=
    UInt64.toNat_ofNat_of_lt' h
  have htotal : totalFrom 0 files = .ok (UInt64.ofNat (totalSize files)) :=
    totalFrom_eq_ok.2 (hsize.trans (Nat.zero_add _).symm)
  rw [trimFiles, htotal]
  simp only [fitting, pure_bind]
  by_cases hfits : UInt64.ofNat (totalSize files) ≤ limit
  · have hle : totalSize files ≤ limit.toNat := hsize ▸ UInt64.le_iff_toNat_le.1 hfits
    rw [if_pos hfits, surplus_of_le hle]
    rfl
  · rw [if_neg hfits]
    exact fs.removeUntil_eq (hsize.trans (totalSize_mergeSort files).symm) (UInt64.not_le.1 hfits)

theorem exec_trimFiles_of_overflow {σ : Type} (fs : FileSystem (Program σ))
    {files : List StoredFile} (h : UInt64.size ≤ totalSize files) (w : σ) :
    (fs.trimFiles limit files).exec w = (.error .add, w) := by
  have htotal : totalFrom 0 files = .error .add := totalFrom_eq_error (by simpa using h)
  rw [trimFiles, htotal]
  exact Program.exec_bind_of_error (Program.exec_fitting (.error .add) w) _

end FileSystem

end SketchPreview
