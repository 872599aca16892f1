import SketchPreview.Font.Source
import SketchPreview.Proofs.Storage.Trim

/-!
# The limit of a folder of fonts

The limit is told in megabytes and held in bytes. From 17592186044416 megabytes on the bytes do not
fit into a word, and there is no repository with such a limit: the program ends.

* `bytesOfMegabytes_eq_ok`, `bytesOfMegabytes_eq_error`: the limit in bytes;
* `of_eq_ok`, `of_eq_error`: the repositories there are;
* **`more_megabytes_keep_more`**: larger limits that fit leave more;
* `many_megabytes_overflow`: one that does not fit;
* **`totalSize_le_of_store`**: the folder after a copy was kept.
-/

namespace SketchPreview

/-! ## The limit in bytes -/

theorem bytesOfMegabytes_eq_ok {n bytes : UInt64} :
    bytesOfMegabytes n = .ok bytes ↔ bytes.toNat = n.toNat * 1048576 := by
  have hword : (1024 : UInt64).toNat = 1024 := rfl
  rw [bytesOfMegabytes]
  cases hkilobytes : Checked.mul n 1024 with
  | ok kilobytes =>
    have htoNat := Checked.mul_eq_ok.1 hkilobytes
    rw [Checked.mul_eq_ok, htoNat, hword, Nat.mul_assoc]
  | error o =>
    refine ⟨(nomatch ·), fun h => ?_⟩
    have hfits : n.toNat * (1024 : UInt64).toNat < UInt64.size := by
      have hbytes := bytes.toNat_lt_size
      rw [hword]
      omega
    rw [Checked.mul, if_pos hfits] at hkilobytes
    cases hkilobytes

theorem bytesOfMegabytes_eq_error {n : UInt64} (h : 17592186044416 ≤ n.toNat) :
    bytesOfMegabytes n = .error .mul := by
  rw [bytesOfMegabytes]
  cases hkilobytes : Checked.mul n 1024 with
  | ok kilobytes =>
    have htwice : kilobytes.toNat = n.toNat * 1024 := Checked.mul_eq_ok.1 hkilobytes
    refine Checked.mul_eq_error ?_
    rw [htwice]
    exact Nat.le_trans (by decide) (Nat.mul_le_mul_right 1024 (Nat.mul_le_mul_right 1024 h))
  | error o =>
    rw [Checked.mul] at hkilobytes
    split at hkilobytes
    · cases hkilobytes
    · exact hkilobytes.symm

namespace Repository

open Disk

variable {m n : UInt64} {url folder : String}

theorem of_eq_ok {r : Repository} :
    of url folder n = .ok r ↔
      r = ⟨trimStrokes url, folder, r.limit⟩ ∧ r.limit.toNat = n.toNat * 1048576 := by
  rw [of, ← bytesOfMegabytes_eq_ok]
  cases bytesOfMegabytes n with
  | error o => simp [Except.map]
  | ok bytes =>
    simp only [Except.map, Except.ok.injEq]
    exact ⟨fun h => h ▸ ⟨rfl, rfl⟩, fun ⟨h, h'⟩ => h' ▸ h.symm⟩

theorem of_eq_error (h : 17592186044416 ≤ n.toNat) (url folder : String) :
    of url folder n = .error .mul := by
  rw [of, bytesOfMegabytes_eq_error h]
  rfl

theorem exists_of (h : n.toNat < 17592186044416) (url folder : String) :
    ∃ r, of url folder n = .ok r ∧ r.limit.toNat = n.toNat * 1048576 := by
  obtain ⟨bytes, hbytes⟩ : ∃ bytes : UInt64, bytes.toNat = n.toNat * 1048576 :=
    ⟨_, UInt64.toNat_ofNat_of_lt' ((Nat.mul_lt_mul_right (by decide)).2 h)⟩
  exact ⟨⟨trimStrokes url, folder, bytes⟩, of_eq_ok.2 ⟨rfl, hbytes⟩, hbytes⟩

/-! ## Two limits -/

/-- **Larger limits that fit leave more.** Such a limit is held as it is told, files that fit into
it stay, and whatever a smaller one leaves, it leaves as well. There is no repository with a limit
that does not fit. -/
theorem more_megabytes_keep_more (hmn : m ≤ n) (url folder : String) :
    (17592186044416 ≤ n.toNat → of url folder n = .error .mul) ∧
      (n.toNat < 17592186044416 → ∃ less more, of url folder m = .ok less ∧
        of url folder n = .ok more ∧ more.limit.toNat = n.toNat * 1048576 ∧
        ∀ d : Disk, (d.trim folder less.limit).2.Within (d.trim folder more.limit).2 ∧
          ∀ files, d.files folder = .ok files → totalSize files ≤ n.toNat * 1048576 →
            d.trim folder more.limit = (.ok (.ok ()), d)) := by
  refine ⟨fun h => of_eq_error h url folder, fun h => ?_⟩
  have hle : m.toNat ≤ n.toNat := UInt64.le_iff_toNat_le.1 hmn
  obtain ⟨less, hless, hlimit⟩ := exists_of (Nat.lt_of_le_of_lt hle h) url folder
  obtain ⟨more, hmore, hlimit'⟩ := exists_of h url folder
  refine ⟨less, more, hless, hmore, hlimit', fun d => ⟨within_trim_of_le ?_ folder d, ?_⟩⟩
  · rw [UInt64.le_iff_toNat_le, hlimit, hlimit']
    exact Nat.mul_le_mul_right 1048576 hle
  · intro files hfiles htotal
    rw [← hlimit'] at htotal
    rw [trim_of_files hfiles (Nat.lt_of_le_of_lt htotal more.limit.toNat_lt_size),
      surplus_of_le htotal]
    rfl

/-- The greatest number of megabytes that fits leaves what one megabyte leaves. -/
theorem more_megabytes_keep_more_greatest :
    (1 : UInt64) ≤ 17592186044415 ∧ ∃ less more, of "http://[::1]" "fonts" 1 = .ok less ∧
      of "http://[::1]" "fonts" 17592186044415 = .ok more ∧
      more.limit.toNat = 18446744073708503040 ∧
      (crowdedDisk.trim "fonts" less.limit).2.Within (crowdedDisk.trim "fonts" more.limit).2 := by
  have hmn : (1 : UInt64) ≤ 17592186044415 := by decide
  have hfits : (17592186044415 : UInt64).toNat < 17592186044416 := by decide
  obtain ⟨less, more, hless, hmore, hlimit, hkeep⟩ :=
    (more_megabytes_keep_more hmn "http://[::1]" "fonts").2 hfits
  exact ⟨hmn, less, more, hless, hmore, hlimit.trans (by decide), (hkeep crowdedDisk).1⟩

/-- With one megabyte more there is no repository at all. -/
theorem many_megabytes_overflow :
    (∃ r, of "http://[::1]" "fonts" 17592186044415 = .ok r) ∧
      of "http://[::1]" "fonts" 17592186044416 = .error .mul := by
  have hfits : (17592186044415 : UInt64).toNat < 17592186044416 := by decide
  obtain ⟨r, hr, -⟩ := exists_of hfits "http://[::1]" "fonts"
  exact ⟨⟨r, hr⟩, of_eq_error (by decide) _ _⟩

/-! ## A copy in the folder -/

variable {r : Repository} {file text : String} {d d' : Disk}

theorem store_eq_ok
    (h : Program.exec (r.store fileSystem file text) d = (.ok (.ok ()), d')) :
    ∃ created written, d.createFolders r.folder = (.ok (), created) ∧
      created.write (FilePath.join r.folder file) text.toUTF8 = (.ok (), written) ∧
      written.trim r.folder r.limit = (.ok (.ok ()), d') := by
  rw [store, Program.exec_bind_of_ok (exec_createFolders r.folder d)] at h
  rcases hcreated : d.createFolders r.folder with ⟨e | _, created⟩
  · rw [hcreated] at h
    cases h
  rw [hcreated] at h
  replace h := (Program.exec_bind_of_ok
    (exec_write (FilePath.join r.folder file) text.toUTF8 created) _).symm.trans h
  rcases hwritten : created.write (FilePath.join r.folder file) text.toUTF8 with ⟨e | _, written⟩
  · rw [hwritten] at h
    cases h
  rw [hwritten] at h
  exact ⟨created, written, rfl, hwritten, h⟩

/-- **After a copy was kept**, the folder is within its limit. -/
theorem totalSize_le_of_store (hd : d.Named)
    (h : Program.exec (r.store fileSystem file text) d = (.ok (.ok ()), d')) :
    ∃ files, d'.files r.folder = .ok files ∧ totalSize files ≤ r.limit.toNat := by
  obtain ⟨created, written, hcreated, hwritten, htrim⟩ := store_eq_ok h
  have hcreatedNamed := hd.createFolders r.folder
  rw [hcreated] at hcreatedNamed
  have hwrittenNamed := hcreatedNamed.write (FilePath.join r.folder file) text.toUTF8
  rw [hwritten] at hwrittenNamed
  obtain ⟨listed, hlisted, hremove⟩ := trim_eq_ok htrim
  obtain ⟨gone, kept, htrimmed⟩ := exists_trimmedTo hwrittenNamed hlisted hremove
  obtain ⟨files, hfiles, -, hfits⟩ := htrimmed.left
  exact ⟨files, hfiles, hfits⟩

end Repository

end SketchPreview
