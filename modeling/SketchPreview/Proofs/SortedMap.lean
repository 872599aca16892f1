import SketchPreview.SortedMap

/-!
# A sorted map is told by what it reads back

* `lookup_eq_some_iff_mem`: the entry under a key, in a list without a key twice;
* `get?_eq_some_iff`, `eq_of_mem_entries`: what a map reads back is the one entry under the key;
* **`ext_get?`**: maps that read back the same are equal;
* `get?_foldl_insert`, `get?_ofList`, `ofList_entries`: maps filled from a list.
-/

namespace SketchPreview.SortedMap

open SortKey (before)

variable {κ ν : Type}

theorem lookup_eq_some_iff_mem [BEq κ] [LawfulBEq κ] {l : List (κ × ν)}
    (hl : l.Pairwise (fun a b => a.1 ≠ b.1)) {k : κ} {v : ν} :
    l.lookup k = some v ↔ (k, v) ∈ l := by
  rw [List.lookup_eq_some_iff]
  constructor
  · rintro ⟨pre, post, rfl, -⟩
    simp
  · intro h
    obtain ⟨pre, post, rfl⟩ := List.append_of_mem h
    refine ⟨pre, post, rfl, fun e he => bne_iff_ne.2 ?_⟩
    exact ((List.pairwise_append.1 hl).2.2 e he (k, v) List.mem_cons_self).symm

variable [SortKey κ]

theorem keys_ne (m : SortedMap κ ν) : m.entries.Pairwise (fun a b => a.1 ≠ b.1) := by
  refine m.sorted.imp fun {a b} hab h => ?_
  rw [h, SortKey.before_irrefl] at hab
  cases hab

theorem get?_eq_some_iff [BEq κ] [LawfulBEq κ] {m : SortedMap κ ν} {k : κ} {v : ν} :
    m.get? k = some v ↔ (k, v) ∈ m.entries :=
  lookup_eq_some_iff_mem m.keys_ne

theorem eq_of_mem_entries [BEq κ] [LawfulBEq κ] {m : SortedMap κ ν} {e e' : κ × ν}
    (he : e ∈ m.entries) (he' : e' ∈ m.entries) (h : e.1 = e'.1) : e = e' := by
  have hvalue : m.get? e.1 = some e.2 := get?_eq_some_iff.2 he
  have hvalue' : m.get? e'.1 = some e'.2 := get?_eq_some_iff.2 he'
  rw [h, hvalue'] at hvalue
  exact Prod.ext h (Option.some.inj hvalue).symm

theorem get?_erase [BEq κ] [LawfulBEq κ] {m : SortedMap κ ν} {k k' : κ} {v : ν} :
    (m.erase k).get? k' = some v ↔ k' ≠ k ∧ m.get? k' = some v := by
  rw [get?_eq_some_iff, get?_eq_some_iff, erase, List.mem_filter, and_comm, bne_iff_ne]

/-- **Maps that read back the same are equal.** -/
theorem ext_get? [BEq κ] [LawfulBEq κ] {m n : SortedMap κ ν} (h : ∀ k, m.get? k = n.get? k) :
    m = n := by
  have hmem : ∀ e, e ∈ m.entries ↔ e ∈ n.entries := by
    rintro ⟨k, v⟩
    rw [← get?_eq_some_iff, ← get?_eq_some_iff, h]
  have hnodup : ∀ m : SortedMap κ ν, m.entries.Nodup := fun m =>
    m.keys_ne.imp fun hne heq => hne (congrArg Prod.fst heq)
  have hperm : m.entries.Perm n.entries :=
    (List.perm_ext_iff_of_nodup (hnodup m) (hnodup n)).2 hmem
  -- two entries cannot stand before each other
  refine ext (hperm.eq_of_pairwise (fun a b _ _ hab hba => ?_) m.sorted n.sorted)
  have hcycle := SortKey.before_trans hab hba
  rw [SortKey.before_irrefl] at hcycle
  cases hcycle

/-! ## Maps filled from a list -/

section Fill

variable [BEq κ] [LawfulBEq κ]

/-- Of the entries with one key, the last one counts. -/
theorem get?_foldl_insert (entries : List (κ × ν)) (m : SortedMap κ ν) (k : κ) :
    (entries.foldl (fun m e => m.insert e.1 e.2) m).get? k =
      (entries.reverse.lookup k).or (m.get? k) := by
  induction entries generalizing m with
  | nil => rfl
  | cons e rest ih =>
    rw [List.foldl_cons, ih, get?_insert, List.reverse_cons, List.lookup_append, Option.or_assoc]
    congr 1
    rw [List.lookup_cons, List.lookup_nil]
    cases k == e.1 <;> rfl

theorem get?_ofList (entries : List (κ × ν)) (k : κ) :
    (ofList entries).get? k = entries.reverse.lookup k := by
  rw [ofList, get?_foldl_insert]
  exact Option.or_none

theorem ofList_entries (m : SortedMap κ ν) : ofList m.entries = m := by
  refine ext_get? fun k => Option.ext fun v => ?_
  have hreverse : m.entries.reverse.Pairwise (fun a b => a.1 ≠ b.1) :=
    List.pairwise_reverse.2 (m.keys_ne.imp Ne.symm)
  rw [get?_ofList, lookup_eq_some_iff_mem hreverse, List.mem_reverse, get?_eq_some_iff]

end Fill

end SketchPreview.SortedMap
