/-!
# Maps sorted by key

A finite map kept as the list of its entries in strictly ascending order of the keys. The order is
part of the type, so two maps with the same entries are equal and every listing is in order.

* `SortKey`: keys in a linear order;
* `SortedMap`, `get?`, `insert`, `erase`, `contains`, `keys`, `size`;
* `get?_insert`: a map reads back what was last written;
* `contains_iff_mem_keys`, `eq_or_before_of_firstKey?`: the keys, and the least of them.
-/

namespace SketchPreview

/-- Keys in a linear order that can be decided. -/
class SortKey (κ : Type) where
  before : κ → κ → Bool
  before_irrefl (a : κ) : before a a = false
  before_trans {a b c : κ} : before a b = true → before b c = true → before a c = true
  eq_of_not_before {a b : κ} : before a b = false → before b a = false → a = b

open SortKey (before)

instance : SortKey UInt32 where
  before a b := decide (a < b)
  before_irrefl a := decide_eq_false (Std.Irrefl.irrefl a)
  before_trans h h' := decide_eq_true (Std.lt_trans (of_decide_eq_true h) (of_decide_eq_true h'))
  eq_of_not_before h h' :=
    Std.Trichotomous.trichotomous _ _ (of_decide_eq_false h) (of_decide_eq_false h')

instance : SortKey String where
  before a b := decide (a < b)
  before_irrefl a := decide_eq_false (Std.Irrefl.irrefl a)
  before_trans h h' := decide_eq_true (Std.lt_trans (of_decide_eq_true h) (of_decide_eq_true h'))
  eq_of_not_before h h' :=
    Std.Trichotomous.trichotomous _ _ (of_decide_eq_false h) (of_decide_eq_false h')

instance : SortKey (List String) where
  before a b := decide (a < b)
  before_irrefl a := decide_eq_false (Std.Irrefl.irrefl a)
  before_trans h h' := decide_eq_true (Std.lt_trans (of_decide_eq_true h) (of_decide_eq_true h'))
  eq_of_not_before h h' :=
    Std.Trichotomous.trichotomous _ _ (of_decide_eq_false h) (of_decide_eq_false h')

/-- Entries in strictly ascending order of their keys. -/
structure SortedMap (κ ν : Type) [SortKey κ] where
  entries : List (κ × ν)
  sorted : entries.Pairwise (fun a b => before a.1 b.1 = true)

namespace SortedMap

variable {κ ν : Type} [SortKey κ]

@[ext]
theorem ext {m n : SortedMap κ ν} (h : m.entries = n.entries) : m = n := by
  cases m; cases n; cases h; rfl

instance [DecidableEq κ] [DecidableEq ν] : DecidableEq (SortedMap κ ν) := fun m n =>
  decidable_of_iff (m.entries = n.entries) ⟨ext, fun h => h ▸ rfl⟩

instance [Repr κ] [Repr ν] : Repr (SortedMap κ ν) := ⟨fun m p => reprPrec m.entries p⟩

/-- The map without entries. -/
def empty : SortedMap κ ν := ⟨[], .nil⟩

instance : Inhabited (SortedMap κ ν) := ⟨empty⟩

/-- The keys in ascending order. -/
def keys (m : SortedMap κ ν) : List κ := m.entries.map (·.1)

/-- The number of entries. -/
def size (m : SortedMap κ ν) : Nat := m.entries.length

/-- The value stored under `k`. -/
def get? [BEq κ] (m : SortedMap κ ν) (k : κ) : Option ν := m.entries.lookup k

/-- Whether a value is stored under `k`. -/
def contains [BEq κ] (m : SortedMap κ ν) (k : κ) : Bool := (m.get? k).isSome

/-- The least key. -/
def firstKey? (m : SortedMap κ ν) : Option κ := m.entries.head?.map (·.1)

/-- The map without what is stored under `k`. -/
def erase [BEq κ] (m : SortedMap κ ν) (k : κ) : SortedMap κ ν :=
  ⟨m.entries.filter (fun e => e.1 != k), m.sorted.filter _⟩

/-- Puts an entry in its place among sorted ones, over an equal key. -/
def insertEntry (k : κ) (v : ν) : List (κ × ν) → List (κ × ν)
  | [] => [(k, v)]
  | e :: rest =>
    if before k e.1 then (k, v) :: e :: rest
    else if before e.1 k then e :: insertEntry k v rest
    else (k, v) :: rest

theorem mem_insertEntry {k : κ} {v : ν} {l : List (κ × ν)} {e : κ × ν}
    (h : e ∈ insertEntry k v l) : e = (k, v) ∨ e ∈ l := by
  induction l with
  | nil => exact Or.inl (by simpa [insertEntry] using h)
  | cons a rest ih =>
    unfold insertEntry at h
    split at h
    · simpa using h
    · split at h
      · rcases List.mem_cons.1 h with rfl | h
        · simp
        · rcases ih h with h | h <;> simp [h]
      · rcases List.mem_cons.1 h with rfl | h <;> simp [*]

theorem sorted_insertEntry (k : κ) (v : ν) {l : List (κ × ν)}
    (h : l.Pairwise (fun a b => before a.1 b.1 = true)) :
    (insertEntry k v l).Pairwise (fun a b => before a.1 b.1 = true) := by
  induction l with
  | nil => simp [insertEntry]
  | cons a rest ih =>
    obtain ⟨ha, hrest⟩ := List.pairwise_cons.1 h
    unfold insertEntry
    split
    · next hlt =>
      refine List.pairwise_cons.2 ⟨fun e he => ?_, h⟩
      rcases List.mem_cons.1 he with rfl | he
      · exact hlt
      · exact SortKey.before_trans hlt (ha e he)
    · next hnlt =>
      split
      · next hgt =>
        refine List.pairwise_cons.2 ⟨fun e he => ?_, ih hrest⟩
        rcases mem_insertEntry he with rfl | he
        · exact hgt
        · exact ha e he
      · next hngt =>
        have hk : k = a.1 :=
          SortKey.eq_of_not_before (Bool.not_eq_true _ ▸ hnlt) (Bool.not_eq_true _ ▸ hngt)
        exact List.pairwise_cons.2 ⟨fun e he => hk ▸ ha e he, hrest⟩

/-- Stores `v` under `k`, in the place of what was there. -/
def insert (m : SortedMap κ ν) (k : κ) (v : ν) : SortedMap κ ν :=
  ⟨insertEntry k v m.entries, sorted_insertEntry k v m.sorted⟩

/-- Stores entries one after the other: of equal keys the last one wins. -/
def ofList (entries : List (κ × ν)) : SortedMap κ ν :=
  entries.foldl (fun m e => m.insert e.1 e.2) empty

theorem lookup_insertEntry [BEq κ] [LawfulBEq κ] (k k' : κ) (v : ν) (l : List (κ × ν)) :
    (insertEntry k v l).lookup k' = if k' == k then some v else l.lookup k' := by
  induction l with
  | nil => simp only [insertEntry, List.lookup_cons, List.lookup_nil]; split <;> simp_all
  | cons a rest ih =>
    obtain ⟨ak, av⟩ := a
    unfold insertEntry
    split
    · rw [List.lookup_cons]; split <;> simp_all
    · next hnlt =>
      split
      · next hgt =>
        rw [List.lookup_cons, ih, List.lookup_cons]
        by_cases h1 : k' = ak
        · have h2 : k' ≠ k := by
            rintro rfl
            rw [h1] at hgt
            exact Bool.noConfusion (hgt.symm.trans (SortKey.before_irrefl ak))
          simp [h1, show ¬ ak = k from h1 ▸ h2]
        · simp [beq_eq_false_iff_ne.2 h1]
      · next hngt =>
        obtain rfl : k = ak :=
          SortKey.eq_of_not_before (Bool.not_eq_true _ ▸ hnlt) (Bool.not_eq_true _ ▸ hngt)
        rw [List.lookup_cons, List.lookup_cons]
        split <;> simp_all

theorem mem_entries_of_get? [BEq κ] [LawfulBEq κ] {m : SortedMap κ ν} {k : κ} {v : ν}
    (h : m.get? k = some v) : (k, v) ∈ m.entries := by
  obtain ⟨before, behind, hentries, -⟩ := List.lookup_eq_some_iff.1 h
  simp [hentries]

/-- A map reads back what was last written. -/
theorem get?_insert [BEq κ] [LawfulBEq κ] (m : SortedMap κ ν) (k k' : κ) (v : ν) :
    (m.insert k v).get? k' = if k' == k then some v else m.get? k' :=
  lookup_insertEntry k k' v m.entries

theorem contains_iff_mem_keys [BEq κ] [LawfulBEq κ] {m : SortedMap κ ν} {k : κ} :
    m.contains k = true ↔ k ∈ m.keys := by
  rw [contains, get?, List.lookup_isSome_iff, keys, List.mem_map]
  simp only [beq_iff_eq, @eq_comm _ k]

theorem firstKey?_eq_none_iff {m : SortedMap κ ν} : m.firstKey? = none ↔ m.keys = [] := by
  rw [firstKey?, keys, Option.map_eq_none_iff, List.head?_eq_none_iff, List.map_eq_nil_iff]

theorem mem_keys_of_firstKey? {m : SortedMap κ ν} {k : κ} (h : m.firstKey? = some k) :
    k ∈ m.keys := by
  obtain ⟨e, he, rfl⟩ := Option.map_eq_some_iff.1 h
  exact List.mem_map_of_mem (List.mem_of_head? he)

theorem eq_or_before_of_firstKey? {m : SortedMap κ ν} {k k' : κ} (h : m.firstKey? = some k)
    (hk : k' ∈ m.keys) : k' = k ∨ before k k' = true := by
  obtain ⟨entries, hsorted⟩ := m
  cases entries with
  | nil => cases h
  | cons e rest =>
    obtain rfl : e.1 = k := Option.some.inj h
    rcases List.mem_cons.1 hk with rfl | hrest
    · exact .inl rfl
    · obtain ⟨e', he', rfl⟩ := List.mem_map.1 hrest
      exact .inr ((List.pairwise_cons.1 hsorted).1 e' he')

end SortedMap

end SketchPreview
