import SketchPreview.Json.Decode

/-!
# Typed values are read from what is written for them

* `toFields?_obj`: the fields of an object;
* `Fields.find?_cons_self`, `Fields.find?_cons_of_ne`: a field is found where it is written;
* `toInt32?_int`, `toUInt32?_nat`, `toString?_str`: numbers and texts;
* `toList?_list`: lists.
-/

namespace SketchPreview.Json

theorem mapM_eq_some {α β : Type} {f : α → Option β} {g : α → β} {l : List α}
    (h : ∀ a ∈ l, f a = some (g a)) : l.mapM f = some (l.map g) := by
  induction l with
  | nil => rfl
  | cons a rest ih =>
    rw [List.mapM_cons, h a List.mem_cons_self, ih fun b hb => h b (List.mem_cons_of_mem _ hb)]
    rfl

theorem mapM_map_eq_some {α β : Type} {f : α → β} {g : β → Option α} {l : List α}
    (h : ∀ a ∈ l, g (f a) = some a) : (l.map f).mapM g = some l := by
  rw [List.mapM_map, mapM_eq_some (f := g ∘ f) (g := id) h, List.map_id]

theorem toFields?_obj (fields : Fields) : (obj fields).toFields? = some fields :=
  mapM_map_eq_some fun f _ => by rw [namedField?, Quoted.text?_ofText]; rfl

@[simp]
theorem Fields.find?_nil (key : String) : Fields.find? [] key = some none := rfl

@[simp]
theorem Fields.find?_cons_self {fields : Fields} {key : String} {v : Json}
    (h : key ∉ fields.map Prod.fst) : Fields.find? ((key, v) :: fields) key = some (some v) := by
  have hrest : fields.filter (·.1 == key) = [] := List.filter_eq_nil_iff.2 fun f hf heq =>
    h (List.mem_map.2 ⟨f, hf, beq_iff_eq.1 heq⟩)
  rw [find?, List.filter_cons_of_pos (by simp), hrest]

@[simp]
theorem Fields.find?_cons_of_ne {fields : Fields} {f : String × Json} {key : String}
    (h : f.1 ≠ key) : Fields.find? (f :: fields) key = fields.find? key := by
  rw [find?, List.filter_cons_of_neg (by simpa using h), ← find?]

theorem toString?_str (s : String) : (str s).toString? = some s := Quoted.text?_ofText s

theorem toInt32?_int (n : Int32) : (int n.toInt).toInt32? = some n := by
  have hlow := n.le_toInt
  have hhigh := n.toInt_lt
  rw [toInt32?, toIntWithin?, if_pos ⟨by simpa [min32] using hlow, by simp [max32]; omega⟩,
    Option.map_some, Int32.ofInt_toInt]

theorem toNatUpTo?_nat {high n : Nat} (h : n ≤ high) : (nat n).toNatUpTo? high = some n := by
  rw [toNatUpTo?, nat, toIntWithin?, if_pos ⟨by omega, by omega⟩]
  rfl

theorem toUInt32?_nat (n : UInt32) : (nat n.toNat).toUInt32? = some n := by
  rw [toUInt32?, toNatUpTo?_nat (Nat.le_sub_one_of_lt n.toNat_lt_size), Option.map_some,
    UInt32.ofNat_toNat]

theorem toList?_list {α : Type} {f : α → Json} {g : Json → Option α} {l : List α}
    (h : ∀ a ∈ l, g (f a) = some a) : (list f l).toList? g = some l :=
  mapM_map_eq_some h

end SketchPreview.Json
