import SketchPreview.Proofs.Text
import SketchPreview.Storage.FilePath

/-!
# Files directly in a folder

* `IsComponent`: the names that lead one step further, whatever they are joined to;
* `steps_append_stroke`, `steps_of_isComponent`: the steps of a path;
* **`steps_join`**: a component joined to a folder is one step below it.
-/

namespace SketchPreview.FilePath

open Text

/-- A name of something directly in a folder. -/
structure IsComponent (file : String) : Prop where
  stroke : '/' ∉ file.toList
  ne_empty : file ≠ ""
  ne_point : file ≠ "."
  ne_points : file ≠ ".."

instance (file : String) : Decidable (IsComponent file) :=
  decidable_of_iff ('/' ∉ file.toList ∧ file ≠ "" ∧ file ≠ "." ∧ file ≠ "..")
    ⟨fun ⟨h, h', h'', h'''⟩ => ⟨h, h', h'', h'''⟩,
      fun h => ⟨h.stroke, h.ne_empty, h.ne_point, h.ne_points⟩⟩

variable {file : String}

theorem toList_ne_nil {s : String} (h : s ≠ "") : s.toList ≠ [] := fun hnil =>
  h (String.toList_inj.1 (hnil.trans rfl))

theorem isAbsolute_of_isComponent (h : IsComponent file) : isAbsolute file = false := by
  rw [isAbsolute, beq_eq_false_iff_ne]
  exact fun hhead => h.stroke (List.mem_of_mem_head? hhead)

theorem isAbsolute_append {s : String} (h : s ≠ "") (t : String) :
    isAbsolute (s ++ t) = isAbsolute s := by
  obtain ⟨c, rest, hs⟩ := List.exists_cons_of_ne_nil (toList_ne_nil h)
  rw [isAbsolute, isAbsolute, String.toList_append, hs]
  rfl

theorem exists_of_namesFolder {path : String} (h : namesFolder path = true) :
    ∃ s : String, path = s ++ "/" ++ "" := by
  obtain ⟨front, hfront⟩ := List.getLast?_eq_some_iff.1 (beq_iff_eq.1 h)
  refine ⟨String.ofList front, String.toList_inj.1 ?_⟩
  rw [hfront, String.toList_append, String.toList_append, String.toList_ofList]
  exact (List.append_nil _).symm

theorem steps_empty : steps "" = [] := rfl

theorem steps_append_stroke (s t : String) : steps (s ++ "/" ++ t) = steps s ++ steps t := by
  have hlist : (s ++ "/" ++ t).toList = s.toList ++ '/' :: t.toList := by
    rw [String.toList_append, String.toList_append, List.append_assoc]
    rfl
  rw [steps, hlist, pieces_append, List.filter_append, List.map_append]
  rfl

theorem steps_of_isComponent (h : IsComponent file) : steps file = [file] := by
  rw [steps, pieces_of_not_mem h.stroke, List.filter_cons_of_pos (by
    simpa using toList_ne_nil h.ne_empty)]
  exact congrArg (fun s => [s]) String.ofList_toList

/-- **A component of a folder** is one step below it. -/
theorem steps_join (folder : String) (h : IsComponent file) :
    steps (join folder file) = steps folder ++ [file] := by
  rw [join, isAbsolute_of_isComponent h]
  by_cases hempty : folder = ""
  · rw [if_pos (by simp [hempty]), hempty, steps_of_isComponent h, steps_empty, List.nil_append]
  · rw [if_neg (by simp [hempty])]
    split
    · next hfolder =>
      obtain ⟨s, rfl⟩ := exists_of_namesFolder hfolder
      rw [steps_append_stroke, steps_empty, List.append_nil, String.append_empty,
        steps_append_stroke, steps_of_isComponent h]
    · rw [steps_append_stroke, steps_of_isComponent h]

theorem isAbsolute_join (folder : String) (h : IsComponent file) :
    isAbsolute (join folder file) = isAbsolute folder := by
  have hfile := isAbsolute_of_isComponent h
  rw [join, hfile]
  by_cases hempty : folder = ""
  · rw [if_pos (by simp [hempty]), hfile, hempty]
    rfl
  · rw [if_neg (by simp [hempty])]
    split
    · rw [isAbsolute_append hempty]
    · rw [String.append_assoc, isAbsolute_append hempty]

end SketchPreview.FilePath
