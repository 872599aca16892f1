import SketchPreview.Font.Candidate
import SketchPreview.Proofs.Lowercase
import SketchPreview.Proofs.Storage.Path

/-!
# What candidates are made of

Every way to spell a font name keeps strokes out of it, and the first of them takes no stroke away.
So the files to try lie directly in a folder just when the name has no stroke.

* `mem_spellings_iff`, `count_of_mem_spellings`: the spellings of a name, and the marks in them;
* `stroke_mem_of_mem_parts`, `stroke_mem_of_mem_stems`, `stroke_mem_of_mem_spellings`,
  `stroke_not_mem_of_mem_japaneseNames`: no way to spell a name brings in strokes;
* **`isComponent_of_mem_candidates`**: the files of a name without strokes;
* **`stroke_mem_of_head?_candidates`**: the first file of a name with one.
-/

namespace SketchPreview

open Text

namespace Font

/-! ## Names and their spellings -/

theorem stroke_mem_bareName {token : List Char} : '/' ∈ bareName token ↔ '/' ∈ token := by
  rw [bareName]
  cases hbare : dropPrefix? namePrefix token with
  | none => rfl
  | some bare =>
    have hbegins : '/' ∉ namePrefix := by decide
    rw [dropPrefix?_eq_some_iff.1 hbare, List.mem_append]
    exact (or_iff_right hbegins).symm

theorem stroke_mem_of_mem_parts {token p : List Char} (hp : p ∈ parts token) (h : '/' ∈ p) :
    '/' ∈ token :=
  stroke_mem_bareName.1 ((infix_of_mem_pieces (List.mem_of_mem_filter hp)).subset h)

theorem exists_stroke_mem_parts {token : List Char} (h : '/' ∈ token) :
    ∃ p ∈ parts token, '/' ∈ p := by
  have hbare : '/' ∈ ['_'].intercalate (pieces '_' (bareName token)) := by
    rw [intercalate_pieces]
    exact stroke_mem_bareName.2 h
  rcases mem_intercalate hbare with hsep | ⟨p, hp, hstroke⟩
  · exact absurd hsep (by decide)
  · exact ⟨p, List.mem_filter.2 ⟨hp, by simpa using List.ne_nil_of_mem hstroke⟩, hstroke⟩

theorem stroke_mem_of_mem_join {parts : List (List Char)} (h : '/' ∈ join parts) :
    ∃ p ∈ parts, '/' ∈ p :=
  (mem_intercalate h).resolve_left (by decide)

theorem stroke_mem_of_mem_stems {parts : List (List Char)} {stem : List Char}
    (hstem : stem ∈ stems parts) (h : '/' ∈ stem) : ∃ p ∈ parts, '/' ∈ p := by
  rcases List.mem_append.1 hstem with hstem | hstem
  · obtain ⟨k, -, rfl⟩ := List.mem_map.1 hstem
    obtain ⟨p, hp, hstroke⟩ := stroke_mem_of_mem_join h
    exact ⟨p, List.mem_of_mem_take hp, hstroke⟩
  · rw [Option.mem_toList, withoutNumber?] at hstem
    split at hstem
    · obtain rfl := Option.some.inj hstem
      refine stroke_mem_of_mem_join (List.mem_reverse.1 ?_)
      exact (List.dropWhile_sublist _).subset (List.mem_reverse.1 h)
    · cases hstem

theorem exists_of_hyphenated? {name other : List Char} (h : hyphenated? name = some other) :
    ∃ letters size, name = letters ++ size ∧ other = letters ++ '-' :: size := by
  unfold hyphenated? at h
  dsimp only at h
  split at h
  · split at h
    · obtain rfl := Option.some.inj h
      exact ⟨_, _, List.takeWhile_append_dropWhile.symm, rfl⟩
    · cases h
  · cases h

theorem mem_spellings_iff {name other : List Char} :
    other ∈ spellings name ↔ (other = name ∨ other = lowercase name) ∨
      ∃ hyphen, hyphenated? name = some hyphen ∧ (other = hyphen ∨ other = lowercase hyphen) := by
  rw [spellings]
  cases hyphenated? name <;> simp [or_assoc]

theorem count_of_mem_spellings {d : Char} (hd : IsMark d) (hhyphen : d ≠ '-')
    {name other : List Char} (h : other ∈ spellings name) : other.count d = name.count d := by
  rcases mem_spellings_iff.1 h with (rfl | rfl) | ⟨hyphen, hname, h⟩
  · rfl
  · exact count_lowercase hd name
  · obtain ⟨letters, size, rfl, rfl⟩ := exists_of_hyphenated? hname
    have hcount : (letters ++ '-' :: size).count d = (letters ++ size).count d := by
      rw [List.count_append, List.count_cons_of_ne hhyphen.symm, ← List.count_append]
    rcases h with rfl | rfl
    · exact hcount
    · exact (count_lowercase hd _).trans hcount

theorem stroke_mem_of_mem_spellings {name other : List Char} (hother : other ∈ spellings name)
    (h : '/' ∈ other) : '/' ∈ name := by
  rwa [← List.count_pos_iff, ← count_of_mem_spellings isMark_stroke (by decide) hother,
    List.count_pos_iff]

theorem stroke_not_mem_of_mem_japaneseNames {name other : List Char}
    (hother : other ∈ japaneseNames name) : '/' ∉ other := by
  unfold japaneseNames at hother
  dsimp only at hother
  split at hother
  · obtain ⟨variant, hvariant, rfl⟩ := List.mem_map.1 hother
    have hsize (n : Nat) : '/' ∉ (toString n).toList := fun hmem => by
      rw [show (toString n).toList = Nat.toDigits 10 n from Nat.toList_repr] at hmem
      exact absurd (Nat.isDigit_of_mem_toDigits (by decide) (by decide) hmem) (by decide)
    have hvariant : '/' ∉ variant.toList :=
      (by decide : ∀ v ∈ ["", "1", "2", "3"], '/' ∉ v.toList) variant hvariant
    simp only [List.mem_append, List.mem_cons, not_or]
    exact ⟨⟨by decide, hvariant⟩, by decide, hsize _⟩
  · cases hother

/-! ## Candidates -/

theorem mem_candidates {token file : String} (h : file ∈ candidates token) :
    ∃ name, file.toList = fileName name ∧
      ((∃ stem ∈ stems (parts token.toList), name ∈ spellings stem) ∨
        name ∈ japaneseNames (join (parts token.toList))) := by
  obtain ⟨name, hname, rfl⟩ := List.mem_map.1 (List.mem_eraseDups.1 h)
  refine ⟨name, String.toList_ofList, ?_⟩
  exact (List.mem_append.1 hname).imp_left List.mem_flatMap.1

theorem isComponent_of_toList {file : String} {name : List Char}
    (hfile : file.toList = fileName name) (h : '/' ∉ name) : FilePath.IsComponent file := by
  have hlast : file.toList.getLast? = some 'f' := by
    rw [hfile, fileName, List.getLast?_append]
    rfl
  refine ⟨?_, ?_, ?_, ?_⟩
  · rw [hfile, fileName, List.mem_append]
    exact not_or.2 ⟨h, by decide⟩
  all_goals
    rintro rfl
    exact absurd hlast (by decide)

/-- **The files of a name without strokes** lie directly in a folder. -/
theorem isComponent_of_mem_candidates {token file : String} (h : file ∈ candidates token)
    (htoken : '/' ∉ token.toList) : FilePath.IsComponent file := by
  obtain ⟨name, hfile, hname⟩ := mem_candidates h
  refine isComponent_of_toList hfile fun hstroke => ?_
  rcases hname with ⟨stem, hstem, hname⟩ | hname
  · obtain ⟨p, hp, hstroke⟩ :=
      stroke_mem_of_mem_stems hstem (stroke_mem_of_mem_spellings hname hstroke)
    exact htoken (stroke_mem_of_mem_parts hp hstroke)
  · exact stroke_not_mem_of_mem_japaneseNames hname hstroke

theorem exists_stems {parts : List (List Char)} (h : parts ≠ []) :
    ∃ rest, stems parts = join parts :: rest := by
  have hlength : parts.length - 1 + 1 = parts.length :=
    Nat.sub_add_cancel (List.length_pos_iff.2 h)
  have hwhole : parts.take (parts.length - 1 + 1) = parts := by rw [hlength, List.take_length]
  rw [stems, ← hlength, List.range_succ, List.reverse_append, List.reverse_singleton,
    List.singleton_append, List.map_cons, hwhole]
  exact ⟨_, rfl⟩

theorem exists_spellings (name : List Char) : ∃ rest, spellings name = name :: rest := by
  rw [spellings]
  split <;> exact ⟨_, rfl⟩

theorem head?_candidates {token : String} (h : parts token.toList ≠ []) :
    (candidates token).head? = some (String.ofList (fileName (join (parts token.toList)))) := by
  obtain ⟨stems, hstems⟩ := exists_stems h
  obtain ⟨others, hothers⟩ := exists_spellings (join (parts token.toList))
  rw [candidates, hstems, List.flatMap_cons, hothers, List.cons_append, List.cons_append,
    List.map_cons, List.eraseDups_cons]
  rfl

/-- **The first file of a name with a stroke** has one as well. -/
theorem stroke_mem_of_head?_candidates {token : String} (h : '/' ∈ token.toList) :
    ∃ file, (candidates token).head? = some file ∧ '/' ∈ file.toList := by
  obtain ⟨p, hp, hstroke⟩ := exists_stroke_mem_parts h
  refine ⟨_, head?_candidates (List.ne_nil_of_mem hp), ?_⟩
  rw [String.toList_ofList, fileName]
  exact List.mem_append_left _ ((infix_intercalate _ hp).subset hstroke)

end Font

end SketchPreview
