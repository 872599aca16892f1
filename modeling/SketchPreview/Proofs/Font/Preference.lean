import SketchPreview.Proofs.Distinct
import SketchPreview.Proofs.Font.Candidate

/-!
# Files of more parts come first

A font is looked for under the first parts of its name, from all of them down to one. No way to
spell such a name touches the underscores, and there is one between every two parts: spellings of
different numbers of parts never meet, and no file moves in front of one that has more parts.

* `leadingName`, `partCount`, `file`: the name of the first parts, and the file of a name;
* `count_leadingName`, `eq_of_mem_spellings`: the underscores of a spelling;
* `exists_stems_split`, `exists_candidates_split`: what is tried before such a name;
* **`candidates_most_specific_first`**.
-/

namespace SketchPreview.Font

open Text

/-- The name that the first `k` parts of a font name make up. -/
def leadingName (token : String) (k : Nat) : List Char := join ((parts token.toList).take k)

/-- The number of parts of a font name. -/
def partCount (token : String) : Nat := (parts token.toList).length

/-- The file of a name. -/
def file (name : List Char) : String := String.ofList (fileName name)

theorem toList_file (name : List Char) : (file name).toList = fileName name :=
  String.toList_ofList

theorem file_injective {name other : List Char} (h : file name = file other) : name = other :=
  List.append_cancel_right (String.ofList_injective h)

/-! ## Underscores -/

theorem not_mem_of_mem_parts {token p : List Char} (h : p ∈ parts token) : '_' ∉ p :=
  not_mem_of_mem_pieces (List.mem_of_mem_filter h)

theorem count_join {ps : List (List Char)} (hps : ps ≠ []) (h : ∀ p ∈ ps, '_' ∉ p) :
    (join ps).count '_' + 1 = ps.length := by
  rw [← length_pieces, pieces_eq_splitOn, join, List.splitOn_intercalate '_' h hps]

theorem count_leadingName {token : String} {k : Nat} (h1 : 1 ≤ k) (hk : k ≤ partCount token) :
    (leadingName token k).count '_' + 1 = k := by
  have hlength : ((parts token.toList).take k).length = k := List.length_take_of_le hk
  rw [leadingName, count_join, hlength]
  · rw [ne_eq, ← List.length_eq_zero_iff, hlength]
    omega
  · intro p hp
    exact not_mem_of_mem_parts (List.mem_of_mem_take hp)

theorem eq_of_mem_spellings {token : String} {j k : Nat} (hj1 : 1 ≤ j) (hj : j ≤ partCount token)
    (hk1 : 1 ≤ k) (hk : k ≤ partCount token) {name : List Char}
    (hnj : name ∈ spellings (leadingName token j)) (hnk : name ∈ spellings (leadingName token k)) :
    j = k := by
  have hcj := count_leadingName hj1 hj
  have hck := count_leadingName hk1 hk
  have := count_of_mem_spellings isMark_underscore (by decide) hnj
  have := count_of_mem_spellings isMark_underscore (by decide) hnk
  omega

theorem mem_spellings_self (name : List Char) : name ∈ spellings name :=
  mem_spellings_iff.2 (.inl (.inl rfl))

theorem lowercase_mem_spellings (name : List Char) : lowercase name ∈ spellings name :=
  mem_spellings_iff.2 (.inl (.inr rfl))

/-! ## The order -/

theorem stems_parts (token : String) : stems (parts token.toList) =
    ((List.range (partCount token)).reverse.map fun i => leadingName token (i + 1)) ++
      (withoutNumber? (join (parts token.toList))).toList := rfl

theorem exists_stems_split {token : String} {k : Nat} (h1 : 1 ≤ k) (hk : k ≤ partCount token) :
    ∃ longer shorter, stems (parts token.toList) = longer ++ leadingName token k :: shorter ∧
      ∀ name ∈ longer, ∃ m, k < m ∧ m ≤ partCount token ∧ name = leadingName token m := by
  have hmem : k - 1 ∈ (List.range (partCount token)).reverse := by
    simp only [List.mem_reverse, List.mem_range]
    omega
  obtain ⟨above, below, hsplit⟩ := List.append_of_mem hmem
  -- The numbers of parts are tried downwards, so those in front of `k - 1` are greater.
  have hdescending : (above ++ (k - 1) :: below).Pairwise (· > ·) := by
    rw [← hsplit, List.pairwise_reverse]
    exact List.pairwise_lt_range
  refine ⟨above.map fun i => leadingName token (i + 1),
    (below.map fun i => leadingName token (i + 1)) ++
      (withoutNumber? (join (parts token.toList))).toList, ?_, ?_⟩
  · rw [stems_parts, hsplit, List.map_append, List.map_cons, Nat.sub_add_cancel h1,
      List.append_assoc, List.cons_append]
  · intro name hname
    obtain ⟨i, hi, rfl⟩ := List.mem_map.1 hname
    have hik := (List.pairwise_append.1 hdescending).2.2 i hi (k - 1) List.mem_cons_self
    have hin : i ∈ (List.range (partCount token)).reverse := by
      rw [hsplit]
      exact List.mem_append_left _ hi
    simp only [List.mem_reverse, List.mem_range] at hin
    exact ⟨i + 1, by omega, by omega, rfl⟩

theorem file_mem_candidates {token : String} {k : Nat} (h1 : 1 ≤ k) (hk : k ≤ partCount token)
    {name : List Char} (h : name ∈ spellings (leadingName token k)) :
    file name ∈ candidates token := by
  obtain ⟨longer, shorter, hstems, -⟩ := exists_stems_split h1 hk
  refine List.mem_eraseDups.2 (List.mem_map_of_mem (f := file) (List.mem_append_left _ ?_))
  rw [hstems]
  exact List.mem_flatMap.2 ⟨_, List.mem_append_right _ List.mem_cons_self, h⟩

/-- The files are cut at the file of the first `k` parts: in front of it stand spellings of more
parts. -/
theorem exists_candidates_split {token : String} {k : Nat} (h1 : 1 ≤ k)
    (hk : k ≤ partCount token) :
    ∃ earlier later, candidates token = earlier ++ file (leadingName token k) :: later ∧
      ∀ f ∈ earlier, ∃ m, k < m ∧ m ≤ partCount token ∧
        ∃ name ∈ spellings (leadingName token m), f = file name := by
  obtain ⟨longer, shorter, hstems, hlonger⟩ := exists_stems_split h1 hk
  obtain ⟨others, hothers⟩ := exists_spellings (leadingName token k)
  have hfront : ∀ f ∈ (longer.flatMap spellings).map file, ∃ m, k < m ∧ m ≤ partCount token ∧
      ∃ name ∈ spellings (leadingName token m), f = file name := by
    intro f hf
    obtain ⟨name, hname, rfl⟩ := List.mem_map.1 hf
    obtain ⟨long, hlong, hname⟩ := List.mem_flatMap.1 hname
    obtain ⟨m, hm, hmn, rfl⟩ := hlonger long hlong
    exact ⟨m, hm, hmn, name, hname, rfl⟩
  -- The file has not come up before: in front of it stand spellings of more parts only.
  have hnew : file (leadingName token k) ∉ (longer.flatMap spellings).map file := by
    intro hmem
    obtain ⟨m, hm, hmn, name, hname, hfile⟩ := hfront _ hmem
    obtain rfl := file_injective hfile
    have := eq_of_mem_spellings h1 hk (by omega) hmn (mem_spellings_self _) hname
    omega
  obtain ⟨rest, hrest⟩ : ∃ rest, candidates token =
      ((longer.flatMap spellings).map file ++ file (leadingName token k) :: rest).eraseDups := by
    rw [candidates, hstems, List.flatMap_append, List.flatMap_cons, hothers, List.append_assoc,
      List.map_append, List.cons_append, List.cons_append, List.map_cons]
    exact ⟨_, rfl⟩
  obtain ⟨later, hlater⟩ := eraseDups_append_cons hnew rest
  refine ⟨_, later, hrest.trans hlater, ?_⟩
  intro f hf
  exact hfront f (List.mem_eraseDups.1 hf)

theorem lowercase_fileName {name : List Char} (h : 'Σ' ∉ name) :
    lowercase (fileName name) = fileName (lowercase name) := by
  have hfile : 'Σ' ∉ fileName name := by
    rw [fileName, List.mem_append]
    exact not_or.2 ⟨h, by decide⟩
  have hending : ".bdf".toList.flatMap lowerChar = ".bdf".toList := by decide
  rw [lowercase_eq_flatMap hfile, fileName, List.flatMap_append, hending, lowercase_eq_flatMap h,
    fileName]

theorem more_parts_of_idxOf_lt {token f : String} {k : Nat} (h1 : 1 ≤ k) (hk : k ≤ partCount token)
    (h : (candidates token).idxOf f < (candidates token).idxOf (file (leadingName token k))) :
    ∃ m, k < m ∧ m ≤ partCount token ∧
      ∃ name ∈ spellings (leadingName token m), f = file name := by
  have hnodup : (candidates token).Nodup := nodup_eraseDups _
  obtain ⟨earlier, later, hsplit, hearlier⟩ := exists_candidates_split h1 hk
  rw [hsplit] at h hnodup
  apply hearlier
  apply mem_of_idxOf_lt_idxOf _ h
  intro hmem
  exact (List.nodup_append.1 hnodup).2.2 _ hmem _ List.mem_cons_self rfl

theorem idxOf_lt_of_fewer_parts {token : String} {j k : Nat} (h1 : 1 ≤ k) (hkj : k < j)
    (hj : j ≤ partCount token) {name : List Char} (h : name ∈ spellings (leadingName token k)) :
    (candidates token).idxOf (file (leadingName token j)) <
      (candidates token).idxOf (file name) := by
  have hk : k ≤ partCount token := by omega
  have hnodup : (candidates token).Nodup := nodup_eraseDups _
  have hmem := file_mem_candidates h1 hk h
  obtain ⟨earlier, later, hsplit, hearlier⟩ := exists_candidates_split (by omega) hj
  rw [hsplit] at hmem hnodup ⊢
  apply idxOf_lt_idxOf_of_mem hnodup
  rcases List.mem_append.1 hmem with hmem | hmem
  · obtain ⟨m, hm, hmn, other, hother, hfile⟩ := hearlier _ hmem
    obtain rfl := file_injective hfile
    have := eq_of_mem_spellings (by omega) hmn h1 hk hother h
    omega
  · rcases List.mem_cons.1 hmem with hfile | hmem
    · obtain rfl := file_injective hfile
      have := eq_of_mem_spellings h1 hk (by omega) hj h (mem_spellings_self _)
      omega
    · exact hmem

/-- **Files of more parts come first.** The files to try are distinct and end in `.bdf`. For each
number of parts, the name that the first parts make up is listed as it is and in lower case, and
only spellings of more parts are tried before it; so it is tried before all spellings of fewer
parts. Lower case is that of the name: a capital sigma at its end becomes the final one, which it
would not be in front of the ending. -/
theorem candidates_most_specific_first (token : String) :
    (candidates token).Nodup ∧
    (∀ f ∈ candidates token, ".bdf".toList <:+ f.toList) ∧
    ∀ k, 1 ≤ k → k ≤ partCount token →
      file (leadingName token k) ∈ candidates token ∧
      file (lowercase (leadingName token k)) ∈ candidates token ∧
      ('Σ' ∉ leadingName token k →
        (file (lowercase (leadingName token k))).toList =
          lowercase (file (leadingName token k)).toList) ∧
      (∀ f, (candidates token).idxOf f < (candidates token).idxOf (file (leadingName token k)) →
        ∃ m, k < m ∧ m ≤ partCount token ∧
          ∃ name ∈ spellings (leadingName token m), f = file name) ∧
      ∀ j, k < j → j ≤ partCount token → ∀ name ∈ spellings (leadingName token k),
        (candidates token).idxOf (file (leadingName token j)) <
          (candidates token).idxOf (file name) := by
  refine ⟨nodup_eraseDups _, ?_, ?_⟩
  · intro f hf
    obtain ⟨name, hname, -⟩ := mem_candidates hf
    rw [hname]
    exact List.suffix_append _ _
  · intro k h1 hk
    refine ⟨file_mem_candidates h1 hk (mem_spellings_self _),
      file_mem_candidates h1 hk (lowercase_mem_spellings _), ?_, ?_, ?_⟩
    · intro hsigma
      rw [toList_file, toList_file, lowercase_fileName hsigma]
    · intro f hf
      exact more_parts_of_idxOf_lt h1 hk hf
    · intro j hkj hj name hname
      exact idxOf_lt_of_fewer_parts h1 hkj hj hname

/-- The spelling with a hyphen, which only the first part has, comes behind the name of both
parts. -/
theorem candidates_most_specific_first_hyphenated :
    let token := "u8g2_font_fixed6x10_tf"
    1 ≤ 1 ∧ 1 < 2 ∧ 2 ≤ partCount token ∧ "fixed-6x10".toList ∈ spellings (leadingName token 1) ∧
      (candidates token).idxOf "fixed6x10_tf.bdf" < (candidates token).idxOf "fixed-6x10.bdf" := by
  intro token
  have hparts : 2 ≤ partCount token := by decide
  have hmem : "fixed-6x10".toList ∈ spellings (leadingName token 1) := by decide
  have hboth : file (leadingName token 2) = "fixed6x10_tf.bdf" := by decide
  have hfirst : file "fixed-6x10".toList = "fixed-6x10.bdf" := by decide
  obtain ⟨-, -, hfiles⟩ := candidates_most_specific_first token
  obtain ⟨-, -, -, -, horder⟩ := hfiles 1 (by decide) (by omega)
  have hlt := horder 2 (by decide) hparts _ hmem
  rw [hboth, hfirst] at hlt
  exact ⟨by decide, by decide, hparts, hmem, hlt⟩

end SketchPreview.Font
