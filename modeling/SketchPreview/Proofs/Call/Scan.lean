import SketchPreview.Proofs.Compile.Call
import SketchPreview.Proofs.Text

/-!
# How a call is spelled

* `closing?_eq_some`, `verbAt?_eq_some`, `siteAt?_eq_some`, `mem_scanFrom`: what is found is spelled
  as a call;
* `siteAt?_of_mem_scanFrom`: what is scanned is found at its place;
* `verbAt?_of_argumentsAfter?`, `verbAt?_spelled`: what is spelled is found;
* `verbAt?_eq_none`: where no call begins;
* `scanFrom_skip`, `scanFrom_append`, `scanFrom_of_siteAt?`: a scan goes past what is no call, and
  goes on behind a call.
-/

namespace SketchPreview.Call

open Text

/-! ## What is found -/

theorem Nesting.isTop_step_iff {n : Nesting} {c : Char} (hn : 1 ≤ n.depth) :
    (n.step c).isTop ↔ c = ')' ∧ n.quote = none ∧ n.depth = 1 := by
  unfold Nesting.step Nesting.isTop
  grind

theorem Nesting.one_le_depth_step {n : Nesting} {c : Char} (hn : 1 ≤ n.depth)
    (h : ¬(n.step c).isTop) : 1 ≤ (n.step c).depth := by
  unfold Nesting.step Nesting.isTop at *
  grind

theorem closing?_eq_some {n : Nesting} {s inner rest : List Char} (hn : 1 ≤ n.depth)
    (h : closing? n s = some (inner, rest)) : s = inner ++ ')' :: rest := by
  induction s generalizing n inner rest with
  | nil => cases h
  | cons c s ih =>
    unfold closing? at h
    split at h
    · next htop =>
      cases h
      rw [((Nesting.isTop_step_iff hn).1 htop).1]
      rfl
    · next htop =>
      obtain ⟨p, hp, he⟩ := Option.map_eq_some_iff.1 h
      cases he
      rw [ih (Nesting.one_le_depth_step hn htop) hp]
      rfl

theorem argumentsAfter?_eq_some {v : Verb} {s inner : List Char}
    (h : argumentsAfter? v s = some inner) :
    ∃ blanks, (∀ c ∈ blanks, isBlank c = true) ∧ s = v.name.toList ++ blanks ++ '(' :: inner := by
  obtain ⟨after, hname, hopen⟩ := Option.bind_eq_some_iff.1 h
  have hafter : after.takeWhile isBlank ++ trimStart after = after :=
    List.takeWhile_append_dropWhile
  refine ⟨after.takeWhile isBlank, fun c hc => List.all_eq_true.1 List.all_takeWhile c hc, ?_⟩
  rw [dropPrefix?_eq_some_iff.1 hname, List.append_assoc]
  rw [dropPrefix?_eq_some_iff.1 hopen, List.singleton_append] at hafter
  rw [hafter]

theorem verbAt?_eq_some {s inner : List Char} {v : Verb} (h : verbAt? s = some (v, inner)) :
    argumentsAfter? v s = some inner := by
  have hmem : (v, inner) ∈ Verb.all.filterMap fun v => (argumentsAfter? v s).map fun rest =>
      (v, rest) := by
    refine List.foldlRecOn (motive := fun best => ∀ f, best = some f → f ∈ _) _ _
      (by simp) (fun best hbest f hf g hg => ?_) _ h
    split at hg
    · exact Option.some.inj hg ▸ hf
    · split at hg
      · exact Option.some.inj hg ▸ hf
      · exact hbest g hg
  obtain ⟨w, -, hw⟩ := List.mem_filterMap.1 hmem
  obtain ⟨rest, hrest, he⟩ := Option.map_eq_some_iff.1 hw
  cases he
  exact hrest

/-- A text that begins with a call: its name, blanks, and its arguments in parentheses. -/
def BeginsWith (site : Site) (s : List Char) : Prop :=
  ∃ blanks rest, (∀ c ∈ blanks, isBlank c = true) ∧
    s = site.verb.name.toList ++ blanks ++ '(' :: (site.arguments ++ ')' :: rest)

theorem siteAt?_eq_some {start : Nat} {s : List Char} {site : Site}
    (h : siteAt? start s = some site) : BeginsWith site s := by
  simp only [siteAt?, Option.bind_eq_bind, Option.bind_eq_some_iff, Option.some.injEq] at h
  obtain ⟨⟨verb, inner⟩, hverb, ⟨arguments, rest⟩, hclosing, rfl⟩ := h
  obtain ⟨blanks, hblanks, hs⟩ := argumentsAfter?_eq_some (verbAt?_eq_some hverb)
  have hinner : inner = arguments ++ ')' :: rest := closing?_eq_some (by decide) hclosing
  exact ⟨blanks, rest, hblanks, hinner ▸ hs⟩

theorem siteAt?_of_mem_scanFrom {start skip : Nat} {s : List Char} {site : Site}
    (h : site ∈ scanFrom start skip s) :
    start ≤ site.start ∧ siteAt? site.start (s.drop (site.start - start)) = some site := by
  induction s generalizing start skip with
  | nil => simp [scanFrom] at h
  | cons c rest ih =>
    have hbehind {skip : Nat} (h : site ∈ scanFrom (start + 1) skip rest) :
        start ≤ site.start ∧
          siteAt? site.start ((c :: rest).drop (site.start - start)) = some site := by
      obtain ⟨hle, hsite⟩ := ih h
      have hdrop : site.start - start = site.start - (start + 1) + 1 := by omega
      exact ⟨Nat.le_of_succ_le hle, by rwa [hdrop, List.drop_succ_cons]⟩
    cases skip with
    | succ skip => exact hbehind h
    | zero =>
      rw [scanFrom] at h
      split at h
      · next first hfirst =>
        rcases List.mem_cons.1 h with rfl | h
        · rw [start_of_siteAt? hfirst, Nat.sub_self]
          exact ⟨Nat.le_refl _, hfirst⟩
        · exact hbehind h
      · exact hbehind h

/-- A call that is scanned stands somewhere in the text. -/
theorem mem_scanFrom {start skip : Nat} {s : List Char} {site : Site}
    (h : site ∈ scanFrom start skip s) : ∃ pre t, s = pre ++ t ∧ BeginsWith site t :=
  ⟨_, _, (List.take_append_drop (site.start - start) s).symm,
    siteAt?_eq_some (siteAt?_of_mem_scanFrom h).2⟩

theorem mem_sitesFrom {n k : Nat} {lines : List (List Char)} {site : Site}
    (h : (k, site) ∈ sitesFrom n lines) : ∃ line ∈ lines, site ∈ scanCalls line := by
  obtain ⟨p, hp, hsite⟩ := List.mem_flatMap.1 h
  obtain ⟨site', hsite', he⟩ := List.mem_map.1 hsite
  cases he
  exact ⟨p.1, List.fst_mem_of_mem_zipIdx hp, hsite'⟩

/-! ## What is spelled -/

theorem isWordChar_name {v : Verb} {c : Char} (hc : c ∈ v.name.toList) : isWordChar c = true := by
  have hall : v.name.toList.all isWordChar = true := by cases v <;> decide
  exact List.all_eq_true.1 hall c hc

theorem Verb.eq_of_name_eq {v w : Verb} (h : v.name.toList = w.name.toList) : v = w := by
  revert h
  cases v <;> cases w <;> decide

theorem takeWhile_of_argumentsAfter? {v : Verb} {s inner : List Char}
    (h : argumentsAfter? v s = some inner) : s.takeWhile isWordChar = v.name.toList := by
  obtain ⟨blanks, hblanks, hs⟩ := argumentsAfter?_eq_some h
  rw [hs, List.append_assoc]
  exact (takeWhile_dropWhile_of_stop (fun a ha => isWordChar_name ha)
    (word_ends hblanks (c := '(') (by decide) inner)).1

theorem verbAt?_of_argumentsAfter? {v : Verb} {s inner : List Char}
    (h : argumentsAfter? v s = some inner) : verbAt? s = some (v, inner) := by
  have hsome : (verbAt? s).isSome := by
    have hmem : (v, inner) ∈ Verb.all.filterMap fun v => (argumentsAfter? v s).map fun rest =>
        (v, rest) := List.mem_filterMap.2 ⟨v, v.mem_all, by rw [h]; rfl⟩
    obtain ⟨first, others, hfitting⟩ := List.exists_cons_of_ne_nil (List.ne_nil_of_mem hmem)
    rw [verbAt?, hfitting]
    refine List.foldlRecOn (motive := fun best : Option (Verb × List Char) => best.isSome)
      others _ rfl fun best hbest f _ => ?_
    obtain ⟨b, rfl⟩ := Option.isSome_iff_exists.1 hbest
    dsimp only
    split <;> rfl
  obtain ⟨⟨w, inner'⟩, hw⟩ := Option.isSome_iff_exists.1 hsome
  have h' := verbAt?_eq_some hw
  obtain rfl : v = w := Verb.eq_of_name_eq
    ((takeWhile_of_argumentsAfter? h).symm.trans (takeWhile_of_argumentsAfter? h'))
  rw [hw, Option.some.inj (h.symm.trans h')]

theorem verbAt?_spelled (v : Verb) {blanks : List Char} (inner : List Char)
    (h : ∀ c ∈ blanks, isBlank c = true) :
    verbAt? (v.name.toList ++ (blanks ++ '(' :: inner)) = some (v, inner) := by
  refine verbAt?_of_argumentsAfter? (Option.bind_eq_some_iff.2
    ⟨blanks ++ '(' :: inner, dropPrefix?_eq_some_iff.2 rfl, ?_⟩)
  rw [trimStart_append h, trimStart_cons (by decide)]
  exact dropPrefix?_eq_some_iff.2 rfl

/-! ## What is passed over -/

theorem verbAt?_eq_none {w t : List Char} {c : Char} (hw : ∀ a ∈ w, isWordChar a = true)
    (hword : isWordChar c = false) (hblank : isBlank c = false) (hopen : c ≠ '(') :
    verbAt? (w ++ c :: t) = none := by
  by_contra hne
  obtain ⟨⟨v, inner⟩, hverb⟩ := Option.ne_none_iff_exists'.1 hne
  obtain ⟨blanks, hblanks, hs⟩ := argumentsAfter?_eq_some (verbAt?_eq_some hverb)
  have hends := word_ends hblanks (c := '(') (by decide) inner
  -- behind the word stands `c` on one side, and a blank or a parenthesis on the other
  have hleft := (takeWhile_dropWhile_of_stop (r := c :: t) hw (by simp [hword])).2
  have hright := (takeWhile_dropWhile_of_stop (fun a ha => isWordChar_name (v := v) ha) hends).2
  rw [hs, List.append_assoc, hright] at hleft
  cases blanks with
  | nil => exact hopen (List.cons.inj hleft).1.symm
  | cons b blanks =>
    obtain rfl := (List.cons.inj hleft).1
    exact absurd (hblanks _ List.mem_cons_self) (by simp [hblank])

theorem scanFrom_skip (start skip : Nat) (s : List Char) :
    scanFrom start skip s = scanFrom (start + skip) 0 (s.drop skip) := by
  induction s generalizing start skip with
  | nil => rw [List.drop_nil, scanFrom, scanFrom]
  | cons c rest ih =>
    cases skip with
    | zero => rfl
    | succ skip => rw [scanFrom, ih, List.drop_succ_cons, Nat.add_right_comm, Nat.add_assoc]

theorem scanFrom_append {start : Nat} {w s : List Char}
    (h : ∀ t, t ≠ [] → t <:+ w → verbAt? (t ++ s) = none) :
    scanFrom start 0 (w ++ s) = scanFrom (start + w.length) 0 s := by
  induction w generalizing start with
  | nil => rfl
  | cons c w ih =>
    have hsite : siteAt? start (c :: (w ++ s)) = none := by
      rw [siteAt?, ← List.cons_append, h (c :: w) (by simp) (List.suffix_refl _)]
      rfl
    have htail : scanFrom (start + 1) 0 (w ++ s) = scanFrom (start + 1 + w.length) 0 s :=
      ih fun t ht hsuffix => h t ht (hsuffix.trans (List.suffix_cons c w))
    rw [List.cons_append, scanFrom, hsite, htail, List.length_cons]
    rw [Nat.add_assoc, Nat.add_comm 1]

theorem scanFrom_of_siteAt? {start : Nat} {s : List Char} {site : Site}
    (h : siteAt? start s = some site) (hstop : start < site.stop) :
    scanFrom start 0 s = site :: scanFrom site.stop 0 (s.drop (site.stop - start)) := by
  cases s with
  | nil => cases h
  | cons c rest =>
    obtain ⟨k, hk⟩ : ∃ k, site.stop = start + 1 + k := ⟨site.stop - start - 1, by omega⟩
    have hskip : site.stop - start - 1 = k := by omega
    have hdrop : site.stop - start = k + 1 := by omega
    rw [scanFrom, h]
    show site :: scanFrom (start + 1) (site.stop - start - 1) rest = _
    rw [hskip, hdrop, scanFrom_skip, List.drop_succ_cons, hk]

end SketchPreview.Call
