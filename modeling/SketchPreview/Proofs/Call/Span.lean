import SketchPreview.Proofs.Call.Escape

/-!
# Spans of calls

A scan reports calls that stand side by side. A call name with a parenthesis behind it goes
unreported only where nothing closes that parenthesis, or where the name stands among the arguments
of a call that is reported.

* `Opening`: a call name in a text with blanks and an opening parenthesis behind it;
* `Opening.call`, `Opening.siteAt?_eq`, `exists_opening`: the call that begins there is found, and
  no other;
* `mem_scanFrom_or_within`: what a scan reports, and what it passes over;
* `one_le_depth_of_closing?`, `balanced_of_closing?`: parentheses and quotes among the arguments;
* **`scanCalls_complete`**: a scan loses nothing and makes nothing up.
-/

namespace SketchPreview.Call

open Text

/-! ## Names with a parenthesis behind them -/

/-- A call name on a line, with blanks and an opening parenthesis behind it. -/
structure Opening (s : List Char) where
  before : List Char
  verb : Verb
  blanks : List Char
  inner : List Char
  blank : ∀ c ∈ blanks, isBlank c = true
  spelled : s = before ++ (verb.name.toList ++ (blanks ++ '(' :: inner))

namespace Opening

variable {s : List Char} (o : Opening s)

/-- The place of the name. -/
def start : Nat := o.before.length

/-- The place of the parenthesis. -/
def paren : Nat := o.start + o.verb.name.toList.length + o.blanks.length

/-- The call that begins here, with its arguments. -/
def call (arguments : List Char) : Site :=
  ⟨o.start, o.paren + arguments.length + 2, o.verb, arguments⟩

theorem getElem?_ne {i : Nat} (h : o.start ≤ i) (h' : i ≤ o.paren) : s[i]? ≠ some ')' := by
  intro hi
  have hs : s = o.before ++ (o.verb.name.toList ++ o.blanks ++ ['(']) ++ o.inner :=
    o.spelled.trans (by simp)
  unfold paren start at *
  rw [hs, List.getElem?_append_left (by simp; omega), List.getElem?_append_right h] at hi
  rcases List.mem_append.1 (List.mem_of_getElem? hi) with hmem | hmem
  · rcases List.mem_append.1 hmem with hmem | hmem
    · exact absurd (isWordChar_name hmem) (by decide)
    · exact absurd (o.blank _ hmem) (by decide)
  · exact absurd (List.mem_singleton.1 hmem) (by decide)

theorem holds32 (hopen : s.count '(' < 2147483648) (hclosed : s.count ')' < 2147483648) :
    Nesting.inside.Holds32 o.inner := by
  have hinner : ('(' :: o.inner).Sublist s :=
    List.IsSuffix.sublist ⟨o.before ++ (o.verb.name.toList ++ o.blanks), by simp [← o.spelled]⟩
  have hopen' := hinner.count_le '('
  have hclosed' := hinner.count_le ')'
  rw [List.count_cons_self] at hopen'
  rw [List.count_cons_of_ne (by decide)] at hclosed'
  apply Nesting.holds32_of_count <;> simp only [Nesting.inside, max32, min32] <;> omega

end Opening

/-! ## A call is found where it is spelled -/

namespace Opening

variable {s : List Char} {arguments rest : List Char}

theorem drop_start (o : Opening s) :
    s.drop o.start = o.verb.name.toList ++ (o.blanks ++ '(' :: o.inner) :=
  (congrArg (List.drop o.start) o.spelled).trans List.drop_left

/-- **A call is found where it is spelled.** -/
theorem siteAt?_eq (o : Opening s) (h : closing? .inside o.inner = some (arguments, rest)) :
    siteAt? o.start (s.drop o.start) = some (o.call arguments) := by
  have hverb := verbAt?_spelled o.verb o.inner o.blank
  have hlength := closing?_length h
  rw [o.drop_start]
  simp only [siteAt?, hverb, h, Option.bind_eq_bind, Option.bind_some, Option.some.injEq]
  simp only [call, paren, List.length_append, List.length_cons, Site.mk.injEq, and_true, true_and]
  omega

end Opening

theorem exists_opening {s : List Char} {k : Nat} {site : Site}
    (h : siteAt? k (s.drop k) = some site) : ∃ (o : Opening s) (rest : List Char),
      closing? .inside o.inner = some (site.arguments, rest) ∧ site = o.call site.arguments := by
  have hfound := h
  simp only [siteAt?, Option.bind_eq_bind, Option.bind_eq_some_iff, Option.some.injEq] at hfound
  obtain ⟨⟨verb, inner⟩, hverb, ⟨arguments, rest⟩, hclosing, rfl⟩ := hfound
  obtain ⟨blanks, hblanks, hs⟩ := argumentsAfter?_eq_some (verbAt?_eq_some hverb)
  have hk : k ≤ s.length := by
    by_contra hlt
    rw [List.drop_eq_nil_of_le (by omega)] at hs
    simp at hs
  let o : Opening s := ⟨s.take k, verb, blanks, inner, hblanks, by
    rw [← List.append_assoc verb.name.toList, ← hs, List.take_append_drop]⟩
  have hsite := o.siteAt?_eq hclosing
  rw [show o.start = k from List.length_take_of_le hk, h] at hsite
  exact ⟨o, rest, hclosing, Option.some.inj hsite⟩

/-! ## What a scan reports -/

/-- **A scan reports every call, or passes over its name inside another one.** -/
theorem mem_scanFrom_or_within {start skip : Nat} {s : List Char} {site : Site}
    (hskip : start + skip ≤ site.start)
    (h : siteAt? site.start (s.drop (site.start - start)) = some site) :
    site ∈ scanFrom start skip s ∨
      ∃ outer ∈ scanFrom start skip s, outer.start < site.start ∧ site.start < outer.stop := by
  induction s generalizing start skip with
  | nil =>
    rw [List.drop_nil] at h
    cases h
  | cons c rest ih =>
    have hbehind {skip : Nat} (hskip : start + 1 + skip ≤ site.start) :=
      ih hskip (by
        have hdrop : site.start - start = site.start - (start + 1) + 1 := by omega
        rwa [hdrop, List.drop_succ_cons] at h)
    cases skip with
    | succ skip => exact hbehind (by omega)
    | zero =>
      rw [scanFrom]
      split
      · next first hfirst =>
        have hstart := start_of_siteAt? hfirst
        by_cases hat : site.start = start
        · rw [hat, Nat.sub_self] at h
          exact .inl (Option.some.inj (h.symm.trans hfirst) ▸ List.mem_cons_self)
        -- behind the call found here the scan goes on where that call ends
        · by_cases hlt : site.start < first.stop
          · exact .inr ⟨first, List.mem_cons_self, by omega, hlt⟩
          · refine (hbehind (by omega)).imp (List.mem_cons_of_mem _) ?_
            rintro ⟨outer, hmem, hwithin⟩
            exact ⟨outer, List.mem_cons_of_mem _ hmem, hwithin⟩
      · next hnone =>
        have hat : site.start ≠ start := by
          intro hat
          rw [hat, Nat.sub_self] at h
          cases hnone.symm.trans h
        exact hbehind (by omega)

/-! ## Argument lists -/

theorem one_le_depth_of_closing? {n : Nesting} {s inner rest : List Char} (hn : 1 ≤ n.depth)
    (h : closing? n s = some (inner, rest)) :
    (∀ pre, pre <+: inner → 1 ≤ (pre.foldl Nesting.step n).depth) ∧
      (inner.foldl Nesting.step n).quote = none ∧ (inner.foldl Nesting.step n).depth = 1 := by
  induction s generalizing n inner rest with
  | nil => cases h
  | cons c s ih =>
    unfold closing? at h
    split at h
    · next htop =>
      cases h
      refine ⟨fun pre hpre => ?_, ((Nesting.isTop_step_iff hn).1 htop).2⟩
      rw [List.prefix_nil.1 hpre]
      exact hn
    · next htop =>
      obtain ⟨p, hp, he⟩ := Option.map_eq_some_iff.1 h
      cases he
      obtain ⟨hopen, hend⟩ := ih (Nesting.one_le_depth_step hn htop) hp
      refine ⟨fun pre hpre => ?_, hend⟩
      cases pre with
      | nil => exact hn
      | cons a pre =>
        obtain ⟨rfl, htail⟩ := List.cons_prefix_cons.1 hpre
        exact hopen pre htail

/-- A text is read alike inside a parenthesis and outside, one level apart. -/
theorem depth_foldl_inside (s : List Char) :
    (s.foldl Nesting.step .inside).depth = (s.foldl Nesting.step .start).depth + 1 := by
  have hreading : Nesting.inside.reading = Nesting.start.reading := rfl
  rw [Nesting.depth_foldl_step, Nesting.depth_foldl_step, hreading]
  show (1 : Int) + _ - _ = 0 + _ - _ + 1
  omega

theorem quote_foldl_inside (s : List Char) :
    (s.foldl Nesting.step .inside).quote = none ↔ (s.foldl Nesting.step .start).quote = none := by
  rw [← Nesting.reading_eq_outside_iff, ← Nesting.reading_eq_outside_iff,
    Nesting.reading_foldl_step, Nesting.reading_foldl_step]
  rfl

theorem balanced_of_closing? {s arguments rest : List Char}
    (h : closing? .inside s = some (arguments, rest)) :
    (∀ pre, pre <+: arguments → 0 ≤ (pre.foldl Nesting.step .start).depth) ∧
      (arguments.foldl Nesting.step .start).isTop := by
  obtain ⟨hopen, hquote, hdepth⟩ := one_le_depth_of_closing? (by decide) h
  refine ⟨fun pre hpre => ?_, ?_⟩
  · have := hopen pre hpre
    rw [depth_foldl_inside] at this
    omega
  · rw [depth_foldl_inside] at hdepth
    have hzero : (arguments.foldl Nesting.step .start).depth = 0 := by omega
    rw [Nesting.isTop, hzero, (quote_foldl_inside arguments).1 hquote]
    rfl

/-! ## All calls of a line -/

theorem Opening.getElem?_stop {s arguments rest : List Char} (o : Opening s)
    (h : o.inner = arguments ++ ')' :: rest) :
    s[(o.call arguments).stop - 1]? = some ')' := by
  have hs : s =
      (o.before ++ (o.verb.name.toList ++ (o.blanks ++ '(' :: arguments))) ++ ')' :: rest :=
    o.spelled.trans (by simp [h])
  have hlength : (o.call arguments).stop - 1 =
      (o.before ++ (o.verb.name.toList ++ (o.blanks ++ '(' :: arguments))).length := by
    simp only [call, paren, start, List.length_append, List.length_cons]
    omega
  rw [hlength]
  exact (congrArg (·[_]?) hs).trans (by simp)

/-- **A scan loses nothing and makes nothing up.** The calls that it reports stand one behind the
other. Each is spelled as a call, up to the parenthesis that closes it. Where a name, blanks and an
opening parenthesis stand on the line and something closes the parenthesis, the call is reported, or
the name and the parenthesis stand within a call that is. The arguments of a call never close more
parentheses than they open, and leave no parenthesis and no quote open. Depths are counted without
bound, and 32 bits hold them for fewer than `2 ^ 31` parentheses of a kind on a line. -/
theorem scanCalls_complete (line : List Char) :
    (scanCalls line).Pairwise (fun site next => site.stop ≤ next.start) ∧
    (∀ site ∈ scanCalls line, ∃ (o : Opening line) (rest : List Char),
      o.inner = site.arguments ++ ')' :: rest ∧
      closing? .inside o.inner = some (site.arguments, rest) ∧ site = o.call site.arguments) ∧
    (∀ (o : Opening line) (arguments rest : List Char),
      closing? .inside o.inner = some (arguments, rest) →
        o.call arguments ∈ scanCalls line ∨
          ∃ outer ∈ scanCalls line, outer.start < o.start ∧ o.paren + 1 < outer.stop) ∧
    (∀ site ∈ scanCalls line,
      (∀ pre, pre <+: site.arguments → 0 ≤ (pre.foldl Nesting.step .start).depth) ∧
        (site.arguments.foldl Nesting.step .start).isTop) ∧
    (line.count '(' < 2147483648 → line.count ')' < 2147483648 →
      ∀ o : Opening line, Nesting.inside.Holds32 o.inner) := by
  have hspelled : ∀ site ∈ scanCalls line, ∃ (o : Opening line) (rest : List Char),
      o.inner = site.arguments ++ ')' :: rest ∧
      closing? .inside o.inner = some (site.arguments, rest) ∧ site = o.call site.arguments := by
    intro site hmem
    obtain ⟨-, hsite⟩ := siteAt?_of_mem_scanFrom hmem
    obtain ⟨o, rest, hclosing, hcall⟩ := exists_opening hsite
    exact ⟨o, rest, closing?_eq_some (by decide) hclosing, hclosing, hcall⟩
  refine ⟨scanCalls_pairwise line, hspelled, fun o arguments rest h => ?_, fun site hmem => ?_,
    fun hopen hclosed o => o.holds32 hopen hclosed⟩
  · have hscan : o.call arguments ∈ scanFrom 0 0 line ∨ ∃ outer ∈ scanFrom 0 0 line,
        outer.start < (o.call arguments).start ∧ (o.call arguments).start < outer.stop :=
      mem_scanFrom_or_within (Nat.zero_le _) (o.siteAt?_eq h)
    refine hscan.imp_right ?_
    rintro ⟨outer, hmem, hbefore, hbehind⟩
    refine ⟨outer, hmem, hbefore, ?_⟩
    -- the outer call ends in a parenthesis, and none stands from the name to the parenthesis
    obtain ⟨o', rest', hinner, -, houter⟩ := hspelled outer hmem
    have hlast := o'.getElem?_stop hinner
    rw [← houter] at hlast
    have hstart : (o.call arguments).start = o.start := rfl
    by_contra hlt
    exact o.getElem?_ne (by omega) (by omega) hlast
  · obtain ⟨o, rest, -, hclosing, -⟩ := hspelled site hmem
    exact balanced_of_closing? hclosing

/-- A call in the arguments of another one, which stands in those of a call that nothing closes. -/
theorem scanCalls_complete_nested :
    let line := "setFont(print(f(drawBox (1, \")\"))); print (y)".toList
    ∃ o : Opening line, o.verb = .drawBox ∧
      closing? .inside o.inner = some ("1, \")\"".toList, ")); print (y)".toList) ∧
      o.call "1, \")\"".toList ∉ scanCalls line ∧
      ∃ outer ∈ scanCalls line, outer.start < o.start ∧ o.paren + 1 < outer.stop := by
  intro line
  let o : Opening line := ⟨"setFont(print(f(".toList, .drawBox, [' '],
    "1, \")\"))); print (y)".toList, List.forall_mem_singleton.2 (by decide), by decide⟩
  have hclosing : closing? .inside o.inner = some ("1, \")\"".toList, ")); print (y)".toList) := by
    decide
  have hnot : o.call "1, \")\"".toList ∉ scanCalls line := by decide
  exact ⟨o, rfl, hclosing, hnot,
    ((scanCalls_complete line).2.2.1 o _ _ hclosing).resolve_left hnot⟩

end SketchPreview.Call
