import SketchPreview.Proofs.Call.Tightened

/-!
# Arguments put together again

The text that a call draws is made of its last arguments, put together with commas. No argument is
cut a second time, and behind all but the last one the nesting is that in front of the first, also
where a parenthesis or a quote is never closed: a piece ends only at a comma outside of both. So the
arguments are found again in what has been put together.

* `Uncut`, `IsPiece`: texts without a comma between arguments, and those in front of one;
* `topPieces_congr`, `topPieces_append`: the cut goes on behind a text that is not cut;
* `exists_comma`, `uncut_of_mem_topPieces`: the pieces of a text are such;
* `Uncut.trim`, `IsPiece.trim`: blanks around them do not matter;
* `Rejoins`, `rejoins_splitArguments`, `Rejoins.splitArguments_joined`: arguments that are found
  again;
* **`splitArguments_stable`**.
-/

namespace SketchPreview.Call

open Text Reading

/-! ## Pieces are cut no further -/

/-- A text without a comma between arguments. -/
def Uncut (s : List Char) : Prop := topPieces .start s = [s]

/-- A text without a comma between arguments, behind which such a comma may stand. -/
structure IsPiece (s : List Char) : Prop where
  uncut : Uncut s
  isTop : (s.foldl Nesting.step .start).isTop

/-- Of a nesting, the reading and the depth count. -/
theorem topPieces_congr {n m : Nesting} (hreading : n.reading = m.reading)
    (hdepth : n.depth = m.depth) (s : List Char) : topPieces n s = topPieces m s := by
  induction s generalizing n m with
  | nil => rfl
  | cons c s ih =>
    have htop : n.isTop = m.isTop := by
      rw [Bool.eq_iff_iff, Nesting.isTop_iff, Nesting.isTop_iff, hreading, hdepth]
    have hstep : topPieces (n.step c) s = topPieces (m.step c) s := by
      refine ih ?_ ?_
      · rw [Nesting.reading_step, Nesting.reading_step, hreading]
      · rw [Nesting.depth_step, Nesting.depth_step, hreading, hdepth]
    rw [topPieces, topPieces, htop, hstep]

theorem topPieces_of_isTop {n : Nesting} (h : n.isTop) (s : List Char) :
    topPieces n s = topPieces .start s := by
  obtain ⟨hreading, hdepth⟩ := Nesting.isTop_iff.1 h
  exact topPieces_congr hreading hdepth s

theorem topPieces_cons_eq_singleton {n : Nesting} {c : Char} {s : List Char}
    (h : topPieces n (c :: s) = [c :: s]) :
    ¬(c = ',' ∧ n.isTop) ∧ topPieces (n.step c) s = [s] := by
  have hno : ¬(c = ',' ∧ n.isTop) := by
    intro hcut
    rw [topPieces, if_pos hcut] at h
    exact List.cons_ne_nil _ _ (List.cons.inj h).1.symm
  refine ⟨hno, ?_⟩
  rw [topPieces_cons hno] at h
  obtain ⟨p, ps, hps⟩ := List.exists_cons_of_ne_nil (topPieces_ne_nil (n.step c) s)
  rw [hps] at h ⊢
  simpa using h

theorem topPieces_append {n : Nesting} {p : List Char} (h : topPieces n p = [p]) (t : List Char) :
    topPieces n (p ++ t) = (topPieces (p.foldl Nesting.step n) t).modifyHead (p ++ ·) := by
  induction p generalizing n with
  | nil => cases htop : topPieces n t <;> simp [htop]
  | cons c p ih =>
    obtain ⟨hno, hrest⟩ := topPieces_cons_eq_singleton h
    rw [List.cons_append, topPieces_cons hno, ih hrest, List.modifyHead_modifyHead, List.foldl_cons]
    rfl

theorem topPieces_of_append {n : Nesting} {p t : List Char}
    (h : topPieces n (p ++ t) = [p ++ t]) : topPieces n p = [p] := by
  induction p generalizing n with
  | nil => rfl
  | cons c p ih =>
    obtain ⟨hno, hrest⟩ := topPieces_cons_eq_singleton h
    rw [topPieces_cons hno, ih hrest]
    rfl

theorem IsPiece.unsplit {s : List Char} (h : IsPiece s) : Unsplit s := fun t => by
  rw [topPieces_append h.uncut, topPieces_of_isTop h.isTop]

theorem exists_comma (n : Nesting) (s : List Char) : topPieces n s = [s] ∨
    ∃ p t, topPieces n p = [p] ∧ (p.foldl Nesting.step n).isTop ∧
      topPieces n s = p :: topPieces .start t := by
  induction s generalizing n with
  | nil => exact .inl rfl
  | cons c s ih =>
    by_cases hcut : c = ',' ∧ n.isTop
    · obtain ⟨rfl, htop⟩ := hcut
      have hstep : (n.step ',').isTop := by
        rw [Nesting.isTop_iff] at htop ⊢
        rw [Nesting.reading_step, Nesting.depth_step, htop.1, htop.2]
        decide
      refine .inr ⟨[], s, rfl, htop, ?_⟩
      rw [topPieces, if_pos ⟨rfl, htop⟩, topPieces_of_isTop hstep]
    · rcases ih (n.step c) with hrest | ⟨p, t, hp, htop, hrest⟩
      · left
        rw [topPieces_cons hcut, hrest]
        rfl
      · refine .inr ⟨c :: p, t, ?_, htop, ?_⟩
        · rw [topPieces_cons hcut, hp]
          rfl
        · rw [topPieces_cons hcut, hrest]
          rfl

theorem uncut_of_mem_topPieces (s : List Char) :
    (∀ p ∈ topPieces .start s, Uncut p) ∧ ∀ p ∈ (topPieces .start s).dropLast, IsPiece p := by
  generalize hps : topPieces .start s = ps
  induction ps generalizing s with
  | nil => simp
  | cons q ps ih =>
    rcases exists_comma .start s with hone | ⟨p, t, hp, htop, hrest⟩
    · rw [hps] at hone
      obtain ⟨rfl, rfl⟩ := List.cons.inj hone
      exact ⟨List.forall_mem_singleton.2 hps, by simp⟩
    · rw [hps] at hrest
      obtain ⟨rfl, rfl⟩ := List.cons.inj hrest
      obtain ⟨huncut, hpiece⟩ := ih t rfl
      rw [List.dropLast_cons_of_ne_nil (topPieces_ne_nil _ _)]
      exact ⟨List.forall_mem_cons.2 ⟨hp, huncut⟩, List.forall_mem_cons.2 ⟨⟨hp, htop⟩, hpiece⟩⟩

/-! ## Blanks around a piece -/

theorem unsplit_of_isBlank {b : List Char} (hb : ∀ c ∈ b, isBlank c = true) : Unsplit b :=
  of_chars unsplit_nil .append fun c hc =>
    (isPlain_of_isBlank (hb c hc)).1.unsplit (isPlain_of_isBlank (hb c hc)).2

theorem foldl_step_blanks {b : List Char} (hb : ∀ c ∈ b, isBlank c = true) :
    b.foldl Nesting.step .start = .start := by
  induction b with
  | nil => rfl
  | cons c b ih =>
    have hstep : Nesting.start.step c = .start :=
      (isPlain_of_isBlank (hb c List.mem_cons_self)).1.step_eq 0
    rw [List.foldl_cons, hstep, ih fun a ha => hb a (List.mem_cons_of_mem c ha)]

theorem isTop_of_concat_blank {s : List Char} {c : Char} (hc : isBlank c = true)
    (h : ((s ++ [c]).foldl Nesting.step .start).isTop) :
    (s.foldl Nesting.step .start).isTop := by
  have hreading (t : List Char) :
      (t.foldl Nesting.step .start).reading = after .chained t :=
    Nesting.reading_foldl_step .start t
  obtain ⟨houtside, hdepth⟩ := Nesting.isTop_iff.1 h
  rw [hreading, after_concat] at houtside
  rw [List.foldl_append, List.foldl_cons, List.foldl_nil, Nesting.depth_step] at hdepth
  have hquote : after .chained s = outside := by
    cases hs : after .chained s with
    | outside => rfl
    | inside q =>
      have hne : c ≠ q := by
        rintro rfl
        have hq := eq_quote_of_quote?_after (e := .chained) (s := s) (q := c) (by rw [hs]; rfl)
        rcases hq with rfl | rfl <;> exact absurd hc (by decide)
      rw [hs, Reading.step, if_neg hne] at houtside
      split at houtside <;> cases houtside
    | escaped q =>
      rw [hs, Reading.step] at houtside
      split at houtside <;> cases houtside
  have hcount : (([c].count '(' : ℕ) : Int) - [c].count ')' = 0 := by
    obtain ⟨-, -, hopen, hclose, -⟩ := (isPlain_of_isBlank hc).1
    rw [List.count_singleton, List.count_singleton, beq_false_of_ne hopen, beq_false_of_ne hclose]
    rfl
  rw [hreading, if_pos hquote, hcount, add_zero] at hdepth
  exact Nesting.isTop_iff.2 ⟨(hreading s).trans hquote, hdepth⟩

theorem isTop_of_append_blanks {s b : List Char} (hb : ∀ c ∈ b, isBlank c = true)
    (h : ((s ++ b).foldl Nesting.step .start).isTop) : (s.foldl Nesting.step .start).isTop := by
  induction b using List.reverseRecOn with
  | nil => rwa [List.append_nil] at h
  | append_singleton b c ih =>
    rw [← List.append_assoc] at h
    exact ih (fun a ha => hb a (List.mem_append_left [c] ha))
      (isTop_of_concat_blank (hb c (by simp)) h)

theorem Uncut.trim {s : List Char} (h : Uncut s) : Uncut (trim s) := by
  obtain ⟨before, behind, hbefore, -, hs⟩ := exists_trim s
  rw [Uncut, hs, List.append_assoc, unsplit_of_isBlank hbefore] at h
  obtain ⟨p, ps, hps⟩ := List.exists_cons_of_ne_nil
    (topPieces_ne_nil .start (Text.trim s ++ behind))
  rw [hps] at h
  refine topPieces_of_append (t := behind) ?_
  rw [hps]
  simpa using h

theorem IsPiece.trim {s : List Char} (h : IsPiece s) : IsPiece (trim s) := by
  obtain ⟨before, behind, hbefore, hbehind, hs⟩ := exists_trim s
  refine ⟨h.uncut.trim, isTop_of_append_blanks hbehind ?_⟩
  have htop := h.isTop
  rwa [hs, List.append_assoc, List.foldl_append, foldl_step_blanks hbefore] at htop

/-! ## Arguments -/

/-- Arguments that are found again when they are put together, unless the last one is blank. -/
structure Rejoins (args : List (List Char)) : Prop where
  trim : ∀ a ∈ args, trim a = a
  uncut : ∀ a ∈ args, Uncut a
  unsplit : ∀ a ∈ args.dropLast, Unsplit a

theorem Rejoins.dropLast {args : List (List Char)} (h : Rejoins args) : Rejoins args.dropLast where
  trim a ha := h.trim a (List.mem_of_mem_dropLast ha)
  uncut a ha := h.uncut a (List.mem_of_mem_dropLast ha)
  unsplit a ha := h.unsplit a (List.mem_of_mem_dropLast ha)

theorem Rejoins.drop {args : List (List Char)} (h : Rejoins args) (k : ℕ) :
    Rejoins (args.drop k) where
  trim a ha := h.trim a (List.mem_of_mem_drop ha)
  uncut a ha := h.uncut a (List.mem_of_mem_drop ha)
  unsplit a ha :=
    h.unsplit a (List.mem_of_mem_drop (List.dropLast_drop_eq_drop_dropLast args k ▸ ha))

theorem rejoins_splitArguments (s : List Char) : Rejoins (splitArguments s) := by
  obtain ⟨huncut, hpiece⟩ := uncut_of_mem_topPieces s
  have hall : Rejoins ((topPieces .start s).map Text.trim) := by
    refine ⟨List.forall_mem_map.2 fun p _ => trim_trim p,
      List.forall_mem_map.2 fun p hp => (huncut p hp).trim, ?_⟩
    rw [← List.map_dropLast]
    exact List.forall_mem_map.2 fun p hp => (hpiece p hp).trim.unsplit
  rw [splitArguments, dropBlankLast]
  split
  · exact hall.dropLast
  · exact hall

theorem Rejoins.splitArguments_joined {args : List (List Char)} (h : Rejoins args)
    (hlast : args.getLast? ≠ some []) : splitArguments (Scope.joined args) = args := by
  by_cases hne : args = []
  · rw [hne]
    rfl
  · have htrim : args.map Text.trim = args := (List.map_congr_left h.trim).trans (List.map_id args)
    rw [splitArguments, Scope.joined, topPieces_intercalate hne h.uncut h.unsplit, htrim,
      dropBlankLast, if_neg hlast]

theorem intercalate_concat_nil {sep : List Char} {ps : List (List Char)} (hne : ps ≠ []) :
    sep.intercalate (ps ++ [[]]) = sep.intercalate ps ++ sep := by
  induction ps with
  | nil => exact absurd rfl hne
  | cons p ps ih =>
    cases ps with
    | nil =>
      rw [List.singleton_append, List.intercalate_cons_cons, List.intercalate_singleton,
        List.intercalate_singleton, List.append_nil]
    | cons q ps =>
      rw [List.cons_append, List.cons_append, List.intercalate_cons_cons, ← List.cons_append,
        ih (List.cons_ne_nil _ _), List.intercalate_cons_cons, List.append_assoc (p ++ sep)]

/-- Put together, the arguments are the text without the blanks around them, and without the comma
in front of a blank last one. -/
theorem joined_splitArguments (s : List Char) :
    Scope.joined (splitArguments s) =
      if EndsInCut (IsCut .chained s) s then (tightened (IsCut .chained s) s).dropLast
      else tightened (IsCut .chained s) s := by
  obtain ⟨pieces, hcut, hargs⟩ := (readBy_chained s).splitArguments_eq
  obtain ⟨ps, last, rfl⟩ := (List.eq_nil_or_concat' pieces).resolve_left hcut.ne_nil
  have hends := hcut.endsInCut_iff
  rw [← trim_eq_nil_iff] at hends
  rw [hargs, hcut.tightened_eq, Scope.joined, dropBlankLast, List.map_append, List.map_singleton,
    List.getLast?_concat, List.dropLast_concat]
  by_cases hlast : trim last = []
  · rw [if_pos (congrArg some hlast), hlast]
    by_cases hps : ps = []
    · rw [if_neg fun h => (hends.1 h).1 hps, hps]
      rfl
    · rw [if_pos (hends.2 ⟨hps, hlast⟩), intercalate_concat_nil (by simpa using hps),
        List.dropLast_concat]
  · rw [if_neg fun h => hlast (Option.some.inj h), if_neg fun h => hlast (hends.1 h).2]

/-- A text with nothing but blanks in it. -/
def IsBlankText (s : List Char) : Prop := ∀ c ∈ s, isBlank c = true

instance : DecidablePred IsBlankText := fun s =>
  decidable_of_iff (s.all isBlank = true) List.all_eq_true

/-- **Cutting into arguments is stable.** An argument that is not blank is cut no further. Arguments
from any one on are found again when they are put together with commas, unless the last one is
blank. And all of them together are the text without the blanks next to the commas between them and
to its ends, and without the comma in front of a blank last argument. Depths are counted without
bound, and 32 bits hold them for fewer than `2 ^ 31` parentheses of a kind. -/
theorem splitArguments_stable (s : List Char) :
    (∀ a ∈ splitArguments s, ¬IsBlankText a → splitArguments a = [a]) ∧
    (∀ k, (∀ a ∈ (splitArguments s).getLast?, ¬IsBlankText a) →
      splitArguments (Scope.joined ((splitArguments s).drop k)) = (splitArguments s).drop k) ∧
    (Scope.joined (splitArguments s) =
      if EndsInCut (IsCut .chained s) s then (tightened (IsCut .chained s) s).dropLast
      else tightened (IsCut .chained s) s) ∧
    (s.count '(' < 2147483648 → s.count ')' < 2147483648 → Nesting.start.Holds32 s) := by
  have hargs := rejoins_splitArguments s
  refine ⟨fun a ha hblank => ?_, fun k hblank => ?_, joined_splitArguments s,
    fun hopen hclosed => ?_⟩
  · have hne : [a].getLast? ≠ some [] := by
      rintro ⟨⟩
      exact hblank fun c hc => absurd hc List.not_mem_nil
    have hone : Rejoins [a] :=
      ⟨List.forall_mem_singleton.2 (hargs.trim a ha),
        List.forall_mem_singleton.2 (hargs.uncut a ha), by simp⟩
    have hjoined : Scope.joined [a] = a := List.intercalate_singleton
    have hfound := hone.splitArguments_joined hne
    rwa [hjoined] at hfound
  · refine (hargs.drop k).splitArguments_joined fun hlast => ?_
    rw [List.getLast?_drop] at hlast
    split at hlast
    · cases hlast
    · exact hblank [] hlast fun c hc => absurd hc List.not_mem_nil
  · apply Nesting.holds32_of_count <;> simp only [Nesting.start, max32, min32] <;> omega

/-- Arguments of which the last one closes a parenthesis too many and leaves a literal open. -/
theorem splitArguments_stable_unclosed :
    let s := " 2 , f(1, 7) ,) 'a , b ".toList
    let args := ["2".toList, "f(1, 7)".toList, ") 'a , b".toList]
    splitArguments s = args ∧ (∀ a ∈ args.getLast?, ¬IsBlankText a) ∧
      (∀ a ∈ args, splitArguments a = [a]) ∧
      splitArguments (Scope.joined (args.drop 1)) = args.drop 1 ∧
      tightened (IsCut .chained s) s = "2,f(1, 7),) 'a , b".toList := by
  intro s args
  have hargs : splitArguments s = args := by decide
  have hblank : ∀ a ∈ args, ¬IsBlankText a := by decide
  have hlast : ∀ a ∈ args.getLast?, ¬IsBlankText a := fun a ha =>
    hblank a (List.mem_of_getLast? ha)
  obtain ⟨hone, hrejoin, hjoined, -⟩ := splitArguments_stable s
  rw [hargs] at hone hrejoin hjoined
  rw [if_neg (by decide)] at hjoined
  exact ⟨hargs, hlast, fun a ha => hone a ha (hblank a ha), hrejoin 1 hlast, hjoined.symm⟩

example : tightened (IsCut .chained "a ,\t, ".toList) "a ,\t, ".toList = "a,,".toList ∧
    Scope.joined (splitArguments "a ,\t, ".toList) = "a,".toList := by decide

end SketchPreview.Call
