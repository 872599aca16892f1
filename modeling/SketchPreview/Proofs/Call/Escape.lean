import Mathlib.Order.Bounds.Basic
import SketchPreview.Proofs.Call.Literal
import SketchPreview.Saturating

/-!
# Escapes in literals

In a literal, a backslash escapes the character behind it, so that a quote there does not end the
literal. A backslash may be escaped itself. In the usual reading it then escapes nothing; the search
for the parenthesis of a call and the cut at commas take it as an escape all the same. They see the
same literals as the usual reading unless one of these ends in an escaped backslash.

* `Escaping`, `Reading`, `after`: the two readings, character by character;
* `bare`: a text without its literals;
* `Closes`, `IsCut`, `CutInto`, `ReadBy`: what the search and the cut find, told by a reading;
* `EndsEscaped`: a literal that ends in an escaped backslash;
* `Nesting.Holds32`, `Nesting.holds32_of_count`: depths that 32 bits hold;
* `Nesting.closing?_eq_some_iff`, `cutInto_topPieces`: the search and the cut from any nesting;
* `readBy_chained`, `readBy_single`: the reading they follow, and where it is the usual one;
* `quote?_eq_iff_not_endsEscaped`: where the two readings see the same literals;
* **`literals_read_chained`**, and `not_readBy_single`, where the usual reading is missed.
-/

namespace SketchPreview.Call

open Text

/-! ## Two readings -/

/-- Which backslashes in a literal escape the character behind them. -/
inductive Escaping where
  /-- Those that are not escaped themselves. -/
  | single
  /-- All of them. -/
  | chained
  deriving DecidableEq

/-- How the next character of a text is read: outside of literals, in one between quotes `q`, or
escaped in one. -/
inductive Reading where
  | outside
  | inside (q : Char)
  | escaped (q : Char)
  deriving DecidableEq

namespace Reading

/-- The quote of the literal that a character stands in. -/
def quote? : Reading → Option Char
  | outside => none
  | inside q => some q
  | escaped q => some q

/-- How the character behind `c` is read. -/
def step (e : Escaping) : Reading → Char → Reading
  | outside, c => if c = '"' ∨ c = '\'' then inside c else outside
  | inside q, c => if c = q then outside else if c = '\\' then escaped q else inside q
  | escaped q, c => if c = '\\' ∧ e = .chained then escaped q else inside q

end Reading

open Reading

/-- How the character behind a text is read. -/
def after (e : Escaping) (s : List Char) : Reading := s.foldl (step e) outside

/-- The characters of a text that stand outside of literals, where its first one is read as `r`. -/
def bareFrom (e : Escaping) (r : Reading) : List Char → List Char
  | [] => []
  | c :: s => if r = outside then c :: bareFrom e (r.step e c) s else bareFrom e (r.step e c) s

/-- A text without its literals. -/
def bare (e : Escaping) (s : List Char) : List Char := bareFrom e outside s

/-- Whether a place lies outside of literals, with as many parentheses opened as closed before. -/
def IsLevel (e : Escaping) (s : List Char) (i : ℕ) : Prop :=
  after e (s.take i) = outside ∧
    (bare e (s.take i)).count '(' = (bare e (s.take i)).count ')'

instance (e : Escaping) (s : List Char) : DecidablePred (IsLevel e s) := fun _ =>
  inferInstanceAs (Decidable (_ ∧ _))

/-- Whether the character at a place closes a parenthesis that was opened in front of the text. -/
def Closes (e : Escaping) (s : List Char) (i : ℕ) : Prop := s[i]? = some ')' ∧ IsLevel e s i

instance (e : Escaping) (s : List Char) : DecidablePred (Closes e s) := fun _ =>
  inferInstanceAs (Decidable (_ ∧ _))

/-- Whether the character at a place is a comma between arguments. -/
def IsCut (e : Escaping) (s : List Char) (i : ℕ) : Prop := s[i]? = some ',' ∧ IsLevel e s i

instance (e : Escaping) (s : List Char) : DecidablePred (IsCut e s) := fun _ =>
  inferInstanceAs (Decidable (_ ∧ _))

/-- Whether pieces are those of a text between the commas at some places. -/
structure CutInto (cut : ℕ → Prop) (s : List Char) (pieces : List (List Char)) : Prop where
  ne_nil : pieces ≠ []
  joined : [','].intercalate pieces = s
  cut_iff (i : ℕ) :
    cut i ↔ ∃ k, k + 1 < pieces.length ∧ ([','].intercalate (pieces.take (k + 1))).length = i

/-- Whether the search for the parenthesis and the cut at commas take the literals of a text as a
reading does. -/
structure ReadBy (e : Escaping) (s : List Char) : Prop where
  closing?_eq_some_iff (inner rest : List Char) : closing? .inside s = some (inner, rest) ↔
    ∃ i, IsLeast {i | Closes e s i} i ∧ inner = s.take i ∧ rest = s.drop (i + 1)
  closing?_eq_none_iff : closing? .inside s = none ↔ ∀ i, ¬Closes e s i
  splitArguments_eq : ∃ pieces, CutInto (IsCut e s) s pieces ∧
    splitArguments s = dropBlankLast (pieces.map trim)

/-- Whether a literal of a text ends in an escaped backslash. -/
def EndsEscaped (s : List Char) : Prop :=
  ∃ pre q post, s = pre ++ '\\' :: q :: post ∧ after .single pre = escaped q

/-! ## Character by character -/

theorem after_concat (e : Escaping) (s : List Char) (c : Char) :
    after e (s ++ [c]) = (after e s).step e c := by
  rw [after, List.foldl_append]
  rfl

theorem bareFrom_concat (e : Escaping) (r : Reading) (s : List Char) (c : Char) :
    bareFrom e r (s ++ [c]) =
      bareFrom e r s ++ if s.foldl (step e) r = outside then [c] else [] := by
  induction s generalizing r with
  | nil => by_cases h : r = outside <;> simp [bareFrom, h]
  | cons a s ih =>
    rw [List.cons_append, bareFrom, bareFrom, ih, List.foldl_cons]
    split <;> simp

theorem bare_concat (e : Escaping) (s : List Char) (c : Char) :
    bare e (s ++ [c]) = bare e s ++ if after e s = outside then [c] else [] :=
  bareFrom_concat e outside s c

theorem eq_quote_of_quote?_after {e : Escaping} {s : List Char} {q : Char}
    (h : (after e s).quote? = some q) : q = '"' ∨ q = '\'' := by
  induction s using List.reverseRecOn with
  | nil => cases h
  | append_singleton s c ih =>
    rw [after_concat] at h
    cases hr : after e s <;> rw [hr] at h ih <;> unfold step at h <;> grind [quote?]

/-! ## The search for the parenthesis -/

/-- How the next character of a text is read. -/
def Nesting.reading (n : Nesting) : Reading :=
  match n.quote with
  | none => outside
  | some q => if n.afterBackslash then .escaped q else .inside q

theorem Nesting.reading_eq_outside_iff {n : Nesting} : n.reading = outside ↔ n.quote = none := by
  unfold Nesting.reading
  grind

theorem Nesting.isTop_iff {n : Nesting} : n.isTop ↔ n.reading = outside ∧ n.depth = 0 := by
  rw [Nesting.reading_eq_outside_iff]
  simp [Nesting.isTop, and_comm]

theorem Nesting.reading_step (n : Nesting) (c : Char) :
    (n.step c).reading = n.reading.step .chained c := by
  unfold Nesting.reading Nesting.step Reading.step
  grind

theorem Nesting.reading_foldl_step (n : Nesting) (s : List Char) :
    (s.foldl Nesting.step n).reading = s.foldl (Reading.step .chained) n.reading := by
  induction s generalizing n with
  | nil => rfl
  | cons c s ih => rw [List.foldl_cons, List.foldl_cons, ih, reading_step]

theorem Nesting.depth_step (n : Nesting) (c : Char) : (n.step c).depth = n.depth +
    if n.reading = outside then ([c].count '(' : Int) - [c].count ')' else 0 := by
  simp only [Nesting.reading_eq_outside_iff, List.count_singleton]
  unfold Nesting.step
  grind

theorem Nesting.depth_foldl_step (n : Nesting) (s : List Char) :
    (s.foldl Nesting.step n).depth = n.depth + (bareFrom .chained n.reading s).count '(' -
      (bareFrom .chained n.reading s).count ')' := by
  induction s generalizing n with
  | nil => simp [bareFrom]
  | cons c s ih =>
    rw [List.foldl_cons, ih, depth_step, reading_step, bareFrom]
    split
    · simp only [List.count_cons, List.count_nil]
      omega
    · omega

/-- No depth on the way through a text that begins at a nesting leaves 32 bits. -/
def Nesting.Holds32 (n : Nesting) (s : List Char) : Prop :=
  ∀ pre, pre <+: s → Fits32 (pre.foldl Nesting.step n).depth

theorem Nesting.depth_foldl_mem (n : Nesting) (s : List Char) :
    n.depth - s.count ')' ≤ (s.foldl Nesting.step n).depth ∧
      (s.foldl Nesting.step n).depth ≤ n.depth + s.count '(' := by
  induction s generalizing n with
  | nil => simp
  | cons c s ih =>
    have hstep := depth_step n c
    obtain ⟨hlower, hupper⟩ := ih (n.step c)
    have hcount : ∀ a, ([c] ++ s).count a = [c].count a + s.count a := fun _ => List.count_append
    rw [List.singleton_append] at hcount
    rw [List.foldl_cons, hcount, hcount]
    split at hstep <;> omega

/-- A text has to have so many parentheses for a depth to leave 32 bits. -/
theorem Nesting.holds32_of_count {n : Nesting} {s : List Char}
    (hopen : n.depth + s.count '(' ≤ max32) (hclosed : min32 ≤ n.depth - s.count ')') :
    n.Holds32 s := by
  intro pre hpre
  obtain ⟨hlower, hupper⟩ := n.depth_foldl_mem pre
  have hless := hpre.sublist.count_le '('
  have hless' := hpre.sublist.count_le ')'
  unfold Fits32
  omega

/-- Whether a place of a text that begins at a nesting holds the character `c`, outside of literals
and at depth `d`. -/
def Nesting.Meets (n : Nesting) (c : Char) (d : Int) (s : List Char) (i : ℕ) : Prop :=
  s[i]? = some c ∧ ((s.take i).foldl Nesting.step n).reading = outside ∧
    ((s.take i).foldl Nesting.step n).depth = d

theorem Nesting.meets_zero {n : Nesting} {c a : Char} {d : Int} {s : List Char} :
    n.Meets c d (a :: s) 0 ↔ a = c ∧ n.reading = outside ∧ n.depth = d := by
  simp [Nesting.Meets]

theorem Nesting.meets_succ {n : Nesting} {c a : Char} {d : Int} {s : List Char} {i : ℕ} :
    n.Meets c d (a :: s) (i + 1) ↔ (n.step a).Meets c d s i := by
  simp [Nesting.Meets]

theorem Nesting.meets_iff_isLevel {c : Char} {d : Int} {s : List Char} {i : ℕ} :
    Nesting.Meets ⟨d, none, false⟩ c d s i ↔ s[i]? = some c ∧ IsLevel .chained s i := by
  have houtside : Nesting.reading ⟨d, none, false⟩ = outside := rfl
  rw [Nesting.Meets, Nesting.reading_foldl_step, Nesting.depth_foldl_step, houtside]
  unfold IsLevel after bare
  refine and_congr_right fun _ => and_congr_right fun _ => ?_
  dsimp only
  omega

theorem isLeast_add_one_iff {p : ℕ → Prop} (h : ¬p 0) {i : ℕ} :
    IsLeast {i | p i} (i + 1) ↔ IsLeast {i | p (i + 1)} i := by
  refine and_congr_right fun _ => ⟨fun hi k hk => ?_, fun hi k hk => ?_⟩
  · exact Nat.le_of_succ_le_succ (hi hk)
  · cases k with
    | zero => exact absurd hk h
    | succ k => exact Nat.succ_le_succ (hi hk)

theorem Nesting.closing?_eq_some_iff {n : Nesting} (hn : 1 ≤ n.depth) {s inner rest : List Char} :
    closing? n s = some (inner, rest) ↔
      ∃ i, IsLeast {i | n.Meets ')' 1 s i} i ∧ inner = s.take i ∧ rest = s.drop (i + 1) := by
  induction s generalizing n inner rest with
  | nil => simp [closing?, Nesting.Meets, IsLeast]
  | cons c s ih =>
    have hzero : n.Meets ')' 1 (c :: s) 0 ↔ (n.step c).isTop := by
      rw [Nesting.meets_zero, Nesting.reading_eq_outside_iff, Nesting.isTop_step_iff hn]
    by_cases htop : (n.step c).isTop
    · have hleast {i : ℕ} : IsLeast {i | n.Meets ')' 1 (c :: s) i} i ↔ i = 0 :=
        ⟨fun hi => Nat.le_zero.1 (hi.2 (hzero.2 htop)),
          fun hi => hi ▸ ⟨hzero.2 htop, fun _ _ => Nat.zero_le _⟩⟩
      rw [closing?, if_pos htop]
      simp [hleast, eq_comm]
    · have hleast {i : ℕ} : IsLeast {i | n.Meets ')' 1 (c :: s) i} (i + 1) ↔
          IsLeast {i | (n.step c).Meets ')' 1 s i} i := by
        rw [isLeast_add_one_iff (mt hzero.1 htop)]
        simp only [Nesting.meets_succ]
      rw [closing?_cons (Bool.eq_false_iff.2 htop), Option.map_eq_some_iff]
      constructor
      · rintro ⟨⟨inner, rest⟩, hrest, he⟩
        cases he
        obtain ⟨i, hi, rfl, rfl⟩ := (ih (Nesting.one_le_depth_step hn htop)).1 hrest
        exact ⟨i + 1, hleast.2 hi, rfl, rfl⟩
      · rintro ⟨i, hi, rfl, rfl⟩
        cases i with
        | zero => exact absurd (hzero.1 hi.1) htop
        | succ i =>
          have hrest := (ih (Nesting.one_le_depth_step hn htop)).2 ⟨i, hleast.1 hi, rfl, rfl⟩
          exact ⟨_, hrest, rfl⟩

theorem Nesting.closing?_eq_none_iff {n : Nesting} (hn : 1 ≤ n.depth) {s : List Char} :
    closing? n s = none ↔ ∀ i, ¬n.Meets ')' 1 s i := by
  constructor
  · intro h i hi
    classical
    have hk := Nat.isLeast_find ⟨i, hi⟩
    have hsome := (Nesting.closing?_eq_some_iff hn).2 ⟨_, hk, rfl, rfl⟩
    rw [h] at hsome
    cases hsome
  · intro h
    by_contra hne
    obtain ⟨p, hp⟩ := Option.ne_none_iff_exists'.1 hne
    obtain ⟨i, hi, -⟩ := (Nesting.closing?_eq_some_iff hn).1 hp
    exact h i hi.1

/-! ## The cut at commas -/

theorem CutInto.cons_comma {cut : ℕ → Prop} {s : List Char} {pieces : List (List Char)}
    (h : CutInto (fun i => cut (i + 1)) s pieces) (hcut : cut 0) :
    CutInto cut (',' :: s) ([] :: pieces) := by
  have hjoined {ps : List (List Char)} (hps : ps ≠ []) :
      [','].intercalate ([] :: ps) = ',' :: [','].intercalate ps := by
    rw [List.intercalate_cons_of_ne_nil hps]
    rfl
  have hlength (k : ℕ) : ([','].intercalate (([] :: pieces).take (k + 2))).length =
      ([','].intercalate (pieces.take (k + 1))).length + 1 := by
    rw [List.take_succ_cons, hjoined (by simp [h.ne_nil]), List.length_cons]
  refine ⟨List.cons_ne_nil _ _, by rw [hjoined h.ne_nil, h.joined], fun i => ?_⟩
  cases i with
  | zero =>
    have hpieces := List.length_pos_of_ne_nil h.ne_nil
    exact iff_of_true hcut ⟨0, by simpa using hpieces, rfl⟩
  | succ i =>
    rw [h.cut_iff i]
    constructor
    · rintro ⟨k, hk, hlen⟩
      exact ⟨k + 1, Nat.succ_lt_succ hk, by rw [hlength, hlen]⟩
    · rintro ⟨k, hk, hlen⟩
      cases k with
      | zero => cases hlen
      | succ k => exact ⟨k, Nat.lt_of_succ_lt_succ hk, Nat.succ.inj ((hlength k).symm.trans hlen)⟩

theorem CutInto.cons {cut : ℕ → Prop} {s : List Char} {pieces : List (List Char)} {c : Char}
    (h : CutInto (fun i => cut (i + 1)) s pieces) (hcut : ¬cut 0) :
    CutInto cut (c :: s) (pieces.modifyHead (c :: ·)) := by
  obtain ⟨p, ps, rfl⟩ := List.exists_cons_of_ne_nil h.ne_nil
  have hjoined (ps : List (List Char)) :
      [','].intercalate ((c :: p) :: ps) = c :: [','].intercalate (p :: ps) := by
    cases ps <;> rfl
  refine ⟨List.cons_ne_nil _ _, by rw [List.modifyHead_cons, hjoined, h.joined], fun i => ?_⟩
  simp only [List.modifyHead_cons, List.take_succ_cons, hjoined, List.length_cons]
  cases i with
  | zero => exact iff_of_false hcut fun ⟨_, _, hlen⟩ => Nat.succ_ne_zero _ hlen
  | succ i => simp only [h.cut_iff i, List.take_succ_cons, List.length_cons, Nat.succ_inj]

theorem cutInto_topPieces (n : Nesting) (s : List Char) :
    CutInto (n.Meets ',' 0 s) s (topPieces n s) := by
  induction s generalizing n with
  | nil => exact ⟨by simp [topPieces], rfl, by simp [topPieces, Nesting.Meets]⟩
  | cons c s ih =>
    have hrest : CutInto (fun i => n.Meets ',' 0 (c :: s) (i + 1)) s (topPieces (n.step c) s) := by
      simp only [Nesting.meets_succ]
      exact ih (n.step c)
    by_cases hcut : c = ',' ∧ n.isTop
    · rw [topPieces, if_pos hcut]
      obtain ⟨rfl, htop⟩ := hcut
      exact hrest.cons_comma (Nesting.meets_zero.2 ⟨rfl, Nesting.isTop_iff.1 htop⟩)
    · rw [topPieces_cons hcut]
      refine hrest.cons fun hmeets => hcut ?_
      obtain ⟨rfl, htop⟩ := Nesting.meets_zero.1 hmeets
      exact ⟨rfl, Nesting.isTop_iff.2 htop⟩

theorem readBy_chained (s : List Char) : ReadBy .chained s := by
  have hclose : Closes .chained s = Nesting.inside.Meets ')' 1 s :=
    funext fun _ => propext Nesting.meets_iff_isLevel.symm
  have hcut : IsCut .chained s = Nesting.start.Meets ',' 0 s :=
    funext fun _ => propext Nesting.meets_iff_isLevel.symm
  constructor
  · intro inner rest
    rw [hclose]
    exact Nesting.closing?_eq_some_iff (by decide)
  · rw [hclose]
    exact Nesting.closing?_eq_none_iff (by decide)
  · rw [hcut]
    exact ⟨topPieces .start s, cutInto_topPieces .start s, rfl⟩

/-! ## Where the readings agree -/

theorem EndsEscaped.mono {s t : List Char} (h : EndsEscaped s) (hst : s <+: t) : EndsEscaped t := by
  obtain ⟨pre, q, post, rfl, hpre⟩ := h
  obtain ⟨rest, rfl⟩ := hst
  exact ⟨pre, q, post ++ rest, by simp, hpre⟩

/-- Unless a literal ends in an escaped backslash, the readings are the same but for the character
behind an escaped backslash. -/
theorem after_eq_or {s : List Char} (h : ¬EndsEscaped s) :
    after .chained s = after .single s ∨
      ∃ pre q, s = pre ++ ['\\'] ∧ after .single pre = escaped q ∧
        after .chained s = escaped q ∧ after .single s = .inside q := by
  induction s using List.reverseRecOn with
  | nil => exact .inl rfl
  | append_singleton s c ih =>
    simp only [after_concat]
    rcases ih fun hs => h (hs.mono (List.prefix_append s [c])) with
      heq | ⟨pre, q, rfl, hpre, hchained, hsingle⟩
    · -- the readings part behind an escaped backslash only
      rw [heq]
      by_cases hc : ∃ q, after .single s = escaped q ∧ c = '\\'
      · obtain ⟨q, hq, rfl⟩ := hc
        exact .inr ⟨s, q, rfl, hq, by simp [hq, step], by simp [hq, step]⟩
      · left
        cases hs : after .single s with
        | outside => rfl
        | inside q => rfl
        | escaped q =>
          have hne : c ≠ '\\' := fun he => hc ⟨q, hs, he⟩
          simp [step, hne]
    · -- they meet again at the next character, which is not the quote
      left
      have hne : c ≠ q := by
        rintro rfl
        exact h ⟨pre, c, [], by simp, hpre⟩
      simp [hchained, hsingle, step, hne]

theorem quote?_after_eq {s : List Char} (h : ¬EndsEscaped s) :
    (after .chained s).quote? = (after .single s).quote? := by
  rcases after_eq_or h with heq | ⟨_, _, -, -, hchained, hsingle⟩
  · rw [heq]
  · rw [hchained, hsingle]
    rfl

/-- The readings see the same literals as long as none ends in an escaped backslash. -/
theorem quote?_eq_iff_not_endsEscaped {s : List Char} :
    (∀ t, t <+: s → (after .chained t).quote? = (after .single t).quote?) ↔ ¬EndsEscaped s := by
  refine ⟨?_, fun h t ht => quote?_after_eq fun hends => h (hends.mono ht)⟩
  rintro h ⟨pre, q, post, rfl, hpre⟩
  -- the usual reading leaves the literal, the other one stays in it
  have hquote := h pre (List.prefix_append _ _)
  have hend := h (pre ++ ['\\'] ++ [q]) ⟨post, by simp⟩
  have hq := eq_quote_of_quote?_after (e := .single) (s := pre) (q := q) (by rw [hpre]; rfl)
  have hbackslash : q ≠ '\\' := by rcases hq with rfl | rfl <;> decide
  simp only [after_concat, hpre] at hquote hend
  cases hr : after .chained pre with
  | outside => simp [hr, quote?] at hquote
  | inside a | escaped a =>
    obtain rfl : a = q := by simpa [hr, quote?] using hquote
    simp [hr, step, quote?, hbackslash, hbackslash.symm] at hend

theorem quote?_eq_none_iff {r : Reading} : r.quote? = none ↔ r = outside := by
  cases r <;> simp [quote?]

theorem after_eq_outside_iff {s : List Char} (h : ¬EndsEscaped s) :
    after .chained s = outside ↔ after .single s = outside := by
  rw [← quote?_eq_none_iff, ← quote?_eq_none_iff, quote?_after_eq h]

theorem bare_eq {s : List Char} (h : ¬EndsEscaped s) : bare .chained s = bare .single s := by
  induction s using List.reverseRecOn with
  | nil => rfl
  | append_singleton s c ih =>
    have hs : ¬EndsEscaped s := fun hs => h (hs.mono (List.prefix_append s [c]))
    rw [bare_concat, bare_concat, ih hs]
    simp only [after_eq_outside_iff hs]

theorem isLevel_iff {s : List Char} {i : ℕ} (h : ¬EndsEscaped (s.take i)) :
    IsLevel .chained s i ↔ IsLevel .single s i := by
  rw [IsLevel, IsLevel, after_eq_outside_iff h, bare_eq h]

theorem closing?_of_isLeast {s : List Char} {i : ℕ} (hi : IsLeast {i | Closes .single s i} i)
    (h : ¬EndsEscaped (s.take i)) :
    closing? .inside s = some (s.take i, s.drop (i + 1)) := by
  have hbefore {j : ℕ} (hj : j ≤ i) : Closes .chained s j ↔ Closes .single s j :=
    and_congr_right fun _ => isLevel_iff fun hends => h (hends.mono (List.take_prefix_take_left hj))
  refine ((readBy_chained s).closing?_eq_some_iff _ _).2 ⟨i, ⟨?_, fun j hj => ?_⟩, rfl, rfl⟩
  · exact (hbefore le_rfl).2 hi.1
  · by_contra hlt
    exact hlt (hi.2 ((hbefore (le_of_not_ge hlt)).1 hj))

theorem readBy_single {s : List Char} (h : ¬EndsEscaped s) : ReadBy .single s := by
  have hlevel : IsLevel .chained s = IsLevel .single s := funext fun i => propext
    (isLevel_iff fun hends => h (hends.mono (List.take_prefix i s)))
  have hclose : Closes .single s = Closes .chained s := by
    funext i
    rw [Closes, Closes, hlevel]
  have hcut : IsCut .single s = IsCut .chained s := by
    funext i
    rw [IsCut, IsCut, hlevel]
  constructor
  · rw [hclose]
    exact (readBy_chained s).closing?_eq_some_iff
  · rw [hclose]
    exact (readBy_chained s).closing?_eq_none_iff
  · rw [hcut]
    exact (readBy_chained s).splitArguments_eq

/-- **Every backslash in a literal is taken as an escape**, by the search for the parenthesis that
closes a call and by the cut at commas. What the usual reading finds is found as well as long as no
literal before it ends in an escaped backslash; at such a literal the two readings part. Depths are
counted without bound, and 32 bits hold them for fewer than `2 ^ 31 - 1` parentheses of a kind. -/
theorem literals_read_chained (s : List Char) :
    ReadBy .chained s ∧ (¬EndsEscaped s → ReadBy .single s) ∧
    (∀ i, IsLeast {i | Closes .single s i} i → ¬EndsEscaped (s.take i) →
      closing? .inside s = some (s.take i, s.drop (i + 1))) ∧
    ((∀ t, t <+: s → (after .chained t).quote? = (after .single t).quote?) ↔ ¬EndsEscaped s) ∧
    (s.count '(' < 2147483647 → s.count ')' < 2147483647 →
      Nesting.inside.Holds32 s ∧ Nesting.start.Holds32 s) := by
  refine ⟨readBy_chained s, readBy_single, fun _ => closing?_of_isLeast,
    quote?_eq_iff_not_endsEscaped, fun hopen hclosed => ⟨?_, ?_⟩⟩
  · apply Nesting.holds32_of_count <;> simp only [Nesting.inside, max32, min32] <;> omega
  · apply Nesting.holds32_of_count <;> simp only [Nesting.start, max32, min32] <;> omega

/-- An escaped quote and a parenthesis in a literal. -/
theorem literals_read_chained_quote :
    let s := "\"\\\"(\", f(1)), 2)".toList
    ¬EndsEscaped s ∧ IsLeast {i | Closes .single s i} 11 ∧ ReadBy .single s ∧
      closing? .inside s = some ("\"\\\"(\", f(1)".toList, ", 2)".toList) := by
  intro s
  have hs := literals_read_chained s
  have hagree : ∀ t ∈ s.inits, (after .chained t).quote? = (after .single t).quote? := by decide
  have hends : ¬EndsEscaped s := hs.2.2.2.1.1 fun t ht => hagree t ((List.mem_inits t s).2 ht)
  have hbefore : ∀ i < 11, ¬Closes .single s i := by decide
  have hleast : IsLeast {i | Closes .single s i} 11 :=
    ⟨by decide, fun i hi => not_lt.1 fun hlt => hbefore i hlt hi⟩
  exact ⟨hends, hleast, hs.2.1 hends, hs.2.2.1 11 hleast fun h =>
    hends (h.mono (List.take_prefix 11 s))⟩

/-- Behind a literal that ends in an escaped backslash, no parenthesis and no comma is found. -/
theorem not_readBy_single :
    let s := "\"\\\\\")".toList
    IsLeast {i | Closes .single s i} 4 ∧ closing? .inside s = none ∧ ¬ReadBy .single s ∧
      scanCalls "u8g2.drawStr(0, 7, \"a\\\\\");".toList = [] ∧
      splitArguments "\"a\\\\\", 1".toList = ["\"a\\\\\", 1".toList] := by
  intro s
  have hbefore : ∀ i < 4, ¬Closes .single s i := by decide
  have hleast : IsLeast {i | Closes .single s i} 4 :=
    ⟨by decide, fun i hi => not_lt.1 fun hlt => hbefore i hlt hi⟩
  have hnone : closing? .inside s = none := by decide
  refine ⟨hleast, hnone, fun h => ?_, by decide, by decide⟩
  exact h.closing?_eq_none_iff.1 hnone 4 hleast.1

end SketchPreview.Call
