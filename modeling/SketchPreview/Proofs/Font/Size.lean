import Mathlib.Data.List.Infix
import Mathlib.Order.Bounds.Basic
import SketchPreview.Font.Size
import SketchPreview.Proofs.Expr.Pieces
import SketchPreview.Proofs.WordSearch

/-!
# What a font name tells

The numbers of a name are its runs of digits, each as long as possible, without those that write too
great a number. Here a run is a way to cut the name into what stands in front of it, its digits, and
what follows them. The scan tells it by its first byte and the byte behind it.

* `DigitRun`, `NumberRun`: the runs of digits of a text, and those that are numbers;
* `Finds`: a list of the numbers from some place on, from the left;
* `Seen`, `exists_scanRuns?`, `exists_digitRuns?`: what the scan remembers, and what it finds;
* `PairAt`: a pair of numbers around an `x`; `joined_toRun_iff`, `Listed.exists_firstPair?`: how it
  is known from its places in bytes, and which one is found;
* **`sizeHint?_eq_first_pair_or_greatest`**: the size that a name tells.
-/

namespace SketchPreview.Font

open SketchPreview.Expr Text

/-! ## Runs of digits -/

/-- A run of digits in a text, as long as possible, with what stands around it. -/
@[ext]
structure DigitRun (s : List Char) where
  front : List Char
  run : List Char
  behind : List Char
  text : front ++ run ++ behind = s
  nonempty : run ≠ []
  first : ∀ c ∈ front.getLast?, c.isDigit = false
  longest : IsRun Char.isDigit run behind

/-- A run of digits that writes a number of 32 bits with a sign. -/
structure NumberRun (s : List Char) extends DigitRun s where
  fits : Fits32 (readNat run)

namespace DigitRun

variable {s : List Char}

/-- What a run writes. -/
def value (k : DigitRun s) : ℕ := readNat k.run

/-- A run with its places in bytes. -/
def toRun (k : DigitRun s) : Run where
  start := byteLength k.front
  stop := byteLength (k.front ++ k.run)
  number := k.value

theorem eq_of_front_eq {k l : DigitRun s} (h : k.front = l.front) : k = l := by
  have htext := k.text.trans l.text.symm
  rw [List.append_assoc, List.append_assoc, h] at htext
  have hrest := List.append_cancel_left htext
  have hrun : k.run = l.run := by rw [← k.longest.takeWhile_eq, hrest, l.longest.takeWhile_eq]
  have hbehind : k.behind = l.behind := by
    rw [← k.longest.dropWhile_eq, hrest, l.longest.dropWhile_eq]
  exact DigitRun.ext h hrun hbehind

theorem start_lt_stop (k : DigitRun s) : k.toRun.start < k.toRun.stop := by
  have hpos : byteLength k.run ≠ 0 := fun h => k.nonempty (byteLength_eq_zero_iff.1 h)
  simp only [toRun, byteLength_append]
  omega

theorem front_of_not_digit (k : DigitRun s) {seen rest : List Char} {c : Char}
    (hs : seen ++ c :: rest = s) (hc : c.isDigit = false) :
    seen <+: k.front ↔ seen ++ [c] <+: k.front := by
  refine ⟨?_, (List.prefix_append seen [c]).trans⟩
  rintro ⟨t, ht⟩
  have htext := k.text.trans hs.symm
  rw [← ht, List.append_assoc, List.append_assoc] at htext
  have hrest := List.append_cancel_left htext
  cases t with
  | nil =>
    obtain ⟨d, run, hrun⟩ := List.exists_cons_of_ne_nil k.nonempty
    rw [hrun] at hrest
    have hd := k.longest.all d (hrun ▸ List.mem_cons_self)
    rw [(List.cons.inj hrest).1, hc] at hd
    cases hd
  | cons d t =>
    obtain rfl : d = c := (List.cons.inj hrest).1
    exact ⟨t, by rw [← ht]; simp⟩

theorem front_of_front (k l : DigitRun s) :
    k.front <+: l.front ↔ l = k ∨ k.front ++ k.run <+: l.front := by
  constructor
  · rintro ⟨t, ht⟩
    have htext := k.text.trans l.text.symm
    rw [← ht, List.append_assoc, List.append_assoc, List.append_assoc] at htext
    obtain ⟨u, rfl, -⟩ | ⟨u, hu, -⟩ := List.append_eq_append_iff.1 (List.append_cancel_left htext)
    · exact .inr ⟨u, by rw [← ht]; simp⟩
    · -- what stands between the two beginnings would end with a digit
      rcases List.eq_nil_or_concat t with rfl | ⟨t, c, rfl⟩
      · exact .inl (eq_of_front_eq (by rw [← ht, List.append_nil]))
      · have hdigit := k.longest.all c (by rw [hu]; simp)
        have hnot := l.first c (by rw [← ht]; simp)
        rw [hdigit] at hnot
        cases hnot
  · rintro (rfl | h)
    · exact List.prefix_rfl
    · exact (List.prefix_append _ _).trans h

theorem stop_lt_start (k l : DigitRun s) (h : k.front ++ k.run <+: l.front) :
    k.toRun.stop < l.toRun.start := by
  obtain ⟨t, ht⟩ := h
  have hne : byteLength t ≠ 0 := by
    intro hzero
    rw [byteLength_eq_zero_iff.1 hzero, List.append_nil] at ht
    have hlast := List.getLast?_eq_some_getLast k.nonempty
    have hnot := l.first (k.run.getLast k.nonempty) (by
      rw [← ht, List.getLast?_append, hlast, Option.some_or]; rfl)
    rw [k.longest.all _ (List.getLast_mem k.nonempty)] at hnot
    cases hnot
  simp only [toRun, ← ht, byteLength_append]
  omega

end DigitRun

/-! ## The scan -/

/-- Runs that are the numbers from the end of `front` on, from the left. -/
structure Finds (s front : List Char) (runs : List Run) : Prop where
  mem_iff : ∀ r, r ∈ runs ↔ ∃ k : NumberRun s, front <+: k.front ∧ k.toRun = r
  sorted : runs.Pairwise (·.stop < ·.start)

namespace Finds

variable {s : List Char} {runs : List Run}

theorem nil (s : List Char) : Finds s s [] where
  mem_iff r := by
    simp only [List.not_mem_nil, false_iff, not_exists, not_and]
    rintro k ⟨t, ht⟩ -
    have hlength := congrArg List.length k.text
    rw [← ht] at hlength
    simp only [List.length_append] at hlength
    exact k.nonempty (List.length_eq_zero_iff.1 (by omega))
  sorted := .nil

theorem skip {seen rest : List Char} {c : Char} (hs : seen ++ c :: rest = s)
    (hc : c.isDigit = false) (h : Finds s (seen ++ [c]) runs) : Finds s seen runs where
  mem_iff r := (h.mem_iff r).trans <| exists_congr fun k =>
    and_congr_left' (k.front_of_not_digit hs hc).symm
  sorted := h.sorted

theorem leave {k : DigitRun s} (hk : ¬Fits32 k.value) (h : Finds s (k.front ++ k.run) runs) :
    Finds s k.front runs where
  mem_iff r := by
    refine (h.mem_iff r).trans <| exists_congr fun l => and_congr_left' ?_
    rw [k.front_of_front l.toDigitRun, or_iff_right]
    rintro rfl
    exact hk l.fits
  sorted := h.sorted

theorem cons {k : NumberRun s} (h : Finds s (k.front ++ k.run) runs) :
    Finds s k.front (k.toRun :: runs) where
  mem_iff r := by
    rw [List.mem_cons, h.mem_iff]
    constructor
    · rintro (rfl | ⟨l, hl, rfl⟩)
      · exact ⟨k, List.prefix_rfl, rfl⟩
      · exact ⟨l, (k.front_of_front l.toDigitRun).2 (.inr hl), rfl⟩
    · rintro ⟨l, hl, rfl⟩
      rcases (k.front_of_front l.toDigitRun).1 hl with heq | hl
      · exact .inl (congrArg DigitRun.toRun heq)
      · exact .inr ⟨l, hl, rfl⟩
  sorted := by
    refine List.pairwise_cons.2 ⟨fun r hr => ?_, h.sorted⟩
    obtain ⟨l, hl, rfl⟩ := (h.mem_iff r).1 hr
    exact k.stop_lt_start l.toDigitRun hl

end Finds

/-- What the scan remembers: behind `seen`, where the run of digits in front has begun, if there is
one. The numbers still to come have `front` in front of them. -/
inductive Seen : List Char → Option ℕ → List Char → Prop where
  | outside {front : List Char} (first : ∀ c ∈ front.getLast?, c.isDigit = false) :
      Seen front none front
  | inside {front run : List Char} (nonempty : run ≠ [])
      (first : ∀ c ∈ front.getLast?, c.isDigit = false) (digits : ∀ c ∈ run, c.isDigit = true) :
      Seen (front ++ run) (some (byteLength front)) front

theorem Seen.digit {seen front : List Char} {start : Option ℕ} (h : Seen seen start front)
    {c : Char} (hc : c.isDigit = true) :
    Seen (seen ++ [c]) (some (start.getD (byteLength seen))) front := by
  cases h with
  | outside first => exact .inside (List.cons_ne_nil c []) first (by simpa using hc)
  | @inside front run nonempty first digits =>
    rw [List.append_assoc]
    refine .inside (by simp) first fun d hd => ?_
    rcases List.mem_append.1 hd with hd | hd
    · exact digits d hd
    · exact List.mem_singleton.1 hd ▸ hc

section Scan

variable {s : List Char}

/-- A run is cut out of the text where it ends. -/
theorem DigitRun.slice?_eq (k : DigitRun s) : slice? s k.toRun.start k.toRun.stop = some k.run :=
  slice?_eq_some_iff.2 ⟨k.front, k.behind, k.text.symm, rfl, rfl⟩

theorem scanRuns?_digit {start : Option ℕ} {i : ℕ} {c : Char} (hc : c.isDigit = true)
    {rest : List (ℕ × Char)} :
    scanRuns? s start ((i, c) :: rest) = scanRuns? s (some (start.getD i)) rest := by
  cases start <;> simp only [scanRuns?, hc, Option.getD_none, Option.getD_some]

theorem scanRuns?_outside {i : ℕ} {c : Char} (hc : c.isDigit = false) {rest : List (ℕ × Char)} :
    scanRuns? s none ((i, c) :: rest) = scanRuns? s none rest := by
  simp only [scanRuns?, hc]

theorem scanRuns?_stop (k : DigitRun s) {c : Char} (hc : c.isDigit = false)
    {rest : List (ℕ × Char)} {runs : List Run} (hscan : scanRuns? s none rest = some runs)
    (h : Finds s (k.front ++ k.run) runs) :
    ∃ runs, scanRuns? s (some k.toRun.start) ((k.toRun.stop, c) :: rest) = some runs ∧
      Finds s k.front runs := by
  simp only [scanRuns?, hc, k.slice?_eq, hscan, Option.bind_eq_bind, Option.bind_some, number?]
  by_cases hfits : Fits32 (readNat k.run)
  · rw [if_pos hfits]
    exact ⟨_, rfl, Finds.cons (k := ⟨k, hfits⟩) h⟩
  · rw [if_neg hfits]
    exact ⟨_, rfl, h.leave hfits⟩

theorem exists_scanRuns? {seen rest front : List Char} {start : Option ℕ} (hs : seen ++ rest = s)
    (h : Seen seen start front) :
    ∃ runs, scanRuns? s start (charIndices (byteLength seen) rest ++ [(byteLength s, ' ')]) =
      some runs ∧ Finds s front runs := by
  induction rest generalizing seen start front with
  | nil =>
    obtain rfl : seen = s := by rw [← hs, List.append_nil]
    cases h with
    | outside first => exact ⟨[], rfl, .nil _⟩
    | @inside front run nonempty first digits =>
      let k : DigitRun (front ++ run) :=
        ⟨front, run, [], List.append_nil _, nonempty, first, digits, by simp⟩
      exact scanRuns?_stop k (by decide) rfl (Finds.nil _)
  | cons c rest ih =>
    have hnext : seen ++ [c] ++ rest = s := by rw [← hs]; simp
    have hplace : byteLength (seen ++ [c]) = byteLength seen + c.utf8Size := by simp
    cases hc : c.isDigit with
    | true =>
      obtain ⟨runs, hscan, hruns⟩ := ih hnext (h.digit hc)
      rw [hplace] at hscan
      exact ⟨runs, (scanRuns?_digit hc).trans hscan, hruns⟩
    | false =>
      have hseen : Seen (seen ++ [c]) none (seen ++ [c]) := .outside (by simpa using hc)
      obtain ⟨runs, hscan, hruns⟩ := ih hnext hseen
      rw [hplace] at hscan
      have hskip := hruns.skip hs hc
      cases h with
      | outside first => exact ⟨runs, (scanRuns?_outside hc).trans hscan, hskip⟩
      | @inside front run nonempty first digits =>
        let k : DigitRun s :=
          ⟨front, run, c :: rest, hs, nonempty, first, digits, by simpa using hc⟩
        exact scanRuns?_stop k hc hscan hskip

/-- **The numbers of a name.** -/
theorem exists_digitRuns? (s : List Char) :
    ∃ runs, digitRuns? s = some runs ∧ Finds s [] runs :=
  exists_scanRuns? (List.nil_append s) (.outside (by simp))

end Scan

/-! ## Pairs -/

/-- A pair of numbers of a text with nothing but an `x` between them. It begins at byte `i`, and `n`
is the greater one. -/
def PairAt (s : List Char) (i n : ℕ) : Prop :=
  ∃ a b : NumberRun s, ∃ x, (x = 'x' ∨ x = 'X') ∧ b.front = a.front ++ a.run ++ [x] ∧
    i = byteLength a.front ∧ n = max a.value b.value

/-- What is asked of two runs to make a pair. -/
def Joined (s : List Char) (a b : Run) : Prop :=
  b.start = a.stop + 1 ∧ ∃ text, slice? s a.stop b.start = some text ∧ text.map Char.toLower = ['x']

/-- A pair of runs of a list that begins at byte `i`, with the greater number. -/
def PairIn (s : List Char) (runs : List Run) (i n : ℕ) : Prop :=
  ∃ a ∈ runs, ∃ b ∈ runs, Joined s a b ∧ i = a.start ∧ n = max a.number b.number

section Pairs

variable {s : List Char}

theorem DigitRun.exists_between (k l : DigitRun s) (h : k.toRun.stop ≤ l.toRun.start) :
    ∃ text, l.front = k.front ++ k.run ++ text ∧
      slice? s k.toRun.stop l.toRun.start = some text := by
  have hk : k.front ++ k.run <+: s := ⟨k.behind, k.text⟩
  have hl : l.front <+: s := ⟨l.run ++ l.behind, by rw [← List.append_assoc, l.text]⟩
  have hprefix : k.front ++ k.run <+: l.front := by
    rcases List.prefix_or_prefix_of_prefix hk hl with hkl | ⟨t, ht⟩
    · exact hkl
    · have hzero : byteLength t = 0 := by
        simp only [toRun, ← ht, byteLength_append] at h
        omega
      rw [← ht, byteLength_eq_zero_iff.1 hzero, List.append_nil]
  obtain ⟨text, htext⟩ := hprefix
  refine ⟨text, htext.symm, slice?_eq_some_iff.2 ⟨k.front ++ k.run, l.run ++ l.behind, ?_, rfl, ?_⟩⟩
  · rw [htext, ← List.append_assoc, l.text]
  · rw [htext, toRun]

theorem map_toLower_eq_x_iff {text : List Char} :
    text.map Char.toLower = ['x'] ↔ ∃ x, (x = 'x' ∨ x = 'X') ∧ text = [x] := by
  have hlower (c : Char) : c.toLower = 'x' ↔ c = 'x' ∨ c = 'X' := by
    rw [toLower_eq_iff, ← Char.toNat_inj, ← Char.toNat_inj]
    show _ ∧ c.toNat + 32 = 120 ∨ _ ∧ c.toNat = 120 ↔ c.toNat = 120 ∨ c.toNat = 88
    omega
  simp only [List.map_eq_singleton_iff, hlower]
  exact exists_congr fun _ => and_comm

theorem joined_toRun_iff {k l : DigitRun s} : Joined s k.toRun l.toRun ↔
    ∃ x, (x = 'x' ∨ x = 'X') ∧ l.front = k.front ++ k.run ++ [x] := by
  constructor
  · rintro ⟨hplace, text, htext, hx⟩
    obtain ⟨text', hfront, htext'⟩ := k.exists_between l (by omega)
    obtain rfl : text = text' := Option.some.inj (htext.symm.trans htext')
    obtain ⟨x, hx', rfl⟩ := map_toLower_eq_x_iff.1 hx
    exact ⟨x, hx', hfront⟩
  · rintro ⟨x, hx, hfront⟩
    have hplace : l.toRun.start = k.toRun.stop + 1 := by
      have hsize : x.utf8Size = 1 := by rcases hx with rfl | rfl <;> rfl
      simp only [DigitRun.toRun, hfront, byteLength_append, byteLength_cons, hsize, byteLength_nil]
    obtain ⟨text, hfront', htext⟩ := k.exists_between l (by omega)
    obtain rfl : [x] = text := List.append_cancel_left (hfront.symm.trans hfront')
    exact ⟨hplace, [x], htext, map_toLower_eq_x_iff.2 ⟨x, hx, rfl⟩⟩

/-- Runs of a text, from the left. -/
structure Listed (s : List Char) (runs : List Run) : Prop where
  mem : ∀ r ∈ runs, ∃ k : DigitRun s, k.toRun = r
  sorted : runs.Pairwise (·.stop < ·.start)

namespace Listed

variable {a b : Run} {rest : List Run}

theorem of_cons (h : Listed s (a :: rest)) : Listed s rest where
  mem r hr := h.mem r (List.mem_cons_of_mem a hr)
  sorted := h.sorted.of_cons

theorem start_lt_stop (h : Listed s rest) (ha : a ∈ rest) : a.start < a.stop := by
  obtain ⟨k, rfl⟩ := h.mem a ha
  exact k.start_lt_stop

theorem start_lt_of_mem (h : Listed s (a :: rest)) (hb : b ∈ rest) : a.start < b.start :=
  (h.start_lt_stop List.mem_cons_self).trans ((List.pairwise_cons.1 h.sorted).1 b hb)

theorem pairIn_cons_cons (h : Listed s (a :: b :: rest)) :
    PairIn s (a :: b :: rest) = fun i n =>
      Joined s a b ∧ i = a.start ∧ n = max a.number b.number ∨ PairIn s (b :: rest) i n := by
  funext i n
  refine propext ?_
  have ha := h.start_lt_stop List.mem_cons_self
  have hb := h.of_cons.start_lt_stop List.mem_cons_self
  have hbehind := (List.pairwise_cons.1 h.sorted).1
  have hrest := (List.pairwise_cons.1 h.sorted.of_cons).1
  constructor
  · rintro ⟨c, hc, d, hd, hjoined, hi, hn⟩
    have hplace := hjoined.1
    rcases List.mem_cons.1 hc with rfl | hc' <;> rcases List.mem_cons.1 hd with rfl | hd'
    · omega
    · rcases List.mem_cons.1 hd' with rfl | hd'
      · exact .inl ⟨hjoined, hi, hn⟩
      · have h₁ := hbehind b List.mem_cons_self
        have h₂ := hrest d hd'
        omega
    · have h₁ := hbehind c hc'
      have h₂ := h.start_lt_stop hc
      omega
    · exact .inr ⟨c, hc', d, hd', hjoined, hi, hn⟩
  · rintro (⟨hjoined, hi, hn⟩ | ⟨c, hc, d, hd, hjoined, hi, hn⟩)
    · exact ⟨a, by simp, b, by simp, hjoined, hi, hn⟩
    · exact ⟨c, List.mem_cons_of_mem a hc, d, List.mem_cons_of_mem a hd, hjoined, hi, hn⟩

theorem firstPair?_of_joined (hjoined : Joined s a b) :
    firstPair? s (a :: b :: rest) = some (some (max a.number b.number)) := by
  obtain ⟨hplace, text, htext, hx⟩ := hjoined
  rw [firstPair?, if_pos hplace, htext, Option.bind_eq_bind, Option.bind_some, if_pos hx]

theorem firstPair?_of_not_joined (h : Listed s (a :: b :: rest)) (hjoined : ¬Joined s a b) :
    firstPair? s (a :: b :: rest) = firstPair? s (b :: rest) := by
  rw [firstPair?]
  split
  next hplace =>
    obtain ⟨k, rfl⟩ := h.mem a (by simp)
    obtain ⟨l, rfl⟩ := h.mem b (by simp)
    obtain ⟨text, -, htext⟩ := k.exists_between l (by omega)
    rw [htext, Option.bind_eq_bind, Option.bind_some,
      if_neg fun hx => hjoined ⟨hplace, text, htext, hx⟩]
  next => rfl

theorem exists_firstPair? {runs : List Run} (h : Listed s runs) :
    ∃ pair, firstPair? s runs = some pair ∧
      ∀ n, pair = some n ↔ ∃ i, IsFirst (PairIn s runs) i n := by
  induction runs with
  | nil => exact ⟨none, rfl, by simp [IsFirst, PairIn]⟩
  | cons a rest ih =>
    cases rest with
    | nil =>
      have ha := h.start_lt_stop List.mem_cons_self
      refine ⟨none, rfl, fun n => iff_of_false nofun ?_⟩
      rintro ⟨i, ⟨b, hb, c, hc, ⟨hplace, -⟩, -⟩, -⟩
      obtain rfl := List.mem_singleton.1 hb
      obtain rfl := List.mem_singleton.1 hc
      omega
    | cons b rest =>
      by_cases hjoined : Joined s a b
      · refine ⟨_, firstPair?_of_joined hjoined, fun n => ?_⟩
        have hbehind : ∀ i n, PairIn s (b :: rest) i n → a.start < i := by
          rintro i n ⟨c, hc, -, -, -, rfl, -⟩
          exact h.start_lt_of_mem hc
        rw [Option.some.injEq, eq_comm, ← exists_isFirst_or_iff hbehind, h.pairIn_cons_cons]
        simp only [hjoined, true_and]
      · rw [h.firstPair?_of_not_joined hjoined]
        simp only [h.pairIn_cons_cons, hjoined, false_and, false_or]
        exact ih h.of_cons

end Listed

end Pairs

/-! ## The size -/

namespace Finds

variable {s : List Char} {runs : List Run}

theorem listed {front : List Char} (h : Finds s front runs) : Listed s runs where
  mem r hr := by
    obtain ⟨k, -, hk⟩ := (h.mem_iff r).1 hr
    exact ⟨k.toDigitRun, hk⟩
  sorted := h.sorted

theorem mem_iff_exists (h : Finds s [] runs) (r : Run) :
    r ∈ runs ↔ ∃ k : NumberRun s, k.toRun = r := by
  simp only [h.mem_iff, List.nil_prefix, true_and]

/-- The pairs of runs that are found are the pairs of the text. -/
theorem pairIn_eq (h : Finds s [] runs) : PairIn s runs = PairAt s := by
  funext i n
  refine propext ⟨?_, ?_⟩
  · rintro ⟨a, ha, b, hb, hjoined, rfl, rfl⟩
    obtain ⟨k, rfl⟩ := (h.mem_iff_exists a).1 ha
    obtain ⟨l, rfl⟩ := (h.mem_iff_exists b).1 hb
    obtain ⟨x, hx, hfront⟩ := joined_toRun_iff.1 hjoined
    exact ⟨k, l, x, hx, hfront, rfl, rfl⟩
  · rintro ⟨k, l, x, hx, hfront, rfl, rfl⟩
    exact ⟨k.toRun, (h.mem_iff_exists _).2 ⟨k, rfl⟩, l.toRun, (h.mem_iff_exists _).2 ⟨l, rfl⟩,
      joined_toRun_iff.2 ⟨x, hx, hfront⟩, rfl, rfl⟩

theorem max?_eq_some_iff (h : Finds s [] runs) {n : ℕ} : (runs.map Run.number).max? = some n ↔
    IsGreatest (Set.range fun k : NumberRun s => k.value) n := by
  have hmem (m : ℕ) :
      m ∈ runs.map Run.number ↔ m ∈ Set.range fun k : NumberRun s => k.value := by
    simp only [List.mem_map, h.mem_iff_exists]
    constructor
    · rintro ⟨_, ⟨k, rfl⟩, rfl⟩
      exact ⟨k, rfl⟩
    · rintro ⟨k, rfl⟩
      exact ⟨_, ⟨k, rfl⟩, rfl⟩
  rw [List.max?_eq_some_iff]
  exact and_congr (hmem n) (forall_congr' fun m => imp_congr_left (hmem m))

theorem eq_nil_iff (h : Finds s [] runs) : runs = [] ↔ IsEmpty (NumberRun s) := by
  simp only [List.eq_nil_iff_forall_not_mem, h.mem_iff_exists, not_exists, isEmpty_iff]
  exact ⟨fun h k => h _ k rfl, fun h r k _ => h k⟩

end Finds

/-- **The size that a name tells.** No cut that is made on the way falls inside a character. The
size is the greater number of the first pair; where there is no pair, it is the greatest number of
the name; and there is none exactly where there is no number. -/
theorem sizeHint?_eq_first_pair_or_greatest (name : String) :
    guess? name.toList = some (sizeHint? name) ∧
      (∀ n, sizeHint? name = some n ↔ (∃ i, IsFirst (PairAt name.toList) i n) ∨
        (∀ i m, ¬PairAt name.toList i m) ∧
          IsGreatest (Set.range fun k : NumberRun name.toList => k.value) n) ∧
      (sizeHint? name = none ↔ IsEmpty (NumberRun name.toList)) := by
  obtain ⟨runs, hscan, hruns⟩ := exists_digitRuns? name.toList
  obtain ⟨pair, hpair, hfirst⟩ := hruns.listed.exists_firstPair?
  rw [hruns.pairIn_eq] at hfirst
  have hno : pair = none ↔ ∀ i m, ¬PairAt name.toList i m := by
    rw [Option.eq_none_iff_forall_ne_some, ← forall_not_isFirst_iff]
    simp only [ne_eq, hfirst, not_exists]
  have hguess : guess? name.toList = some (pair.or (runs.map Run.number).max?) := by
    simp only [guess?, hscan, hpair, Option.bind_eq_bind, Option.bind_some]
  have hhint : sizeHint? name = pair.or (runs.map Run.number).max? := by
    rw [sizeHint?, hguess, Option.join_some]
  refine ⟨hguess.trans (congrArg some hhint.symm), fun n => ?_, ?_⟩
  · rw [hhint, Option.or_eq_some_iff, hfirst, hno, hruns.max?_eq_some_iff]
  · rw [hhint, Option.or_eq_none_iff, List.max?_eq_none_iff, List.map_eq_nil_iff, hruns.eq_nil_iff,
      and_iff_right_iff_imp, hno]
    rintro hempty i m ⟨k, -⟩
    exact hempty.elim k

-- `99999999999` is too great a number, so `3` makes no pair with it.
example : sizeHint? "u8g2_font_99999999999x3_6X12é40" = some 12 := by decide

end SketchPreview.Font
