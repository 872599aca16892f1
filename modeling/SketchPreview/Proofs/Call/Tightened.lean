import SketchPreview.Proofs.Call.Escape

/-!
# Blanks next to commas and ends

The blanks around arguments are those next to the commas between them and to the ends of the text.
They are told by their places in the text, without cutting it into pieces: from such a blank, a run
of blanks leads up to a cut or to an end.

* `keep`: a list at some of its places;
* `BlankFrom`, `IsLoose`, `tightened`: runs of blanks, the blanks next to cuts and ends, and a text
  without them;
* `EndsInCut`: a text with nothing but blanks behind its last cut;
* `CutInto.exists_cons`: the first piece of a text and what follows it;
* **`CutInto.tightened_eq`**, `CutInto.endsInCut_iff`: the pieces of such a text.
-/

namespace SketchPreview.Call

open Text

/-! ## Lists at some of their places -/

/-- The elements of a list at the places where `p` holds. -/
def keep {α : Type} (p : ℕ → Prop) [DecidablePred p] (l : List α) : List α :=
  (l.zipIdx.filter fun a => p a.2).map Prod.fst

section Keep

variable {α : Type} {p q : ℕ → Prop} [DecidablePred p] [DecidablePred q]

theorem keep_append (l l' : List α) :
    keep p (l ++ l') = keep p l ++ keep (fun i => p (l.length + i)) l' := by
  have hshift : l'.zipIdx l.length = l'.zipIdx.map fun a => (a.1, l.length + a.2) :=
    List.zipIdx_eq_map_add
  rw [keep, List.zipIdx_append, List.filter_append, List.map_append, Nat.zero_add, hshift,
    List.filter_map, List.map_map]
  rfl

theorem keep_congr {l : List α} (h : ∀ i < l.length, p i ↔ q i) : keep p l = keep q l :=
  congrArg (List.map Prod.fst) (List.filter_congr fun a ha =>
    decide_eq_decide.2 (h a.2 (List.snd_lt_of_mem_zipIdx ha)))

theorem keep_eq_self {l : List α} (h : ∀ i < l.length, p i) : keep p l = l := by
  rw [keep, List.filter_eq_self.2, List.zipIdx_map_fst]
  exact fun a ha => decide_eq_true (h a.2 (List.snd_lt_of_mem_zipIdx ha))

theorem keep_eq_nil {l : List α} (h : ∀ i < l.length, ¬p i) : keep p l = [] := by
  rw [keep, List.filter_eq_nil_iff.2, List.map_nil]
  exact fun a ha => by simpa using h a.2 (List.snd_lt_of_mem_zipIdx ha)

end Keep

/-! ## Runs of blanks -/

/-- Whether blanks stand at all places from `i` up to `j`. -/
def BlankFrom (s : List Char) (i j : ℕ) : Prop := ∀ k < j, i ≤ k → s[k]?.any isBlank = true

instance (s : List Char) (i j : ℕ) : Decidable (BlankFrom s i j) :=
  inferInstanceAs (Decidable (∀ k < j, _))

/-- Whether blanks lead from a place back to a cut or to the beginning of the text, or forward to a
cut or to its end. -/
def IsLoose (cut : ℕ → Prop) (s : List Char) (i : ℕ) : Prop :=
  (∃ j ≤ i, (j = 0 ∨ cut (j - 1)) ∧ BlankFrom s j (i + 1)) ∨
    ∃ j ≤ s.length, i < j ∧ (j = s.length ∨ cut j) ∧ BlankFrom s i j

instance (cut : ℕ → Prop) [DecidablePred cut] (s : List Char) : DecidablePred (IsLoose cut s) :=
  fun _ => inferInstanceAs (Decidable (_ ∨ _))

/-- A text without the blanks next to its cuts and ends. -/
def tightened (cut : ℕ → Prop) [DecidablePred cut] (s : List Char) : List Char :=
  keep (fun i => ¬IsLoose cut s i) s

/-- Whether only blanks stand behind the last cut of a text. -/
def EndsInCut (cut : ℕ → Prop) (s : List Char) : Prop :=
  ∃ i < s.length, cut i ∧ BlankFrom s (i + 1) s.length

instance (cut : ℕ → Prop) [DecidablePred cut] (s : List Char) : Decidable (EndsInCut cut s) :=
  inferInstanceAs (Decidable (∃ i < s.length, _))

section BlankFrom

variable {s t : List Char} {c : Char} {i j : ℕ}

theorem blankFrom_append_left (h : j ≤ s.length) :
    BlankFrom (s ++ t) i j ↔ BlankFrom s i j := by
  refine forall₂_congr fun k hk => ?_
  rw [List.getElem?_append_left (by omega)]

theorem blankFrom_append_right :
    BlankFrom (s ++ t) (s.length + i) (s.length + j) ↔ BlankFrom t i j := by
  constructor
  · intro h k hk hik
    have hat := h (s.length + k) (by omega) (by omega)
    rwa [List.getElem?_append_right (by omega), Nat.add_sub_cancel_left] at hat
  · intro h k hk hik
    rw [List.getElem?_append_right (by omega)]
    exact h (k - s.length) (by omega) (by omega)

theorem blankFrom_behind :
    BlankFrom (s ++ c :: t) (s.length + 1 + i) (s.length + 1 + j) ↔ BlankFrom t i j := by
  have hsplit : s ++ c :: t = s ++ [c] ++ t := by simp
  have hlength : s.length + 1 = (s ++ [c]).length := by simp
  rw [hsplit, hlength]
  exact blankFrom_append_right

theorem blankFrom_of_forall (h : ∀ c ∈ s, isBlank c = true) (hj : j ≤ s.length) :
    BlankFrom s i j := by
  intro k hk _
  rw [List.getElem?_eq_getElem (by omega)]
  exact h _ (List.getElem_mem _)

theorem blankFrom_length_iff : BlankFrom s 0 s.length ↔ ∀ c ∈ s, isBlank c = true := by
  refine ⟨fun h c hc => ?_, fun h => blankFrom_of_forall h le_rfl⟩
  obtain ⟨i, hi, rfl⟩ := List.getElem_of_mem hc
  have hat := h i hi (Nat.zero_le i)
  rwa [List.getElem?_eq_getElem hi] at hat

theorem BlankFrom.not_cons (hc : isBlank c = false) (hi : i ≤ s.length) (hj : s.length < j) :
    ¬BlankFrom (s ++ c :: t) i j := by
  intro h
  have hat := h s.length hj hi
  rw [List.getElem?_append_right le_rfl, Nat.sub_self, List.getElem?_cons_zero, Option.any_some,
    hc] at hat
  cases hat

end BlankFrom

/-! ## One piece -/

theorem tightened_padded {s t : List Char} (h : Padded s t)
    (hhead : ∀ c ∈ s.head?, isBlank c = false) (hlast : ∀ c ∈ s.getLast?, isBlank c = false) :
    tightened (fun _ => False) t = s := by
  obtain ⟨before, behind, hbefore, hbehind, rfl⟩ := h
  rw [tightened, keep_append, keep_append, keep_eq_nil, keep_eq_self, keep_eq_nil, List.nil_append,
    List.append_nil]
  · intro i hi
    have hlength : (before ++ s ++ behind).length = (before ++ s).length + behind.length :=
      List.length_append
    refine not_not.2 (.inr ⟨_, le_rfl, by omega, .inl rfl, ?_⟩)
    rw [hlength]
    exact blankFrom_append_right.2 (blankFrom_of_forall hbehind le_rfl)
  · intro i hi
    rintro (⟨j, hj, hedge, hrun⟩ | ⟨j, hj, hij, hedge, hrun⟩)
    · -- the run would begin with the text, and pass the first character of `s`
      obtain rfl : j = 0 := hedge.resolve_right id
      obtain ⟨c, rest, rfl⟩ := List.exists_cons_of_length_pos (Nat.zero_lt_of_lt hi)
      rw [List.append_assoc, List.cons_append] at hrun
      exact hrun.not_cons (hhead c rfl) (Nat.zero_le _) (by omega)
    · -- the run would end with the text, and pass the last character of `s`
      obtain rfl : j = _ := hedge.resolve_right id
      obtain ⟨rest, c, rfl⟩ := (List.eq_nil_or_concat' s).resolve_left
        (List.ne_nil_of_length_pos (Nat.zero_lt_of_lt hi))
      have hsplit : before ++ (rest ++ [c]) ++ behind = before ++ rest ++ c :: behind := by simp
      rw [List.length_append, List.length_singleton] at hi
      rw [hsplit] at hrun
      refine hrun.not_cons (hlast c (by simp)) ?_ ?_
      · rw [List.length_append]
        omega
      · have hlength : (before ++ rest ++ c :: behind).length =
            (before ++ rest).length + (behind.length + 1) := List.length_append
        rw [hlength]
        omega
  · intro i hi
    refine not_not.2 (.inl ⟨0, Nat.zero_le _, .inl rfl, ?_⟩)
    rw [List.append_assoc, blankFrom_append_left (by omega)]
    exact blankFrom_of_forall hbefore (by omega)

theorem tightened_eq_trim (s : List Char) : tightened (fun _ => False) s = trim s :=
  tightened_padded (exists_trim s) (fun _ => isBlank_head_trim) fun _ => isBlank_getLast_trim

/-! ## Piece by piece -/

section Pieces

variable {cut : ℕ → Prop} {s p q t : List Char} {ps : List (List Char)}

theorem CutInto.of_singleton (h : CutInto cut s [p]) : s = p ∧ ∀ i, ¬cut i := by
  refine ⟨by rw [← h.joined, List.intercalate_singleton], fun i hi => ?_⟩
  obtain ⟨k, hk, -⟩ := (h.cut_iff i).1 hi
  simp at hk

theorem CutInto.exists_cons (h : CutInto cut s (p :: q :: ps)) :
    ∃ t, s = p ++ ',' :: t ∧ (∀ i < p.length, ¬cut i) ∧ cut p.length ∧
      CutInto (fun i => cut (p.length + 1 + i)) t (q :: ps) := by
  have hfirst : ([','].intercalate ((p :: q :: ps).take (0 + 1))).length = p.length := by simp
  have hjoined (k : ℕ) : ([','].intercalate ((p :: q :: ps).take (k + 2))).length =
      p.length + 1 + ([','].intercalate ((q :: ps).take (k + 1))).length := by
    rw [List.take_succ_cons, List.take_succ_cons, List.intercalate_cons_cons, List.length_append,
      List.length_append, List.length_singleton]
  refine ⟨[','].intercalate (q :: ps), ?_, fun i hi hcut => ?_, ?_, List.cons_ne_nil _ _, rfl,
    fun i => ?_⟩
  · rw [← h.joined, List.intercalate_cons_cons, List.append_assoc, List.singleton_append]
  · obtain ⟨k, -, hk⟩ := (h.cut_iff i).1 hcut
    cases k with
    | zero => omega
    | succ k =>
      rw [hjoined] at hk
      omega
  · exact (h.cut_iff _).2 ⟨0, by simp, hfirst⟩
  · rw [h.cut_iff]
    constructor
    · rintro ⟨k, hk, hlength⟩
      cases k with
      | zero => omega
      | succ k => exact ⟨k, Nat.lt_of_succ_lt_succ hk, by rw [hjoined] at hlength; omega⟩
    · rintro ⟨k, hk, hlength⟩
      exact ⟨k + 1, Nat.succ_lt_succ hk, by rw [hjoined, hlength]⟩

theorem isLoose_before (hno : ∀ i < p.length, ¬cut i) (hcut : cut p.length) {i : ℕ}
    (hi : i < p.length) : IsLoose cut (p ++ ',' :: t) i ↔ IsLoose (fun _ => False) p i := by
  refine or_congr ?_ ?_
  · refine exists_congr fun j => and_congr_right fun hj => ?_
    rw [blankFrom_append_left (by omega), or_iff_left (hno _ (by omega)), or_false]
  · constructor
    · rintro ⟨j, -, hij, hedge, hrun⟩
      have hj : j ≤ p.length := not_lt.1 fun hj => hrun.not_cons (by decide) hi.le hj
      obtain rfl : j = p.length := by
        rcases hedge with rfl | hedge
        · simp at hj
        · exact le_antisymm hj (not_lt.1 fun hj => hno j hj hedge)
      exact ⟨p.length, le_rfl, hij, .inl rfl, (blankFrom_append_left le_rfl).1 hrun⟩
    · rintro ⟨j, -, hij, hedge, hrun⟩
      obtain rfl : j = p.length := hedge.resolve_right id
      exact ⟨p.length, by simp, hij, .inr hcut, (blankFrom_append_left le_rfl).2 hrun⟩

theorem not_isLoose_comma : ¬IsLoose cut (p ++ ',' :: t) p.length := by
  rintro (⟨j, hj, -, hrun⟩ | ⟨j, -, hj, -, hrun⟩)
  · exact hrun.not_cons (by decide) hj (Nat.lt_succ_self _)
  · exact hrun.not_cons (by decide) le_rfl hj

theorem isLoose_behind (hcut : cut p.length) {i : ℕ} :
    IsLoose cut (p ++ ',' :: t) (p.length + 1 + i) ↔
      IsLoose (fun i => cut (p.length + 1 + i)) t i := by
  have hlength : (p ++ ',' :: t).length = p.length + 1 + t.length := by
    rw [List.length_append, List.length_cons]
    omega
  unfold IsLoose
  rw [hlength]
  refine or_congr ⟨?_, ?_⟩ ⟨?_, ?_⟩
  · rintro ⟨j, hj, hedge, hrun⟩
    have hbehind : p.length < j := not_le.1 fun hj => hrun.not_cons (by decide) hj (by omega)
    obtain ⟨j, rfl⟩ := Nat.exists_eq_add_of_le hbehind
    refine ⟨j, by omega, ?_, blankFrom_behind.1 hrun⟩
    cases j with
    | zero => exact .inl rfl
    | succ j => exact .inr (hedge.resolve_left (by omega))
  · rintro ⟨j, hj, hedge, hrun⟩
    refine ⟨p.length + 1 + j, by omega, .inr ?_, blankFrom_behind.2 hrun⟩
    cases j with
    | zero => exact hcut
    | succ j => exact hedge.resolve_left (Nat.succ_ne_zero j)
  · rintro ⟨j, hj, hij, hedge, hrun⟩
    obtain ⟨j, rfl⟩ := Nat.exists_eq_add_of_le (show p.length + 1 ≤ j by omega)
    exact ⟨j, by omega, by omega, hedge.imp_left (by omega), blankFrom_behind.1 hrun⟩
  · rintro ⟨j, hj, hij, hedge, hrun⟩
    exact ⟨p.length + 1 + j, by omega, by omega, hedge.imp_left (by omega),
      blankFrom_behind.2 hrun⟩

/-- **The blanks next to cuts and ends** are those around the pieces. -/
theorem CutInto.tightened_eq [DecidablePred cut] (h : CutInto cut s ps) :
    tightened cut s = [','].intercalate (ps.map trim) := by
  induction ps generalizing cut s with
  | nil => exact absurd rfl h.ne_nil
  | cons p ps ih =>
    cases ps with
    | nil =>
      obtain ⟨rfl, hno⟩ := h.of_singleton
      have hcut : cut = fun _ => False := funext fun i => eq_false (hno i)
      have htight : tightened cut s = tightened (fun _ => False) s :=
        keep_congr fun i _ => by rw [hcut]
      rw [htight, tightened_eq_trim, List.map_singleton, List.intercalate_singleton]
    | cons q ps =>
      obtain ⟨t, rfl, hno, hcut, hrest⟩ := h.exists_cons
      have hpiece : keep (fun i => ¬IsLoose cut (p ++ ',' :: t) i) p = trim p :=
        (keep_congr fun i hi => not_congr (isLoose_before hno hcut hi)).trans (tightened_eq_trim p)
      have hbehind : keep (fun i => ¬IsLoose cut (p ++ ',' :: t) (p.length + i)) (',' :: t) =
          ',' :: tightened (fun i => cut (p.length + 1 + i)) t := by
        rw [← List.singleton_append, keep_append, keep_eq_self, List.singleton_append]
        · refine congrArg _ (keep_congr fun i _ => not_congr ?_)
          rw [← isLoose_behind hcut, List.length_singleton, Nat.add_assoc]
          rfl
        · intro i hi
          obtain rfl : i = 0 := Nat.lt_one_iff.1 hi
          exact not_isLoose_comma
      rw [tightened, keep_append, hpiece, hbehind, ih hrest, List.map_cons, List.map_cons,
        List.map_cons, List.intercalate_cons_cons, List.append_assoc, List.singleton_append]

theorem endsInCut_comma (hno : ∀ i < p.length, ¬cut i) (hcut : cut p.length) :
    EndsInCut cut (p ++ ',' :: t) ↔
      (∀ c ∈ t, isBlank c = true) ∨ EndsInCut (fun i => cut (p.length + 1 + i)) t := by
  have hlength : (p ++ ',' :: t).length = p.length + 1 + t.length := by
    rw [List.length_append, List.length_cons]
    omega
  rw [← blankFrom_length_iff, EndsInCut, hlength]
  constructor
  · rintro ⟨i, hi, hi', hrun⟩
    rcases Nat.lt_trichotomy i p.length with hlt | rfl | hgt
    · exact absurd hi' (hno i hlt)
    · exact .inl (blankFrom_behind.1 hrun)
    · obtain ⟨i, rfl⟩ := Nat.exists_eq_add_of_le (show p.length + 1 ≤ i from hgt)
      exact .inr ⟨i, by omega, hi', blankFrom_behind.1 hrun⟩
  · rintro (hrun | ⟨i, hi, hi', hrun⟩)
    · exact ⟨p.length, by omega, hcut, blankFrom_behind.2 hrun⟩
    · exact ⟨p.length + 1 + i, by omega, hi', blankFrom_behind.2 hrun⟩

/-- Only blanks stand behind the last cut when there is one and the last piece is blank. -/
theorem CutInto.endsInCut_iff {last : List Char} (h : CutInto cut s (ps ++ [last])) :
    EndsInCut cut s ↔ ps ≠ [] ∧ ∀ c ∈ last, isBlank c = true := by
  induction ps generalizing cut s with
  | nil =>
    obtain ⟨rfl, hno⟩ := h.of_singleton
    exact iff_of_false (fun ⟨i, _, hi, _⟩ => hno i hi) fun hne => hne.1 rfl
  | cons p ps ih =>
    have hconcat (l : List (List Char)) : ∃ q qs, l ++ [last] = q :: qs :=
      List.exists_cons_of_ne_nil (List.concat_ne_nil last l)
    obtain ⟨q, qs, hqs⟩ := hconcat ps
    rw [List.cons_append, hqs] at h
    obtain ⟨t, rfl, hno, hcut, hrest⟩ := h.exists_cons
    rw [← hqs] at hrest
    rw [endsInCut_comma hno hcut, ih hrest]
    cases ps with
    | nil =>
      obtain ⟨rfl, -⟩ := hrest.of_singleton
      simp
    | cons p' ps =>
      -- the comma behind `p'` is no blank
      obtain ⟨q', qs', hqs'⟩ := hconcat ps
      rw [List.cons_append, hqs'] at hrest
      obtain ⟨t', rfl, -⟩ := hrest.exists_cons
      have hcomma : ¬∀ c ∈ p' ++ ',' :: t', isBlank c = true := fun hall =>
        absurd (hall ',' (by simp)) (by decide)
      rw [or_iff_right hcomma]
      simp

end Pieces

end SketchPreview.Call
