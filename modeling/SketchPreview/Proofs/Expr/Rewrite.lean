import Mathlib.Data.List.Basic
import SketchPreview.Expr.Accessor

/-!
# Accessors are rewritten from left to right

The accessors of a token list are looked for from the left, with their positions, and then replaced
from the right. The outcome is that of reading the list once from the left: where an accessor begins
it becomes its number, and every other token is copied.

* `accessorTokens`, `members`: the five tokens of an accessor, and the dimensions it may ask for;
* `rewriteAccessors`: the list read from the left;
* `accessor?_eq_some_iff`, `accessor_induction`: a list begins with an accessor or with a token to
  be copied;
* `accessors_append_accessor`, `accessors_cons`: the positions of what follows are moved;
* `replaceAccessors`, `replaceAccessors_append`: replacing leaves alone what stands before;
* `Stands`, `stands_of_accessors_eq`: an accessor stands at its position when it is replaced;
* `accessors_collapseAccessors`: no accessor is left;
* **`collapseAccessors_eq_rewriteAccessors`**.
-/

namespace SketchPreview.Expr

/-- The tokens that ask the display for a member. -/
def accessorTokens (member : String) : List Token :=
  [.name "display", .dot, .name member, .leftParen, .rightParen]

/-- The members that a display has, with the dimensions they stand for. -/
def members (size : Dimensions) : List (String × UInt32) :=
  [("width", size.width), ("height", size.height)]

/-- A token list read from the left: an accessor becomes its number, and every other token is
copied. -/
def rewriteAccessors (size : Dimensions) : List Token → List Token
  | .name "display" :: .dot :: .name "width" :: .leftParen :: .rightParen :: rest =>
    .number size.width.toFloat :: rewriteAccessors size rest
  | .name "display" :: .dot :: .name "height" :: .leftParen :: .rightParen :: rest =>
    .number size.height.toFloat :: rewriteAccessors size rest
  | t :: rest => t :: rewriteAccessors size rest
  | [] => []

variable {size : Dimensions}

/-! ## What a list begins with -/

theorem mem_members_iff {member : String} {side : UInt32} :
    (member, side) ∈ members size ↔
      member = "width" ∧ side = size.width ∨ member = "height" ∧ side = size.height := by
  simp [members]

theorem length_accessorTokens (member : String) :
    (accessorTokens member).length = accessorLength := rfl

theorem accessor?_eq_some_iff {ts : List Token} {side : UInt32} :
    accessor? size ts = some side ↔
      ∃ member rest, (member, side) ∈ members size ∧ ts = accessorTokens member ++ rest := by
  constructor
  · intro h
    unfold accessor? at h
    split at h
    · next object member rest =>
      split_ifs at h with hobject hwidth hheight
      · exact ⟨"width", rest, mem_members_iff.2 (.inl ⟨rfl, (Option.some.inj h).symm⟩),
          by rw [hobject, hwidth]; rfl⟩
      · exact ⟨"height", rest, mem_members_iff.2 (.inr ⟨rfl, (Option.some.inj h).symm⟩),
          by rw [hobject, hheight]; rfl⟩
    · cases h
  · rintro ⟨member, rest, hmember, rfl⟩
    rcases mem_members_iff.1 hmember with ⟨rfl, rfl⟩ | ⟨rfl, rfl⟩ <;> rfl

theorem accessor?_accessorTokens {member : String} {side : UInt32}
    (h : (member, side) ∈ members size) (rest : List Token) :
    accessor? size (accessorTokens member ++ rest) = some side :=
  accessor?_eq_some_iff.2 ⟨member, rest, h, rfl⟩

variable (size) in
/-- **Reading from the left.** What holds of the empty list, and of a list if it holds of what
follows the accessor or else the token in front, holds of every list. -/
theorem accessor_induction {motive : List Token → Prop} (nil : motive [])
    (accessor : ∀ member side rest, (member, side) ∈ members size → motive rest →
      motive (accessorTokens member ++ rest))
    (copy : ∀ t rest, accessor? size (t :: rest) = none → motive rest → motive (t :: rest))
    (ts : List Token) : motive ts := by
  induction h : ts.length using Nat.strongRecOn generalizing ts with
  | ind n ih =>
    cases ts with
    | nil => exact nil
    | cons t rest =>
      cases hfront : accessor? size (t :: rest) with
      | none =>
        refine copy t rest hfront (ih _ ?_ rest rfl)
        rw [← h, List.length_cons]
        omega
      | some side =>
        obtain ⟨member, behind, hmember, hts⟩ := accessor?_eq_some_iff.1 hfront
        rw [hts]
        refine accessor member side behind hmember (ih _ ?_ behind rfl)
        rw [← h, hts, List.length_append, length_accessorTokens, accessorLength]
        omega

/-! ## Positions -/

theorem accessorsFrom_cons_some {t : Token} {rest : List Token} {side : UInt32}
    (h : accessor? size (t :: rest) = some side) (position : ℕ) :
    accessorsFrom size position 0 (t :: rest) =
      (position, side) :: accessorsFrom size (position + 1) (accessorLength - 1) rest := by
  rw [accessorsFrom]
  simp only [h]

theorem accessorsFrom_cons_none {t : Token} {rest : List Token}
    (h : accessor? size (t :: rest) = none) (position : ℕ) :
    accessorsFrom size position 0 (t :: rest) = accessorsFrom size (position + 1) 0 rest := by
  rw [accessorsFrom]
  simp only [h]

theorem accessorsFrom_add (position k skip : ℕ) (ts : List Token) :
    accessorsFrom size (position + k) skip ts =
      (accessorsFrom size position skip ts).map (Prod.map (· + k) id) := by
  induction ts generalizing position skip with
  | nil => rfl
  | cons t rest ih =>
    have hnext : ∀ skip, accessorsFrom size (position + k + 1) skip rest =
        (accessorsFrom size (position + 1) skip rest).map (Prod.map (· + k) id) := by
      intro skip
      rw [Nat.add_right_comm, ih]
    cases skip with
    | succ skip => exact hnext skip
    | zero =>
      cases hfront : accessor? size (t :: rest) with
      | none => rw [accessorsFrom_cons_none hfront, accessorsFrom_cons_none hfront, hnext]
      | some side =>
        rw [accessorsFrom_cons_some hfront, accessorsFrom_cons_some hfront, hnext]
        rfl

theorem accessorsFrom_append (position : ℕ) (before ts : List Token) :
    accessorsFrom size position before.length (before ++ ts) =
      accessorsFrom size (position + before.length) 0 ts := by
  induction before generalizing position with
  | nil => rfl
  | cons t before ih =>
    have h := ih (position + 1)
    rw [Nat.add_right_comm] at h
    exact h

theorem accessors_append_accessor {member : String} {side : UInt32}
    (h : (member, side) ∈ members size) (rest : List Token) :
    accessors size (accessorTokens member ++ rest) =
      (0, side) :: (accessors size rest).map (Prod.map (· + accessorLength) id) := by
  have hskipped : accessorsFrom size 1 (accessorLength - 1)
      ([.dot, .name member, .leftParen, .rightParen] ++ rest) =
        accessorsFrom size (0 + accessorLength) 0 rest :=
    accessorsFrom_append 1 [.dot, .name member, .leftParen, .rightParen] rest
  refine (accessorsFrom_cons_some (accessor?_accessorTokens h rest) 0).trans ?_
  exact congrArg ((0, side) :: ·) (hskipped.trans (accessorsFrom_add 0 accessorLength 0 rest))

theorem accessors_cons {t : Token} {rest : List Token} (h : accessor? size (t :: rest) = none) :
    accessors size (t :: rest) = (accessors size rest).map (Prod.map (· + 1) id) :=
  (accessorsFrom_cons_none h 0).trans (accessorsFrom_add 0 1 0 rest)

/-! ## Replacing -/

/-- The accessors at the given positions replaced by their numbers, the last one first. -/
def replaceAccessors (ts : List Token) (found : List (ℕ × UInt32)) : List Token :=
  found.foldr (fun a ts => replaceAccessor ts a.1 a.2) ts

theorem collapseAccessors_eq (ts : List Token) :
    collapseAccessors size ts = replaceAccessors ts (accessors size ts) := rfl

theorem replaceAccessor_append (before ts : List Token) (position : ℕ) (side : UInt32) :
    replaceAccessor (before ++ ts) (position + before.length) side =
      before ++ replaceAccessor ts position side := by
  unfold replaceAccessor
  rw [Nat.add_comm position, List.take_length_add_append, Nat.add_assoc,
    List.drop_length_add_append, List.append_assoc]

theorem replaceAccessors_append (before ts : List Token) (found : List (ℕ × UInt32)) :
    replaceAccessors (before ++ ts) (found.map (Prod.map (· + before.length) id)) =
      before ++ replaceAccessors ts found := by
  induction found with
  | nil => rfl
  | cons a found ih =>
    change replaceAccessor (replaceAccessors (before ++ ts) _) (a.1 + before.length) a.2 = _
    rw [ih, replaceAccessor_append]
    rfl

theorem collapseAccessors_append_accessor {member : String} {side : UInt32}
    (h : (member, side) ∈ members size) (rest : List Token) :
    collapseAccessors size (accessorTokens member ++ rest) =
      .number side.toFloat :: collapseAccessors size rest := by
  rw [collapseAccessors_eq, accessors_append_accessor h]
  change replaceAccessor (replaceAccessors _ _) 0 side = _
  rw [← length_accessorTokens member, replaceAccessors_append]
  rfl

theorem collapseAccessors_cons {t : Token} {rest : List Token}
    (h : accessor? size (t :: rest) = none) :
    collapseAccessors size (t :: rest) = t :: collapseAccessors size rest := by
  rw [collapseAccessors_eq, accessors_cons h]
  exact replaceAccessors_append [t] rest (accessors size rest)

/-- Once the accessors behind it are replaced, the accessor `a` stands at its position. -/
def Stands (size : Dimensions) (ts : List Token) (a : ℕ × UInt32) (behind : List (ℕ × UInt32)) :
    Prop :=
  ∃ member left right, (member, a.2) ∈ members size ∧ left.length = a.1 ∧
    replaceAccessors ts behind = left ++ accessorTokens member ++ right

theorem Stands.append {ts : List Token} {a : ℕ × UInt32} {behind : List (ℕ × UInt32)}
    (h : Stands size ts a behind) (front : List Token) :
    Stands size (front ++ ts) (Prod.map (· + front.length) id a)
      (behind.map (Prod.map (· + front.length) id)) := by
  obtain ⟨member, left, right, hmember, hleft, hreplaced⟩ := h
  refine ⟨member, front ++ left, right, hmember, ?_, ?_⟩
  · rw [List.length_append, hleft, Nat.add_comm]
    rfl
  · rw [replaceAccessors_append, hreplaced, List.append_assoc, List.append_assoc,
      List.append_assoc]

theorem stands_of_map {ts : List Token} {found before behind : List (ℕ × UInt32)} {a : ℕ × UInt32}
    (front : List Token)
    (h : found.map (Prod.map (· + front.length) id) = before ++ a :: behind)
    (hstands : ∀ before a behind, found = before ++ a :: behind → Stands size ts a behind) :
    Stands size (front ++ ts) a behind := by
  obtain ⟨before', rest, rfl, -, hrest⟩ := List.map_eq_append_iff.1 h
  obtain ⟨a', behind', rfl, rfl, rfl⟩ := List.map_eq_cons_iff.1 hrest
  exact (hstands before' a' behind' rfl).append front

/-- **When an accessor is replaced it stands at its position**, since all that has been replaced by
then stands behind it. -/
theorem stands_of_accessors_eq {ts : List Token} {before behind : List (ℕ × UInt32)}
    {a : ℕ × UInt32} (h : accessors size ts = before ++ a :: behind) :
    Stands size ts a behind := by
  induction ts using accessor_induction size generalizing before a behind with
  | nil => simp [accessors, accessorsFrom] at h
  | accessor member side rest hmember ih =>
    rw [accessors_append_accessor hmember] at h
    cases before with
    | nil =>
      obtain ⟨rfl, rfl⟩ := List.cons.inj h
      refine ⟨member, [], collapseAccessors size rest, hmember, rfl, ?_⟩
      exact replaceAccessors_append (accessorTokens member) rest (accessors size rest)
    | cons b before =>
      exact stands_of_map (accessorTokens member) (List.cons.inj h).2 fun _ _ _ => ih
  | copy t rest hfront ih =>
    rw [accessors_cons hfront] at h
    exact stands_of_map [t] h fun _ _ _ => ih

/-! ## The rewritten list -/

theorem rewriteAccessors_append_accessor {member : String} {side : UInt32}
    (h : (member, side) ∈ members size) (rest : List Token) :
    rewriteAccessors size (accessorTokens member ++ rest) =
      .number side.toFloat :: rewriteAccessors size rest := by
  rcases mem_members_iff.1 h with ⟨rfl, rfl⟩ | ⟨rfl, rfl⟩ <;> rfl

theorem rewriteAccessors_cons {t : Token} {rest : List Token}
    (h : accessor? size (t :: rest) = none) :
    rewriteAccessors size (t :: rest) = t :: rewriteAccessors size rest := by
  rw [rewriteAccessors]
  · rintro behind rfl rfl
    cases h
  · rintro behind rfl rfl
    cases h

theorem exists_of_collapseAccessors_eq_cons {ts us : List Token} {t : Token}
    (h : collapseAccessors size ts = t :: us) (ht : ∀ v, t ≠ .number v) :
    ∃ rest, ts = t :: rest ∧ collapseAccessors size rest = us := by
  induction ts using accessor_induction size with
  | nil => cases h
  | accessor member side rest hmember _ =>
    rw [collapseAccessors_append_accessor hmember] at h
    exact absurd (List.cons.inj h).1.symm (ht _)
  | copy u rest hfront _ =>
    rw [collapseAccessors_cons hfront] at h
    obtain ⟨rfl, rfl⟩ := List.cons.inj h
    exact ⟨rest, rfl, rfl⟩

theorem exists_of_collapseAccessors_eq_append {ts us left : List Token}
    (h : collapseAccessors size ts = left ++ us) (hleft : ∀ t ∈ left, ∀ v, t ≠ .number v) :
    ∃ rest, ts = left ++ rest ∧ collapseAccessors size rest = us := by
  induction left generalizing ts with
  | nil => exact ⟨ts, rfl, h⟩
  | cons t left ih =>
    obtain ⟨ht, hleft⟩ := List.forall_mem_cons.1 hleft
    obtain ⟨rest, rfl, hrest⟩ := exists_of_collapseAccessors_eq_cons h ht
    obtain ⟨rest, rfl, hus⟩ := ih hrest hleft
    exact ⟨rest, rfl, hus⟩

/-- **No accessor is left.** One that begins in the rewritten list begins with a copied token, and
since its tokens are no numbers all five of them are copied. -/
theorem accessors_collapseAccessors (ts : List Token) :
    accessors size (collapseAccessors size ts) = [] := by
  induction ts using accessor_induction size with
  | nil => rfl
  | accessor member side rest hmember ih =>
    rw [collapseAccessors_append_accessor hmember, accessors_cons rfl, ih]
    rfl
  | copy t rest hfront ih =>
    have hcopied : accessor? size (t :: collapseAccessors size rest) = none := by
      rw [Option.eq_none_iff_forall_ne_some]
      intro side hside
      obtain ⟨member, behind, hmember, hts⟩ := accessor?_eq_some_iff.1 hside
      obtain ⟨rfl, hrest⟩ := List.cons.inj hts
      obtain ⟨behind', rfl, -⟩ := exists_of_collapseAccessors_eq_append hrest (by simp)
      cases hfront.symm.trans (accessor?_accessorTokens hmember behind')
    rw [collapseAccessors_cons hfront, accessors_cons hcopied, ih]
    rfl

theorem accessors_ne_nil_of_infix {ts : List Token} {member : String} {side : UInt32}
    (hmember : (member, side) ∈ members size) (h : accessorTokens member <:+: ts) :
    accessors size ts ≠ [] := by
  obtain ⟨left, right, rfl⟩ := h
  rw [List.append_assoc]
  induction left with
  | nil =>
    rw [List.nil_append, accessors_append_accessor hmember]
    exact List.cons_ne_nil _ _
  | cons t left ih =>
    rw [List.cons_append]
    cases hfront : accessor? size (t :: (left ++ (accessorTokens member ++ right))) with
    | none =>
      rw [accessors_cons hfront]
      simpa using ih
    | some side' =>
      obtain ⟨member', behind, hmember', hts⟩ := accessor?_eq_some_iff.1 hfront
      rw [hts, accessors_append_accessor hmember']
      exact List.cons_ne_nil _ _

/-- Replacing from the right and reading from the left give the same list. -/
theorem rewriteAccessors_eq (ts : List Token) :
    rewriteAccessors size ts = collapseAccessors size ts := by
  induction ts using accessor_induction size with
  | nil => rfl
  | accessor member side rest hmember ih =>
    rw [rewriteAccessors_append_accessor hmember, collapseAccessors_append_accessor hmember, ih]
  | copy t rest hfront ih =>
    rw [rewriteAccessors_cons hfront, collapseAccessors_cons hfront, ih]

theorem not_infix_collapseAccessors {member : String} {side : UInt32}
    (h : (member, side) ∈ members size) (ts : List Token) :
    ¬accessorTokens member <:+: collapseAccessors size ts :=
  fun hinfix => accessors_ne_nil_of_infix h hinfix (accessors_collapseAccessors ts)

theorem collapseAccessors_collapseAccessors (ts : List Token) :
    collapseAccessors size (collapseAccessors size ts) = collapseAccessors size ts := by
  rw [collapseAccessors_eq (collapseAccessors size ts), accessors_collapseAccessors]
  rfl

/-- **Collapsing is reading from the left.** The accessors become their numbers and every other
token is copied; no accessor is left, so a second time changes nothing; and whenever one is
replaced, its five tokens stand at its position. -/
theorem collapseAccessors_eq_rewriteAccessors (size : Dimensions) (ts : List Token) :
    collapseAccessors size ts = rewriteAccessors size ts ∧
      (¬accessorTokens "width" <:+: collapseAccessors size ts ∧
        ¬accessorTokens "height" <:+: collapseAccessors size ts) ∧
      collapseAccessors size (collapseAccessors size ts) = collapseAccessors size ts ∧
      ∀ before a behind, accessors size ts = before ++ a :: behind →
        a.1 + accessorLength ≤ (replaceAccessors ts behind).length ∧
          ∃ member, (member, a.2) ∈ members size ∧
            ((replaceAccessors ts behind).drop a.1).take accessorLength =
              accessorTokens member := by
  have hwidth : ("width", size.width) ∈ members size := mem_members_iff.2 (.inl ⟨rfl, rfl⟩)
  have hheight : ("height", size.height) ∈ members size := mem_members_iff.2 (.inr ⟨rfl, rfl⟩)
  refine ⟨(rewriteAccessors_eq ts).symm,
    ⟨not_infix_collapseAccessors hwidth ts, not_infix_collapseAccessors hheight ts⟩,
    collapseAccessors_collapseAccessors ts, ?_⟩
  intro before a behind h
  obtain ⟨member, left, right, hmember, hleft, hreplaced⟩ := stands_of_accessors_eq h
  rw [hreplaced, ← hleft]
  refine ⟨?_, member, hmember, ?_⟩
  · simp only [List.length_append, length_accessorTokens]
    omega
  · rw [List.append_assoc, List.drop_left, ← length_accessorTokens member, List.take_left]

/-- A name that could begin an accessor does not hide the one that follows. -/
example : collapseAccessors .standard (.name "display" :: .dot :: accessorTokens "height") =
    [.name "display", .dot, .number 64] := by decide +kernel

end SketchPreview.Expr
