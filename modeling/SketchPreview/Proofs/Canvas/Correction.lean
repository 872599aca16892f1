import SketchPreview.Proofs.Canvas.Circle

/-!
# The corrections in 128 bits

A circle computes the sizes of its steps in numbers of 128 bits: from a guess, one loop goes down
by ones and another one goes up. Here a number that leaves the range ends the computation without a
result. With radii of 64 bits that never happens, and the guess tells no more than how many rounds
the loops take.

* `Fits128`, `held128?`, `gap128?`: numbers of 128 bits;
* `lower128?`, `raise128?`, `correct128?`: the loops, with the rounds that they take;
* `lower128?_round`, `raise128?_round`: one round;
* `IsMidpoint.lower128?_eq`, `IsMidpoint.raise128?_eq`: where either loop ends;
* **`midpointX_of_every_guess`**: the step size, whatever the guess.
-/

namespace SketchPreview

/-! ## Numbers of 128 bits -/

/-- Whether `n` is a number of 128 bits. -/
def Fits128 (n : Int) : Prop := -2 ^ 127 ≤ n ∧ n < 2 ^ 127

instance (n : Int) : Decidable (Fits128 n) := inferInstanceAs (Decidable (_ ∧ _))

/-- A result that has to be a number of 128 bits. -/
def held128? (n : Int) : Option Int := if Fits128 n then some n else none

/-- The number `x * x - x`, which both loops compare. -/
def gap128? (x : Int) : Option Int := do
  let square ← held128? (x * x)
  held128? (square - x)

theorem fits128_of_nonneg {n : Int} (h0 : 0 ≤ n) (hn : n < 2 ^ 127) : Fits128 n := by
  unfold Fits128
  omega

theorem held128?_of_nonneg {n : Int} (h0 : 0 ≤ n) (hn : n < 2 ^ 127) : held128? n = some n :=
  if_pos (fits128_of_nonneg h0 hn)

theorem gap128?_eq {x : Int} (h1 : 1 ≤ x) (hx : x ≤ 2 ^ 63 + 1) : gap128? x = some (x * x - x) := by
  have hsquare : x * x ≤ (2 ^ 63 + 1) * (2 ^ 63 + 1) := mul_self_le_mul_self (by omega) hx
  have hgap : 0 ≤ x * x - x := by
    have := mul_nonneg (a := x) (b := x - 1) (by omega) (by omega)
    linarith
  rw [gap128?, held128?_of_nonneg (by omega) (by omega), Option.bind_eq_bind, Option.bind_some,
    held128?_of_nonneg hgap (by omega)]

/-! ## The loops -/

/-- The loop down: from `x` after some rounds to the number at which it ends. -/
def lower128? (d x : Int) (rounds : Nat) : Option (Int × Nat) :=
  if 0 < x then do
    let gap ← gap128? x
    if d ≤ gap then
      lower128? d (x - 1) (rounds + 1)
    else
      return (x, rounds)
  else
    some (x, rounds)
  termination_by x.toNat

/-- The loop up: from `x` after some rounds to the number at which it ends. -/
def raise128? (d x : Int) (rounds : Nat) : Option (Int × Nat) :=
  if Fits128 (x + 1) then do
    let gap ← gap128? (x + 1)
    if gap < d then
      raise128? d (x + 1) (rounds + 1)
    else
      return (x, rounds)
  else
    none
  termination_by (2 ^ 127 - x).toNat
  decreasing_by
    unfold Fits128 at *
    omega

/-- The size of step `y` on a circle of radius `r`, corrected from a guess, and the rounds that both
loops take. -/
def correct128? (r y guess : Int) : Option (Int × Nat) := do
  let radius ← held128? (r * r)
  let row ← held128? (y * y)
  let d ← held128? (radius - row)
  let low ← lower128? d guess 0
  raise128? d low.1 low.2

section Round

variable {d x : Int} {rounds : Nat}

theorem lower128?_round (h1 : 1 ≤ x) (hx : x ≤ 2 ^ 63) :
    lower128? d x rounds =
      if d ≤ x * x - x then lower128? d (x - 1) (rounds + 1) else some (x, rounds) := by
  rw [lower128?, if_pos (by omega), gap128?_eq h1 (by omega)]
  rfl

theorem raise128?_round (h0 : 0 ≤ x) (hx : x ≤ 2 ^ 63) :
    raise128? d x rounds =
      if (x + 1) * (x + 1) - (x + 1) < d then raise128? d (x + 1) (rounds + 1)
      else some (x, rounds) := by
  rw [raise128?, if_pos (fits128_of_nonneg (by omega) (by omega)),
    gap128?_eq (by omega) (by omega)]
  rfl

end Round

namespace IsMidpoint

variable {d : Int} {m : Nat}

theorem gap_lt_iff (h : IsMidpoint d m) {x : Int} (hx : 0 ≤ x) : x * x - x < d ↔ x ≤ m := by
  constructor
  · intro hlt
    by_contra hgt
    have := mul_self_add_le (a := m) (b := x) (by omega) (by omega)
    linarith [h.2]
  · intro hle
    rcases eq_or_lt_of_le hle with rfl | hlt
    · exact h.1
    · have := mul_self_add_le (a := x) (b := m) (by omega) hlt
      linarith [h.1]

/-- The loop down ends at the midpoint, or where it begins if that is not beyond it. By induction
on the beginning: the guard at zero only ends a loop that begins there. -/
theorem lower128?_eq (h : IsMidpoint d m) {x : Nat} (hx : x ≤ 2 ^ 63) (rounds : Nat) :
    lower128? d x rounds = some (((min x m : Nat) : Int), rounds + (x - m)) := by
  induction x generalizing rounds with
  | zero =>
    rw [lower128?, if_neg (by decide)]
    simp
  | succ x ih =>
    have hquestion := h.gap_lt_iff (x := (x + 1 : Nat)) (by omega)
    rw [lower128?_round (by omega) (by omega)]
    split
    · have hback : ((x + 1 : Nat) : Int) - 1 = x := by omega
      rw [hback, ih (by omega), Option.some.injEq, Prod.mk.injEq]
      omega
    · rw [Option.some.injEq, Prod.mk.injEq]
      omega

/-- The loop up ends at the midpoint, if it does not begin beyond it. By induction on the rounds to
come. -/
theorem raise128?_eq (h : IsMidpoint d m) (hm : m ≤ 2 ^ 63) {x : Nat} (hx : x ≤ m) (rounds : Nat) :
    raise128? d x rounds = some ((m : Int), rounds + (m - x)) := by
  induction hn : m - x generalizing x rounds with
  | zero =>
    have hquestion := h.gap_lt_iff (x := (x : Int) + 1) (by omega)
    rw [raise128?_round (by omega) (by omega), if_neg (by omega), Option.some.injEq, Prod.mk.injEq]
    omega
  | succ n ih =>
    have hquestion := h.gap_lt_iff (x := (x : Int) + 1) (by omega)
    rw [raise128?_round (by omega) (by omega), if_pos (by omega),
      show (x : Int) + 1 = (x + 1 : Nat) from rfl, ih (by omega) _ (by omega), Option.some.injEq,
      Prod.mk.injEq]
    omega

end IsMidpoint

/-! ## The size of a step -/

theorem isMidpoint_radius {r : Int} (hr : 1 ≤ r) : IsMidpoint (r * r) r := by
  constructor <;> linarith

theorem midpointX_le {r y : Int} (hy : 0 ≤ y) (hyr : y < r) : midpointX r y ≤ r := by
  refine (isMidpoint_midpointX hy hyr).mono ?_ (isMidpoint_radius (by omega))
  linarith [mul_self_nonneg y]

theorem correct128?_eq {r y : Int} (hy : 0 ≤ y) (hyr : y < r) (hr : r ≤ max64) {m guess : Nat}
    (h : IsMidpoint (r * r - y * y) m) (hm : m ≤ r) (hguess : guess ≤ 2 ^ 63) :
    correct128? r y guess = some ((m : Int), ((guess : Int) - m).natAbs) := by
  unfold max64 at hr
  have hradius : r * r ≤ 2 ^ 63 * 2 ^ 63 := mul_self_le_mul_self (by omega) (by omega)
  have hrow : y * y < r * r := mul_self_lt_mul_self hy hyr
  have hsquare : held128? (r * r) = some (r * r) :=
    held128?_of_nonneg (mul_self_nonneg r) (by omega)
  have hcut : held128? (y * y) = some (y * y) := held128?_of_nonneg (mul_self_nonneg y) (by omega)
  have hroom : held128? (r * r - y * y) = some (r * r - y * y) :=
    held128?_of_nonneg (by omega) (by have := mul_self_nonneg y; omega)
  have hlow := h.lower128?_eq hguess 0
  have hsize := h.raise128?_eq (by omega) (Nat.min_le_right guess m) (0 + (guess - m))
  simp only [correct128?, hsquare, hcut, hroom, hlow, hsize, Option.bind_eq_bind, Option.bind_some]
  rw [Option.some.injEq, Prod.mk.injEq]
  omega

/-- **The size of a step, whatever the guess.** For radii of 64 bits the corrections end without
leaving the range of 128 bits, at the only number with `x * x - x < r * r - y * y ≤ x * x + x`. The
guess tells how many rounds they take. The size lies between one and the radius and does not grow
from step to step. -/
theorem midpointX_of_every_guess {r y : Int} (hy : 0 ≤ y) (hyr : y < r) (hr : r ≤ max64) :
    (∀ guess : Int, 0 ≤ guess → guess ≤ 2 ^ 63 →
      correct128? r y guess = some (midpointX r y, (guess - midpointX r y).natAbs)) ∧
    (∀ guess : Nat, midpoint (r * r - y * y) guess = midpointX r y) ∧
    (∀ x, x * x - x < r * r - y * y ∧ r * r - y * y ≤ x * x + x ↔ x = midpointX r y) ∧
    1 ≤ midpointX r y ∧ midpointX r y ≤ r ∧
    ∀ z, y ≤ z → z < r → midpointX r z ≤ midpointX r y := by
  have hmid := isMidpoint_midpointX hy hyr
  have hle := midpointX_le hy hyr
  have hroom : 0 < r * r - y * y := sub_pos.2 (mul_self_lt_mul_self hy hyr)
  refine ⟨?_, ?_, ?_, hmid.pos, hle, ?_⟩
  · intro guess h0 hguess
    obtain ⟨m, hm⟩ := Int.eq_ofNat_of_zero_le (Int.le_of_lt hmid.pos)
    obtain ⟨g, rfl⟩ := Int.eq_ofNat_of_zero_le h0
    rw [hm] at hmid hle ⊢
    exact correct128?_eq hy hyr hr hmid hle (by omega)
  · intro guess
    exact (isMidpoint_midpoint hroom guess).unique hmid
  · intro x
    constructor
    · intro hx
      exact IsMidpoint.unique hx hmid
    · rintro rfl
      exact hmid
  · intro z hyz hzr
    exact midpointX_antitone hy hyz hzr.le

/-- The last step but one of the greatest circle, from the least guess and from the greatest. -/
theorem midpointX_of_every_guess_greatest :
    0 ≤ max64 - 1 ∧ max64 - 1 < max64 ∧ max64 ≤ max64 ∧
      midpointX max64 (max64 - 1) = 2 ^ 32 ∧
      correct128? max64 (max64 - 1) 0 = some (2 ^ 32, 2 ^ 32) ∧
      correct128? max64 (max64 - 1) (2 ^ 63) = some (2 ^ 32, 2 ^ 63 - 2 ^ 32) := by
  obtain ⟨hrun, -, honly, -⟩ :=
    midpointX_of_every_guess (r := max64) (y := max64 - 1) (by decide) (by decide) (by decide)
  have hsize : midpointX max64 (max64 - 1) = 2 ^ 32 :=
    ((honly (2 ^ 32)).1 ⟨by decide, by decide⟩).symm
  refine ⟨by decide, by decide, by decide, hsize, ?_, ?_⟩
  · rw [hrun 0 (by decide) (by decide), hsize]
    rfl
  · rw [hrun (2 ^ 63) (by decide) (by decide), hsize]
    rfl

end SketchPreview
