/-!
# The shortest decimal that reads back

The reals that round to a binary64 number form an interval. Among the decimals of that interval with
the fewest digits, the one nearest to the number is its *shortest decimal*; if two are equally near,
it is the greater.

The interval of `m * 2 ^ q` reaches half a unit of the last place up and down, but only a quarter of
one down from a power of two, where the numbers below lie closer. Its ends belong to it when `m` is
even. All comparisons are between natural numbers.

* `Interval`, `Interval.around`;
* `shortest`: digits and decimal exponent.
-/

namespace SketchPreview.Decimal

/-- A number with the interval of the reals that round to it. The three are fractions with the same
denominator. -/
structure Interval where
  low : Nat
  value : Nat
  high : Nat
  denominator : Nat
  closed : Bool

/-- The interval of the positive number `m * 2 ^ q`. -/
def Interval.around (m : Nat) (q : Int) : Interval :=
  let unit := Nat.pow 2 (q - 2).toNat
  let below := if m = Nat.pow 2 52 ∧ q ≠ -1074 then 1 else 2
  ⟨(4 * m - below) * unit, 4 * m * unit, (4 * m + 2) * unit, Nat.pow 2 (2 - q).toNat, m % 2 == 0⟩

/-- Whether `n * 10 ^ k` lies in the interval. -/
def Interval.contains (i : Interval) (n : Nat) (k : Int) : Bool :=
  let point := n * Nat.pow 10 k.toNat * i.denominator
  let low := i.low * Nat.pow 10 (-k).toNat
  let high := i.high * Nat.pow 10 (-k).toNat
  if i.closed then low ≤ point && point ≤ high else low < point && point < high

/-- The point nearest to the value on the grid of the multiples of `10 ^ k`, if the interval holds
one. -/
def Interval.nearest? (i : Interval) (k : Int) : Option Nat :=
  let value := i.value * Nat.pow 10 (-k).toNat
  let step := i.denominator * Nat.pow 10 k.toNat
  let below := value / step
  match i.contains below k, i.contains (below + 1) k with
  | true, true => some (if 2 * (value % step) < step then below else below + 1)
  | true, false => some below
  | false, true => some (below + 1)
  | false, false => none

/-- The first grid from `10 ^ k` down that has a point in the interval, among `fuel` of them. -/
def Interval.firstHit (i : Interval) : Nat → Int → Nat × Int
  | 0, k => (i.value * Nat.pow 10 (-k).toNat / (i.denominator * Nat.pow 10 k.toNat), k)
  | fuel + 1, k =>
    match i.nearest? k with
    | some n => (n, k)
    | none => i.firstHit fuel (k - 1)

/-- The shortest decimal `digits * 10 ^ exponent` of the positive number `m * 2 ^ q`. The search
begins above the number and needs at most eighteen grids more, since seventeen digits are enough. -/
def shortest (m : Nat) (q : Int) : Nat × Int :=
  let start := (m.log2 + q) * 30103 / 100000 + 2
  (Interval.around m q).firstHit 24 start

end SketchPreview.Decimal
