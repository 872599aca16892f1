/-!
# Arithmetic that has to fit

Sums, differences and products of words of 64 bits are checked: one that does not fit ends the
program at once, whatever it is doing.

* `Overflow`, `Overflow.message`: an operation whose result does not fit;
* `Checked.add`, `Checked.sub`, `Checked.mul`: the operations;
* `fitting`: a result in a program that an overflow ends;
* `Checked.add_eq_ok`, `Checked.sub_eq_ok`, `Checked.mul_eq_ok`: a result that fits is exact.
-/

namespace SketchPreview

/-- An operation whose result does not fit into a word. -/
inductive Overflow where
  | add
  | sub
  | mul
  deriving DecidableEq, Repr, Inhabited

/-- The words with which an overflow ends the program. -/
def Overflow.message : Overflow → String
  | add => "attempt to add with overflow"
  | sub => "attempt to subtract with overflow"
  | mul => "attempt to multiply with overflow"

/-- A result that fits, or the end of the program. -/
def fitting {m : Type → Type} [Monad m] [MonadExceptOf Overflow m] {α : Type} :
    Except Overflow α → m α
  | .ok a => return a
  | .error o => throwThe Overflow o

namespace Checked

/-- The sum of two words. -/
def add (a b : UInt64) : Except Overflow UInt64 :=
  if a.toNat + b.toNat < UInt64.size then .ok (a + b) else .error .add

/-- The difference of two words. -/
def sub (a b : UInt64) : Except Overflow UInt64 :=
  if b ≤ a then .ok (a - b) else .error .sub

/-- The product of two words. -/
def mul (a b : UInt64) : Except Overflow UInt64 :=
  if a.toNat * b.toNat < UInt64.size then .ok (a * b) else .error .mul

variable {a b c : UInt64}

theorem add_eq_ok : add a b = .ok c ↔ c.toNat = a.toNat + b.toNat := by
  rw [add]
  split
  · next h =>
    rw [Except.ok.injEq, ← UInt64.toNat_inj, UInt64.toNat_add, Nat.mod_eq_of_lt h]
    exact eq_comm
  · next h => exact ⟨(nomatch ·), fun h' => absurd (h' ▸ c.toNat_lt_size) h⟩

theorem sub_eq_ok : sub a b = .ok c ↔ c.toNat + b.toNat = a.toNat := by
  rw [sub]
  split
  · next h =>
    have hle : b.toNat ≤ a.toNat := UInt64.le_iff_toNat_le.1 h
    rw [Except.ok.injEq, ← UInt64.toNat_inj, UInt64.toNat_sub_of_le a b h]
    omega
  · next h =>
    have hlt : ¬b.toNat ≤ a.toNat := mt UInt64.le_iff_toNat_le.2 h
    exact ⟨(nomatch ·), fun h' => absurd (h' ▸ Nat.le_add_left ..) hlt⟩

theorem mul_eq_ok : mul a b = .ok c ↔ c.toNat = a.toNat * b.toNat := by
  rw [mul]
  split
  · next h =>
    rw [Except.ok.injEq, ← UInt64.toNat_inj, UInt64.toNat_mul, Nat.mod_eq_of_lt h]
    exact eq_comm
  · next h => exact ⟨(nomatch ·), fun h' => absurd (h' ▸ c.toNat_lt_size) h⟩

theorem add_eq_error (h : UInt64.size ≤ a.toNat + b.toNat) : add a b = .error .add :=
  if_neg (Nat.not_lt.2 h)

theorem mul_eq_error (h : UInt64.size ≤ a.toNat * b.toNat) : mul a b = .error .mul :=
  if_neg (Nat.not_lt.2 h)

end Checked

end SketchPreview
