/-!
# Stacks of limited depth

A stack reports a push that takes it beyond its limit, though the element is pushed all the same,
and a pop that finds nothing.

* `Stack`, `Stack.push`, `Stack.pop?`, `Stack.pop₂`, `Stack.top?`;
* `Stack.Fault`, `Stack.push?`.
-/

namespace SketchPreview.Expr

/-- A stack, its top first, that knows its depth. -/
structure Stack (α : Type) where
  items : List α
  depth : Nat
  depth_eq : depth = items.length

namespace Stack

variable {α : Type}

/-- What can go wrong with a stack. -/
inductive Fault where
  | overflow
  | underflow
  deriving DecidableEq, Repr

/-- The text of a fault; the owner of the stack words the overflow. -/
def Fault.message (overflowText : String) : Fault → String
  | overflow => overflowText
  | underflow => "MISSING OPERAND"

/-- The greatest depth that is no fault. -/
def limit : Nat := 65535

/-- The stack without elements. -/
def empty : Stack α := ⟨[], 0, rfl⟩

/-- Whether there is no element. -/
def isEmpty (s : Stack α) : Bool := s.items.isEmpty

/-- The element on top. -/
def top? (s : Stack α) : Option α := s.items.head?

/-- The stack with one more element on top. -/
def push (s : Stack α) (a : α) : Stack α :=
  ⟨a :: s.items, s.depth + 1, by simp [s.depth_eq]⟩

/-- Whether the depth is beyond the limit. -/
def isOverfull (s : Stack α) : Bool := limit < s.depth

/-- A push that fails when the stack becomes too deep. -/
def push? (s : Stack α) (a : α) : Except Fault (Stack α) :=
  if (s.push a).isOverfull then .error .overflow else .ok (s.push a)

/-- The element on top and the stack below it. -/
def pop? (s : Stack α) : Except Fault (α × Stack α) :=
  match s with
  | ⟨[], _, _⟩ => .error .underflow
  | ⟨a :: rest, depth, h⟩ => .ok (a, ⟨rest, depth - 1, by simp [h]⟩)

/-- Takes the two elements on top, the lower one first. What is left of the stack comes with the
answer: an element found alone is gone. -/
def pop₂ (s : Stack α) : Except Fault (α × α) × Stack α :=
  match s.pop? with
  | .error fault => (.error fault, s)
  | .ok (second, below) =>
    match below.pop? with
    | .error fault => (.error fault, below)
    | .ok (first, rest) => (.ok (first, second), rest)

/-- Takes elements from the top as long as they satisfy `p`. -/
def popWhile (p : α → Bool) (s : Stack α) : List α × Stack α :=
  (s.items.takeWhile p, ⟨s.items.dropWhile p, s.depth - (s.items.takeWhile p).length, by
    have h := congrArg List.length (List.takeWhile_append_dropWhile (p := p) (l := s.items))
    rw [List.length_append] at h
    rw [s.depth_eq]
    omega⟩)

theorem items_push (s : Stack α) (a : α) : (s.push a).items = a :: s.items := rfl

theorem push?_eq_ok_iff {s t : Stack α} {a : α} :
    s.push? a = .ok t ↔ s.items.length < limit ∧ t = s.push a := by
  have h : (s.push a).isOverfull = true ↔ ¬ s.items.length < limit := by
    simp only [isOverfull, push, s.depth_eq, decide_eq_true_eq]; omega
  unfold push?
  split
  · next hf => simp [h.1 hf]
  · next hf =>
    have hl : s.items.length < limit := by
      rw [h] at hf; exact Decidable.not_not.1 hf
    simp [hl, eq_comm]

end Stack

end SketchPreview.Expr
