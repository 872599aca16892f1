import SketchPreview.Call.Nesting
import SketchPreview.Call.Verb
import SketchPreview.Text.Blank
import SketchPreview.Text.Find

/-!
# Finding calls on a line

A call is the name of a drawing call, blanks, and an argument list in parentheses. What stands in
front of the name, such as the object it belongs to, does not matter. Where two names fit, the
longer one counts. The scan goes on behind the closing parenthesis, so calls inside an argument
list are not reported.

* `Site`: a call with the place where it stands;
* `verbAt?`, `siteAt?`: the call at the front of a text;
* `scanCalls`: the calls of a line, from left to right.
-/

namespace SketchPreview.Call

open Text

/-- A call on a line: the place of its first character, the place after its closing parenthesis,
its name and the text between the parentheses. -/
structure Site where
  start : Nat
  stop : Nat
  verb : Verb
  arguments : List Char
  deriving DecidableEq, Repr

/-- What follows the opening parenthesis when a text begins with the call name `v`, blanks and an
opening parenthesis. -/
def argumentsAfter? (v : Verb) (s : List Char) : Option (List Char) := do
  let after ← dropPrefix? v.name.toList s
  dropPrefix? ['('] (trimStart after)

/-- The longest call name at the front of a text that an opening parenthesis follows, and what
follows the parenthesis. -/
def verbAt? (s : List Char) : Option (Verb × List Char) :=
  let fitting := Verb.all.filterMap fun v => (argumentsAfter? v s).map fun rest => (v, rest)
  fitting.foldl
    (fun best f => match best with
      | none => some f
      | some b => if b.1.name.length ≤ f.1.name.length then some f else some b)
    none

/-- The call at the front of a text that stands at place `start`. -/
def siteAt? (start : Nat) (s : List Char) : Option Site := do
  let (verb, inner) ← verbAt? s
  let (arguments, rest) ← closing? .inside inner
  some ⟨start, start + (s.length - rest.length), verb, arguments⟩

/-- The calls of a text that begins at place `start`, when its first `skip` characters belong to
the call before. -/
def scanFrom (start skip : Nat) : List Char → List Site
  | [] => []
  | c :: rest =>
    match skip with
    | skip + 1 => scanFrom (start + 1) skip rest
    | 0 =>
      match siteAt? start (c :: rest) with
      | some site => site :: scanFrom (start + 1) (site.stop - start - 1) rest
      | none => scanFrom (start + 1) 0 rest

/-- The calls of a line. -/
def scanCalls (line : List Char) : List Site := scanFrom 0 0 line

end SketchPreview.Call
