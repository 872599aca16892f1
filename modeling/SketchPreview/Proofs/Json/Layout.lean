import SketchPreview.Json.Parser
import SketchPreview.Json.Printer

/-!
# Layouts

Both ways to write a value put the same characters down and differ in the blanks between them.

* `Layout`: the blanks of a way to write;
* `Layout.write`: a value in a layout;
* `Layout.dense`, `Layout.airy`, **`write_dense`**, **`write_airy`**: the two ways.
-/

namespace SketchPreview.Json

/-- The blanks in front of an item or a closing bracket at some level, and behind a colon. -/
structure Layout where
  line : Nat → List Char
  colon : List Char
  line_blank (level : Nat) : ∀ c ∈ line level, isSpace c = true
  colon_blank : ∀ c ∈ colon, isSpace c = true

namespace Layout

mutual

/-- A value at a level. -/
def write (l : Layout) (level : Nat) : Json → List Char
  | arr [] => ['[', ']']
  | arr (v :: rest) => '[' :: l.writeItems (level + 1) (v :: rest) ++ l.line level ++ [']']
  | object [] => ['\x7b', '\x7d']
  | object (f :: rest) =>
    '\x7b' :: l.writeFields (level + 1) (f :: rest) ++ l.line level ++ ['\x7d']
  | v => v.scalar

/-- Items between commas. -/
def writeItems (l : Layout) (level : Nat) : List Json → List Char
  | [] => []
  | [v] => l.line level ++ l.write level v
  | v :: w :: rest => l.line level ++ l.write level v ++ ',' :: l.writeItems level (w :: rest)

/-- Fields between commas. -/
def writeFields (l : Layout) (level : Nat) : List (Quoted × Json) → List Char
  | [] => []
  | [(k, v)] => l.line level ++ k.withQuotes ++ ':' :: l.colon ++ l.write level v
  | (k, v) :: f :: rest =>
    l.line level ++ k.withQuotes ++ ':' :: l.colon ++ l.write level v ++ ',' ::
      l.writeFields level (f :: rest)

end

/-- No blanks. -/
def dense : Layout := ⟨fun _ => [], [], by simp, by simp⟩

/-- One item or field a line. -/
def airy : Layout where
  line := newline
  colon := [' ']
  line_blank level c hc := by
    rcases List.mem_cons.1 hc with rfl | hc
    · rfl
    · rw [List.eq_of_mem_replicate hc]
      rfl
  colon_blank := by simp [isSpace]

mutual

theorem write_dense (level : Nat) : ∀ v : Json, dense.write level v = v.compact
  | arr [] => rfl
  | arr (v :: rest) => by
    rw [write, writeItems_dense (level + 1) (v :: rest), compact]
    simp [dense]
  | object [] => rfl
  | object (f :: rest) => by
    rw [write, writeFields_dense (level + 1) (f :: rest), compact]
    simp [dense]
  | null => rfl
  | bool _ => rfl
  | int _ => rfl
  | decimal _ => rfl
  | quoted _ => rfl

theorem writeItems_dense (level : Nat) : ∀ vs : List Json,
    dense.writeItems level vs = compactItems vs
  | [] => rfl
  | [v] => by rw [writeItems, write_dense level v, compactItems]; rfl
  | v :: w :: rest => by
    rw [writeItems, write_dense level v, writeItems_dense level (w :: rest)]
    rfl

theorem writeFields_dense (level : Nat) : ∀ fs : List (Quoted × Json),
    dense.writeFields level fs = compactFields fs
  | [] => rfl
  | [(k, v)] => by
    rw [writeFields, write_dense level v, compactFields]
    simp [dense]
  | (k, v) :: f :: rest => by
    rw [writeFields, write_dense level v, writeFields_dense level (f :: rest),
      show compactFields ((k, v) :: f :: rest) =
        k.withQuotes ++ ':' :: v.compact ++ ',' :: compactFields (f :: rest) from rfl]
    simp [dense]

end

mutual

theorem write_airy : ∀ (level : Nat) (v : Json), airy.write level v = v.prettyAt level
  | _, arr [] => rfl
  | level, arr (v :: rest) => by
    rw [write, writeItems_airy (level + 1) (v :: rest), prettyAt]
    rfl
  | _, object [] => rfl
  | level, object (f :: rest) => by
    rw [write, writeFields_airy (level + 1) (f :: rest), prettyAt]
    rfl
  | _, null => rfl
  | _, bool _ => rfl
  | _, int _ => rfl
  | _, decimal _ => rfl
  | _, quoted _ => rfl

theorem writeItems_airy : ∀ (level : Nat) (vs : List Json),
    airy.writeItems level vs = prettyItems level vs
  | _, [] => rfl
  | level, [v] => by rw [writeItems, write_airy level v, prettyItems]; rfl
  | level, v :: w :: rest => by
    rw [writeItems, write_airy level v, writeItems_airy level (w :: rest)]
    rfl

theorem writeFields_airy : ∀ (level : Nat) (fs : List (Quoted × Json)),
    airy.writeFields level fs = prettyFields level fs
  | _, [] => rfl
  | level, [(k, v)] => by
    rw [writeFields, write_airy level v, prettyFields]
    simp [airy]
  | level, (k, v) :: f :: rest => by
    rw [writeFields, write_airy level v, writeFields_airy level (f :: rest),
      show prettyFields level ((k, v) :: f :: rest) =
        newline level ++ k.withQuotes ++ ':' :: ' ' :: v.prettyAt level ++ ',' ::
          prettyFields level (f :: rest) from rfl]
    simp [airy]

end

end Layout

end SketchPreview.Json
