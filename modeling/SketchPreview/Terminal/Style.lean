/-!
# Styled text

A terminal shows text in colours and weights that control sequences switch on and off. Between
pieces of text in different colours only the difference is written.

* `sequence`, `reset`;
* `dimmed`, `bold`, `yellow`: a text in one style;
* `Colors`, `cellLine`: a line of glyphs with colours of their own.
-/

namespace SketchPreview.Terminal

/-- The control sequence that switches styles on. -/
def sequence (codes : List String) : String := "\x1b[" ++ ";".intercalate codes ++ "m"

/-- The control sequence that ends all styles. -/
def reset : String := sequence ["0"]

/-- A text in one style. -/
def styled (code text : String) : String := sequence [code] ++ text ++ reset

/-- A faint text. -/
def dimmed (text : String) : String := styled "2" text

/-- A bold text. -/
def bold (text : String) : String := styled "1" text

/-- A yellow text. -/
def yellow (text : String) : String := styled "33" text

/-- The colours of a piece of text, out of 256. -/
structure Colors where
  foreground : Nat
  background : Nat
  deriving DecidableEq, Repr

/-- The code of a background colour. -/
def backgroundCode (n : Nat) : String := "48;5;" ++ toString n

/-- The code of a foreground colour. -/
def foregroundCode (n : Nat) : String := "38;5;" ++ toString n

/-- The codes that switch from the colours in force, if there are any, to others. -/
def Colors.codes (current : Option Colors) (next : Colors) : List String :=
  (if current.map (·.background) = some next.background then []
    else [backgroundCode next.background]) ++
  (if current.map (·.foreground) = some next.foreground then []
    else [foregroundCode next.foreground])

/-- Switches from the colours in force to others. -/
def Colors.switch (current : Option Colors) (next : Colors) : String :=
  match next.codes current with
  | [] => ""
  | codes => sequence codes

/-- A glyph in each of a row of colours, from the colours in force on. -/
def cellTexts (glyph : String) (current : Option Colors) : List Colors → List String
  | [] => if current.isSome then [reset] else []
  | next :: rest => (next.switch current ++ glyph) :: cellTexts glyph (some next) rest

/-- A line of glyphs in colours of their own. -/
def cellLine (glyph : String) (cells : List Colors) : String :=
  String.join (cellTexts glyph none cells)

end SketchPreview.Terminal
