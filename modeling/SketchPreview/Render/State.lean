import SketchPreview.Font.Bitmap
import SketchPreview.Font.Size

/-!
# Display state

What one drawing operation leaves to the next one besides pixels: the colour, the cursor and the
font.

* `DisplayState`, `DisplayState.start`;
* `DisplayState.selectFont`, `DisplayState.activeFont?`.
-/

namespace SketchPreview

/-- The colour, the cursor and the font in force. Without a `font` the built-in one is used, at
`builtinSize`; `fontName` is the name last selected, whether there is such a font or not. -/
structure DisplayState where
  foreground : Bool
  cursorX : Int32
  cursorY : Int32
  font : Option String
  fontName : Option String
  builtinSize : Nat
  deriving DecidableEq, Repr, Inhabited

namespace DisplayState

/-- The font that is active before one is selected: the one that the user chose, or else the first
one by name. -/
def startFont? (fonts : FontMap) : Option String :=
  if fonts.contains explicitKey then some explicitKey else fonts.firstKey?

/-- The state before the first operation. -/
def start (fonts : FontMap) : DisplayState where
  foreground := true
  cursorX := 0
  cursorY := 8
  font := startFont? fonts
  fontName := startFont? fonts
  builtinSize := Builtin.standardSize

/-- The font that a name selects: the font of that name, or else the one that the user chose. -/
def fontFor? (fonts : FontMap) (name : String) : Option String :=
  if fonts.contains name then some name
  else if fonts.contains explicitKey then some explicitKey
  else none

/-- Selects a font. Where there is none, the built-in one takes the size that the name tells. -/
def selectFont (s : DisplayState) (fonts : FontMap) (name : String) : DisplayState :=
  let font := fontFor? fonts name
  { s with
    font
    fontName := some name
    builtinSize := if font.isSome then s.builtinSize else Font.nominalSize name }

/-- The bitmap font in force. -/
def activeFont? (s : DisplayState) (fonts : FontMap) : Option BitmapFont := s.font.bind fonts.get?

end DisplayState

end SketchPreview
