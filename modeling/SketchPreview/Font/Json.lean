import SketchPreview.Font.Bitmap
import SketchPreview.Json.Decode
import SketchPreview.Text.Word

/-!
# Fonts as JSON

Glyphs are stored under their code points in decimal digits, none of them escaped, and the dots of a
glyph are rows of zeros and ones. When a font is read, its metrics may be missing and any number up
to 255 that is not zero is a dot.

* `Glyph.toJson`, `Glyph.ofJson?`;
* `BitmapFont.toJson`, `BitmapFont.ofJson?`;
* `codeKey?`: the code point that a key writes.
-/

namespace SketchPreview

open Json (Fields)

/-- A dot as a number. -/
def dotJson (dot : Bool) : Json := .nat (if dot then 1 else 0)

/-- Whether a number is a dot. -/
def dotOfJson? (v : Json) : Option Bool := (v.toNatUpTo? 255).map (· != 0)

/-- A glyph as JSON. -/
def Glyph.toJson (g : Glyph) : Json :=
  .obj [("code", .nat g.code.toNat), ("w", .int g.width.toInt), ("h", .int g.height.toInt),
    ("xoff", .int g.xOffset.toInt), ("yoff", .int g.yOffset.toInt),
    ("dwidth", .int g.deviceWidth.toInt), ("rows", .list (Json.list dotJson) g.rows)]

/-- The glyph that a JSON object describes. -/
def Glyph.ofJson? (v : Json) : Option Glyph := do
  let fields ← v.toFields?
  let code ← fields.required "code" Json.toUInt32?
  let width ← fields.required "w" Json.toInt32?
  let height ← fields.required "h" Json.toInt32?
  let xOffset ← fields.required "xoff" Json.toInt32?
  let yOffset ← fields.required "yoff" Json.toInt32?
  let deviceWidth ← fields.required "dwidth" Json.toInt32?
  let rows ← fields.required "rows" (Json.toList? (Json.toList? dotOfJson?))
  some { code, width, height, xOffset, yOffset, deviceWidth, rows }

/-- The code point that a key writes, in decimal digits without a leading zero. -/
def codeKey? (key : Json.Quoted) : Option UInt32 :=
  let digits := key.written
  match Text.readNat? digits with
  | some n =>
    if n < UInt32.size ∧ (digits.head? ≠ some '0' ∨ digits.length = 1) then some (UInt32.ofNat n)
    else none
  | none => none

/-- An entry of a font's glyphs. -/
def glyphEntry? (entry : Json.Quoted × Json) : Option (UInt32 × Glyph) := do
  let code ← codeKey? entry.1
  let glyph ← Glyph.ofJson? entry.2
  some (code, glyph)

/-- The glyphs of a font. Of two glyphs under one code point the last one counts. -/
def glyphsOfJson? (v : Json) : Option (SortedMap UInt32 Glyph) := do
  let entries ← v.toEntries? >>= List.mapM glyphEntry?
  some (.ofList entries)

/-- A font as JSON. -/
def BitmapFont.toJson (f : BitmapFont) : Json :=
  .obj [("name", .str f.name), ("ascent", .int f.ascent.toInt), ("descent", .int f.descent.toInt),
    ("lineHeight", .int f.lineHeight.toInt),
    ("glyphs", .obj (f.glyphs.entries.map fun e => (toString e.1.toNat, e.2.toJson)))]

/-- The font that a JSON object describes. -/
def BitmapFont.ofJson? (v : Json) : Option BitmapFont := do
  let fields ← v.toFields?
  let name ← fields.required "name" Json.toString?
  let ascent ← fields.withDefault "ascent" 8 Json.toInt32?
  let descent ← fields.withDefault "descent" 0 Json.toInt32?
  let lineHeight ← fields.withDefault "lineHeight" 8 Json.toInt32?
  let glyphs ← fields.withDefault "glyphs" .empty glyphsOfJson?
  some { name, ascent, descent, lineHeight, glyphs }

end SketchPreview
