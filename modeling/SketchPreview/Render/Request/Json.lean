import SketchPreview.Font.Json
import SketchPreview.Operation.Json
import SketchPreview.Render.Request

/-!
# Render requests as JSON

A request needs its width and height; everything else has a standard value. A program that runs a
sketch prints a shorter document: the operations that were recorded and perhaps the size.

* `RenderRequest.toJson`, `RenderRequest.ofJson?`;
* `Recording`, `Recording.ofJson?`: what a running sketch recorded.
-/

namespace SketchPreview

open Json (Fields)

/-- Fonts as JSON. -/
def FontMap.toJson (fonts : FontMap) : Json :=
  .obj (fonts.entries.map fun e => (e.1, e.2.toJson))

/-- A font under its name. -/
def namedFont? (field : String × Json) : Option (String × BitmapFont) :=
  (BitmapFont.ofJson? field.2).map fun font => (field.1, font)

/-- The fonts that a JSON object describes. Of two fonts of one name the last one counts. -/
def FontMap.ofJson? (v : Json) : Option FontMap := do
  let fields ← v.toFields?
  let entries ← fields.mapM namedFont?
  some (.ofList entries)

/-- A field that is left out where there is no value. -/
def optionalField {α : Type} (key : String) (f : α → Json) : Option α → Fields
  | some a => [(key, f a)]
  | none => []

/-- A request as JSON. -/
def RenderRequest.toJson (r : RenderRequest) : Json :=
  .obj ([("width", .nat r.size.width.toNat), ("height", .nat r.size.height.toNat),
      ("scale", .nat r.scale.toNat), ("invert", .bool r.invert), ("grid", .bool r.grid),
      ("ops", .list Operation.toJson r.operations)] ++
    optionalField "fonts" FontMap.toJson r.fonts ++ optionalField "font" BitmapFont.toJson r.font ++
    [("textUseDrawColor", .bool r.textUsesDrawColor)])

/-- The request that a JSON object describes. -/
def RenderRequest.ofJson? (v : Json) : Option RenderRequest := do
  let fields ← v.toFields?
  let width ← fields.required "width" Json.toUInt32?
  let height ← fields.required "height" Json.toUInt32?
  let scale ← fields.withDefault "scale" standardScale Json.toUInt32?
  let invert ← fields.withDefault "invert" false Json.toBool?
  let grid ← fields.withDefault "grid" false Json.toBool?
  let operations ← fields.withDefault "ops" [] (Json.toList? Operation.ofJson?)
  let fonts ← fields.optional "fonts" FontMap.ofJson?
  let font ← fields.optional "font" BitmapFont.ofJson?
  let textUsesDrawColor ← fields.withDefault "textUseDrawColor" true Json.toBool?
  some { size := ⟨width, height⟩, scale, invert, grid, operations, fonts, font, textUsesDrawColor }

/-- The operations that a running sketch recorded, and the size of its display if it told it. -/
structure Recording where
  width : Option UInt32
  height : Option UInt32
  operations : List Operation
  deriving DecidableEq, Repr

/-- The recording that a JSON object describes. -/
def Recording.ofJson? (v : Json) : Option Recording := do
  let fields ← v.toFields?
  let width ← fields.optional "width" Json.toUInt32?
  let height ← fields.optional "height" Json.toUInt32?
  let operations ← fields.withDefault "ops" [] (Json.toList? Operation.ofJson?)
  some { width, height, operations }

end SketchPreview
