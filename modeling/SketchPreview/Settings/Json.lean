import SketchPreview.Json.Decode
import SketchPreview.Settings.Basic

/-!
# Settings as JSON

A settings file holds the choices that differ from the standard ones.

* `Settings.toJson`, `Settings.ofJson?`.
-/

namespace SketchPreview.Settings

/-- Settings as JSON. -/
def toJson (s : Settings) : Json :=
  .obj [("width", .nat s.size.width.toNat), ("height", .nat s.size.height.toNat),
    ("scale", .nat s.scale.toNat), ("invert", .bool s.invert), ("grid", .bool s.grid),
    ("textUseDrawColor", .bool s.textUsesDrawColor), ("bdfPath", .option .str s.explicitFont),
    ("fontDir", .str s.fontFolder), ("fetchBaseUrl", .str s.repository),
    ("autoFetch", .bool s.fetches), ("cacheLimitMb", .nat s.limitMegabytes.toNat)]

/-- The fields of a settings file. An array without items counts as one without fields. -/
def fields? : Json → Option Json.Fields
  | .arr [] => some []
  | v => v.toFields?

/-- The settings that a file describes, for given standard settings. -/
def ofJson? (standard : Settings) (v : Json) : Option Settings := do
  let fields ← fields? v
  let width ← fields.withDefault "width" standard.size.width Json.toUInt32?
  let height ← fields.withDefault "height" standard.size.height Json.toUInt32?
  let scale ← fields.withDefault "scale" standard.scale Json.toUInt32?
  let invert ← fields.withDefault "invert" standard.invert Json.toBool?
  let grid ← fields.withDefault "grid" standard.grid Json.toBool?
  let textUsesDrawColor ←
    fields.withDefault "textUseDrawColor" standard.textUsesDrawColor Json.toBool?
  let explicitFont ←
    fields.withDefault "bdfPath" standard.explicitFont (Json.toOption? Json.toString?)
  let fontFolder ← fields.withDefault "fontDir" standard.fontFolder Json.toString?
  let repository ← fields.withDefault "fetchBaseUrl" standard.repository Json.toString?
  let fetches ← fields.withDefault "autoFetch" standard.fetches Json.toBool?
  let limitMegabytes ← fields.withDefault "cacheLimitMb" standard.limitMegabytes Json.toUInt64?
  some
    { size := ⟨width, height⟩, scale, invert, grid, textUsesDrawColor, explicitFont, fontFolder,
      repository, fetches, limitMegabytes }

end SketchPreview.Settings
