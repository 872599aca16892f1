import SketchPreview.Font.Source
import SketchPreview.Render.Request
import SketchPreview.SizeHint
import SketchPreview.Storage.FilePath

/-!
# Settings

What the user can choose for a preview. A sketch may overrule the size by a hint of its own.

* `Settings`, `Settings.standard`, `standardFontFolder`;
* `Settings.withHint`: the settings for a sketch;
* `Settings.request`: the request for some operations;
* `Settings.sources`: where fonts are looked for.
-/

namespace SketchPreview

/-- What the user can choose. Without a `repository` no font is fetched. -/
structure Settings where
  size : Dimensions
  scale : UInt32
  invert : Bool
  grid : Bool
  textUsesDrawColor : Bool
  explicitFont : Option String
  fontFolder : String
  repository : String
  fetches : Bool
  limitMegabytes : UInt64
  deriving DecidableEq, Repr, Inhabited

/-- The folder of fonts for given values of the variables that tell the user's folder of caches
and home folder. -/
def standardFontFolder (caches home : Option String) : String :=
  let base := (caches.filter (· ≠ "")).getD (FilePath.join (home.getD "") ".cache")
  FilePath.join (FilePath.join base "u8g2-preview") "fonts"

namespace Settings

/-- The settings of a user who chose none. -/
def standard (fontFolder : String) : Settings where
  size := .standard
  scale := standardScale
  invert := false
  grid := false
  textUsesDrawColor := true
  explicitFont := none
  fontFolder := fontFolder
  repository := ""
  fetches := true
  limitMegabytes := 100

/-- The settings with the size that a sketch tells. -/
def withHint (s : Settings) (source : String) : Settings :=
  match sizeHint? source with
  | some size => { s with size }
  | none => s

/-- The request that draws operations under these settings. -/
def request (s : Settings) (operations : List Operation) : RenderRequest :=
  { RenderRequest.ofSize s.size with
    scale := s.scale
    invert := s.invert
    grid := s.grid
    textUsesDrawColor := s.textUsesDrawColor
    operations }

/-- Where fonts are looked for: the folder of fonts and then the repository, if there is one. -/
def sources {m : Type → Type} [Monad m] [MonadExceptOf Overflow m] (s : Settings)
    (fs : FileSystem m) (fetch : String → m Reply) : Except Overflow (List (FontSource m)) :=
  let folder := directorySource fs s.fontFolder
  if s.fetches ∧ s.repository ≠ "" then
    (Repository.of s.repository s.fontFolder s.limitMegabytes).map fun r =>
      [folder, remoteSource fs fetch r]
  else .ok [folder]

end Settings

end SketchPreview
