import SketchPreview.Font.Bdf
import SketchPreview.Font.Candidate
import SketchPreview.Font.Source

/-!
# Finding fonts

A font is looked for in one source after the other, and in each of them under all its candidate
names. What was found, and what was not, is remembered until the memory is cleared.

* `FontSource.find`, `findFont`: the first file that can be had;
* `FontCache`: what is remembered;
* `Resolution`: the fonts of a sketch, and what there is to say about them;
* `resolveNames`, `resolveSource`.
-/

namespace SketchPreview

/-- A font file that was found, and where. -/
structure FontFile where
  label : String
  file : String
  text : String
  deriving DecidableEq, Repr

/-- The fonts that were found and the names that were not. -/
structure FontCache where
  fonts : FontMap
  misses : List String
  deriving DecidableEq, Repr

/-- Nothing remembered. -/
def FontCache.empty : FontCache := ⟨.empty, []⟩

/-- The number of fonts remembered. -/
def FontCache.size (c : FontCache) : Nat := c.fonts.size

/-- The fonts of a sketch, the problems met, and a note for each font that was loaded. -/
structure Resolution where
  fonts : FontMap
  diagnostics : List Diagnostic
  notes : List String
  deriving DecidableEq, Repr

/-- No fonts. -/
def Resolution.empty : Resolution := ⟨.empty, [], []⟩

/-- The problem of a font that is nowhere to be found. -/
def fontNotFound (name : String) : Diagnostic := .ofDetail .fontFetch ("NOT FOUND " ++ name)

/-- Where a font was found, in words. -/
def FontFile.note (f : FontFile) (name : String) : String :=
  f.label ++ " " ++ f.file ++ " -> " ++ name

variable {m : Type → Type} [Monad m]

/-- The first of some files that a source has, and the problems met on the way. -/
def FontSource.find (s : FontSource m) : List String → m (List Diagnostic × Option FontFile)
  | [] => return ([], none)
  | file :: rest => do
    match ← s.load file with
    | .ok (some text) => return ([], some ⟨s.label, file, text⟩)
    | .ok none => s.find rest
    | .error d => do
      let (ds, found) ← s.find rest
      return (d :: ds, found)

/-- The first of some files that one of the sources has, and the problems met on the way. -/
def findFont (files : List String) : List (FontSource m) → m (List Diagnostic × Option FontFile)
  | [] => return ([], none)
  | s :: rest => do
    match ← s.find files with
    | (ds, some f) => return (ds, some f)
    | (ds, none) => do
      let (ds', found) ← findFont files rest
      return (ds ++ ds', found)

/-- Looks for one more font of a sketch, unless it is remembered. -/
def resolveName (sources : List (FontSource m)) (cache : FontCache) (r : Resolution)
    (name : String) : m (FontCache × Resolution) := do
  match cache.fonts.get? name with
  | some font => return (cache, { r with fonts := r.fonts.insert name font })
  | none =>
    if name ∈ cache.misses then return (cache, r)
    else
      match ← findFont (Font.candidates name) sources with
      | (ds, some f) =>
        let font := Bdf.parse f.text
        return ({ cache with fonts := cache.fonts.insert name font },
          { fonts := r.fonts.insert name font
            diagnostics := r.diagnostics ++ ds
            notes := r.notes ++ [f.note name] })
      | (ds, none) =>
        return ({ cache with misses := name :: cache.misses },
          { r with diagnostics := r.diagnostics ++ ds ++ [fontNotFound name] })

/-- Looks for fonts one after the other. -/
def resolveAll (sources : List (FontSource m)) (cache : FontCache) (r : Resolution) :
    List String → m (FontCache × Resolution)
  | [] => return (cache, r)
  | name :: rest => do
    let (cache, r) ← resolveName sources cache r name
    resolveAll sources cache r rest

/-- Adds the font that the user chose, if there is one. -/
def Resolution.withExplicit (r : Resolution) : Option BitmapFont → Resolution
  | some font => { r with fonts := r.fonts.insert explicitKey font }
  | none => r

/-- The fonts of some names, together with the one that the user chose. -/
def resolveNames (sources : List (FontSource m)) (cache : FontCache) (names : List String)
    (explicit : Option BitmapFont) : m (FontCache × Resolution) := do
  let (cache, r) ← resolveAll sources cache .empty names
  return (cache, r.withExplicit explicit)

/-- The fonts that a sketch selects, together with the one that the user chose. -/
def resolveSource (sources : List (FontSource m)) (cache : FontCache) (source : String)
    (explicit : Option BitmapFont) : m (FontCache × Resolution) :=
  resolveNames sources cache (Font.namesIn source) explicit

end SketchPreview
