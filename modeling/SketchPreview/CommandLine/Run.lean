import SketchPreview.Canvas.Zoom
import SketchPreview.CommandLine.Host
import SketchPreview.CommandLine.Options
import SketchPreview.Compile.Json
import SketchPreview.Font.Resolver
import SketchPreview.Json.Parser
import SketchPreview.Json.Printer
import SketchPreview.Render.Frame
import SketchPreview.Render.Request.Json
import SketchPreview.Settings.Json
import SketchPreview.Terminal.HalfBlocks

/-!
# The program

A sketch is compiled, or the recording of a running sketch is read; the fonts are found, the frame
is drawn and shown. Problems of the sketch and of fonts are warnings; anything else that goes wrong
ends the program. So does a number that does not fit.

* `info`, `warn`: what is reported besides the frame;
* `Session`: what stays the same while the program runs;
* `previewSource`, `previewRecording`: a frame from a sketch and from a recording;
* `execute`: the program, for its arguments.
-/

namespace SketchPreview.CommandLine

variable {m : Type → Type} [Monad m] [MonadExceptOf Overflow m]

/-- A computation that a diagnostic may end. -/
abbrev Work (m : Type → Type) := ExceptT Diagnostic m

/-- Reports progress, unless only warnings are wanted. -/
def info (h : Host m) (quiet : Bool) (tag message : String) : m Unit :=
  if quiet then return ()
  else h.printError (Terminal.dimmed ("[" ++ tag ++ "] " ++ message) ++ "\n")

/-- Reports a problem that does not end the program. -/
def warn (h : Host m) (d : Diagnostic) : m Unit :=
  h.printError (Terminal.yellow ("[warn] " ++ d.message) ++ "\n")

/-- The diagnostic of a file that could not be read or written. -/
def fileFailure (path : String) (e : FileError) : Diagnostic :=
  .ofDetail (if e = .notFound then .fileNotFound else .internalError) (path ++ ": " ++ e.message)

/-- A file as text. -/
def readFile (h : Host m) (path : String) : Work m String := do
  match ← h.files.readText path with
  | .ok text => return text
  | .error e => throw (fileFailure path e)

/-- The settings of a user who chose none. -/
def standardSettings (h : Host m) : m Settings :=
  return .standard (standardFontFolder (← h.environment "XDG_CACHE_HOME") (← h.environment "HOME"))

/-- The settings of a file. -/
def loadSettings (h : Host m) (path : String) : Work m Settings := do
  let standard ← liftM (standardSettings h)
  match (Json.parse? (← readFile h path)).bind (Settings.ofJson? standard) with
  | some s => return s
  | none => throw (.ofDetail .badConfig (path ++ ": not a settings document"))

/-- Settings changed by options. -/
def Options.change (o : Options) (s : Settings) : Settings where
  size := ⟨o.width.getD s.size.width, o.height.getD s.size.height⟩
  scale := o.scale.getD s.scale
  invert := s.invert || o.invert
  grid := s.grid || o.grid
  textUsesDrawColor := s.textUsesDrawColor && !o.textForeground
  explicitFont := o.bdf.or s.explicitFont
  fontFolder := o.fontDir.getD s.fontFolder
  repository := o.fetchUrl.getD s.repository
  fetches := s.fetches && !o.noFetch
  limitMegabytes := o.cacheLimit.getD s.limitMegabytes

/-- The settings for a run with options. -/
def settingsFor (h : Host m) (o : Options) : Work m Settings := do
  match o.config with
  | some path => return o.change (← loadSettings h path)
  | none => return o.change (← liftM (standardSettings h))

/-- What stays the same while the program runs. -/
structure Session (m : Type → Type) where
  settings : Settings
  sources : List (FontSource m)
  explicitFont : Option BitmapFont
  quiet : Bool

/-- Reads the font that the user chose. -/
def readExplicitFont (h : Host m) (quiet : Bool) (path : String) : Work m BitmapFont := do
  let font := Bdf.parse (← readFile h path)
  liftM (info h quiet "font"
    (path ++ " -> " ++ font.name ++ " (" ++ toString font.glyphs.size ++ " glyphs)"))
  return font

/-- Reads the font that the user chose, if there is one, and begins. -/
def startSession (h : Host m) (o : Options) (s : Settings) : Work m (Session m) := do
  let font ← s.explicitFont.mapM (readExplicitFont h o.quiet)
  let sources ← fitting (s.sources h.files h.fetch)
  return ⟨s, sources, font, o.quiet⟩

/-- Draws a frame with the fonts that were found, and reports on them. -/
def drawFrame (h : Host m) (quiet : Bool) (s : Settings) (operations : List Operation)
    (r : Resolution) : m Frame := do
  r.notes.forM (info h quiet "font")
  r.diagnostics.forM (warn h)
  return { s.request operations with fonts := some r.fonts }.render

/-- The frame of a sketch. -/
def previewSource (h : Host m) (session : Session m) (source : String) : m Frame := do
  let settings := session.settings.withHint source
  if let some size := sizeHint? source then
    info h session.quiet "hint"
      ("size " ++ toString size.width.toNat ++ "x" ++ toString size.height.toNat ++
        " from comment")
  let c := compile source settings.size (← h.now)
  info h session.quiet "compile"
    ("ops=" ++ toString c.operations.length ++ " lines=" ++ toString c.statistics.lines ++
      " defines=" ++ toString c.statistics.macros ++ " consts=" ++ toString c.statistics.constants)
  c.diagnostics.forM (warn h)
  let (_, r) ← resolveSource session.sources .empty source session.explicitFont
  drawFrame h session.quiet settings c.operations r

/-- The fonts of the display library that operations select, each one once. -/
def selectedFonts (operations : List Operation) : List String :=
  (operations.filterMap fun op =>
    match op with
    | .setFont name =>
      if Text.startsWith name.toList Font.namePrefix then some name else none
    | _ => none).eraseDups

/-- The frame of a recording. -/
def previewRecording (h : Host m) (session : Session m) (document : String) : Work m Frame := do
  match (Json.parse? document).bind Recording.ofJson? with
  | none => throw (.ofDetail .badConfig "not a recording")
  | some recording =>
    let s := session.settings
    let size := ⟨recording.width.getD s.size.width, recording.height.getD s.size.height⟩
    let (_, r) ← liftM (resolveNames session.sources .empty (selectedFonts recording.operations)
      session.explicitFont)
    liftM (drawFrame h session.quiet { s with size } recording.operations r)

/-- Shows a frame: a line about it, its picture, and a file with the picture if one is asked for. -/
def showFrame (h : Host m) (o : Options) (f : Frame) : Work m Unit := do
  let canvas := f.drawing.canvas
  h.print (f.summary ++ "\n")
  if !o.noPreview then h.print (Terminal.halfBlocks canvas f.scale)
  if let some path := o.out then
    match ← h.files.write path (canvas.zoomed o.zoom.toNat).toPgm with
    | .ok () => return ()
    | .error e => throw (.ofDetail .internalError (path ++ ": " ++ e.message))

/-- Prints what a sketch compiles to. -/
def emitOperations (h : Host m) (s : Settings) (source : String) : m Unit := do
  let c := compile source (s.withHint source).size (← h.now)
  h.print (c.toJson.pretty ++ "\n")

/-- Runs the program with options. -/
def run (h : Host m) (o : Options) : Work m Unit := do
  let settings ← settingsFor h o
  match o.ops, o.file with
  | some path, _ =>
    let session ← startSession h o settings
    showFrame h o (← previewRecording h session (← readFile h path))
  | none, none => throw (.ofDetail .fileNotFound "NO INPUT FILE")
  | none, some path =>
    if o.emitOps then liftM (emitOperations h settings (← readFile h path))
    else
      let session ← startSession h o settings
      showFrame h o (← liftM (previewSource h session (← readFile h path)))

/-- The name and version of the program. -/
def versionText : String := "u8g2-preview 0.1.0"

/-- Runs the program for its arguments and gives its exit code. -/
def execute (h : Host m) (args : List String) : m UInt32 := do
  match Request.parse args with
  | .error e =>
    h.printError ("error: " ++ e.message ++ "\n")
    return 2
  | .ok .version =>
    h.print (versionText ++ "\n")
    return 0
  | .ok (.run o) =>
    match ← (run h o).run with
    | .ok () => return 0
    | .error d =>
      h.printError (Terminal.bold d.message ++ "\n")
      return 1

end SketchPreview.CommandLine
