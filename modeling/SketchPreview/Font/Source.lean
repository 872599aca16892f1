import SketchPreview.Diagnostic
import SketchPreview.Font.Repository
import SketchPreview.Storage.FilePath
import SketchPreview.Storage.Trim

/-!
# Places to look for fonts

A font source gives out the text of font files by their names.

* `FontSource`: a source with its label;
* `directorySource`: the files of a folder;
* `remoteSource`: the files of a repository, of which a copy is kept in a folder.
-/

namespace SketchPreview

/-- Somewhere the text of font files comes from. `load` tells that there is no such file by
`none`. -/
structure FontSource (m : Type → Type) where
  label : String
  load : String → m (Except Diagnostic (Option String))

/-- A font file that could not be had. -/
def fetchFailure (subject reason : String) : Diagnostic :=
  .ofDetail .fontFetch (subject ++ ": " ++ reason)

variable {m : Type → Type} [Monad m]

/-- The font files of a folder. -/
def directorySource (fs : FileSystem m) (folder : String) : FontSource m where
  label := "cache"
  load file := do
    match ← fs.readText (FilePath.join folder file) with
    | .ok text => return .ok (some text)
    | .error .notFound => return .ok none
    | .error e => return .error (fetchFailure file e.message)

/-- A repository with the folder that keeps copies, and the limit of that folder in bytes. -/
structure Repository where
  base : String
  folder : String
  limit : UInt64
  deriving DecidableEq, Repr

/-- The bytes in so many binary megabytes. -/
def bytesOfMegabytes (n : UInt64) : Except Overflow UInt64 :=
  match Checked.mul n 1024 with
  | .ok kilobytes => Checked.mul kilobytes 1024
  | .error o => .error o

/-- An address without the strokes at its end. -/
def trimStrokes (url : String) : String :=
  String.ofList (url.toList.reverse.dropWhile (· = '/')).reverse

namespace Repository

/-- A repository at an address, with a folder and its limit. There is none for a limit whose bytes
do not fit into a word. -/
def of (url folder : String) (limitMegabytes : UInt64) : Except Overflow Repository :=
  (bytesOfMegabytes limitMegabytes).map (⟨trimStrokes url, folder, ·⟩)

/-- The address of a file. -/
def url (r : Repository) (file : String) : String := r.base ++ "/" ++ file

/-- Keeps a copy of a file and then trims the folder. -/
def store [MonadExceptOf Overflow m] (r : Repository) (fs : FileSystem m) (file text : String) :
    m (Except FileError Unit) := do
  match ← fs.createFolders r.folder with
  | .error e => return .error e
  | .ok () =>
    match ← fs.write (FilePath.join r.folder file) text.toUTF8 with
    | .error e => return .error e
    | .ok () => fs.trim r.folder r.limit

/-- Asks the repository for a file. -/
def request (r : Repository) (fetch : String → m Reply) (file : String) :
    m (Except String (Option String)) := do
  match requestFor (r.url file) with
  | .error reason => return .error reason
  | .ok address => return (← fetch address).text? address

/-- Gets a file from the repository. A copy is kept before the file is used. -/
def load [MonadExceptOf Overflow m] (r : Repository) (fs : FileSystem m)
    (fetch : String → m Reply) (file : String) : m (Except Diagnostic (Option String)) := do
  match ← r.request fetch file with
  | .error reason => return .error (fetchFailure (r.url file) reason)
  | .ok none => return .ok none
  | .ok (some text) =>
    if isBdf text then
      match ← r.store fs file text with
      | .ok () => return .ok (some text)
      | .error e => return .error (fetchFailure file e.message)
    else return .error (fetchFailure (r.url file) "NOT A BDF FILE")

end Repository

/-- The font files of a repository. -/
def remoteSource [MonadExceptOf Overflow m] (fs : FileSystem m) (fetch : String → m Reply)
    (r : Repository) : FontSource m where
  label := "fetch"
  load := r.load fs fetch

end SketchPreview
