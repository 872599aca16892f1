import SketchPreview.Storage.FileError

/-!
# File systems

What the program asks of the place where files are kept. The operations are given as a record, so
that the same code works on the files of a computer and on a disk in memory.

* `StoredFile`: what a listing tells of a file;
* `FileSystem`: the operations;
* `FileSystem.readText`: a file as text.
-/

namespace SketchPreview

/-- A plain file in a listing: its path, its size in bytes and the moment of its last change. -/
structure StoredFile where
  path : String
  size : UInt64
  modified : Int
  deriving DecidableEq, Repr, Inhabited

/-- Operations on files. `files` lists the plain files of a folder. -/
structure FileSystem (m : Type → Type) where
  read : String → m (Except FileError ByteArray)
  write : String → ByteArray → m (Except FileError Unit)
  createFolders : String → m (Except FileError Unit)
  files : String → m (Except FileError (List StoredFile))
  remove : String → m (Except FileError Unit)

/-- Bytes as text. -/
def decodeText (bytes : ByteArray) : Except FileError String :=
  match String.fromUTF8? bytes with
  | some text => .ok text
  | none => .error .notText

/-- A file as text. -/
def FileSystem.readText {m : Type → Type} [Monad m] (fs : FileSystem m) (path : String) :
    m (Except FileError String) :=
  return (← fs.read path) >>= decodeText

end SketchPreview
