import SketchPreview.Checked
import SketchPreview.Storage.FileSystem

/-!
# Keeping a folder small

A folder of files that can be fetched again is kept under a limit: the files that were changed the
longest time ago go first. Sizes are counted in words of 64 bits.

* `StoredFile.precedes`: the order in which files go;
* `totalFrom`: the size of files together;
* `FileSystem.trim`: removes files until the rest fits.
-/

namespace SketchPreview

/-- Whether a file goes before another one: by moment, then by size, then by path. -/
def StoredFile.precedes (a b : StoredFile) : Bool :=
  if a.modified ≠ b.modified then a.modified < b.modified
  else if a.size ≠ b.size then a.size < b.size
  else a.path ≤ b.path

/-- The size of files, added to a total. -/
def totalFrom (total : UInt64) : List StoredFile → Except Overflow UInt64
  | [] => .ok total
  | f :: rest =>
    match Checked.add total f.size with
    | .ok total => totalFrom total rest
    | .error o => .error o

namespace FileSystem

variable {m : Type → Type} [Monad m] [MonadExceptOf Overflow m]

/-- Removes files one after the other, until what is left of a total is within a limit or a file
cannot be removed. -/
def removeUntil (fs : FileSystem m) (limit total : UInt64) :
    List StoredFile → m (Except FileError Unit)
  | [] => return .ok ()
  | f :: rest => do
    match ← fs.remove f.path with
    | .error e => return .error e
    | .ok () =>
      let left ← fitting (Checked.sub total f.size)
      if left ≤ limit then return .ok () else fs.removeUntil limit left rest

/-- Removes the oldest of some files until the rest is within a limit. -/
def trimFiles (fs : FileSystem m) (limit : UInt64) (files : List StoredFile) :
    m (Except FileError Unit) := do
  let total ← fitting (totalFrom 0 files)
  if total ≤ limit then return .ok ()
  else fs.removeUntil limit total (files.mergeSort StoredFile.precedes)

/-- Removes the oldest files of a folder until the rest is within a limit. -/
def trim (fs : FileSystem m) (folder : String) (limit : UInt64) : m (Except FileError Unit) := do
  match ← fs.files folder with
  | .error e => return .error e
  | .ok files => fs.trimFiles limit files

end FileSystem

end SketchPreview
