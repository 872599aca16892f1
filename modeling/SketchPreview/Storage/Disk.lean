import SketchPreview.SortedMap
import SketchPreview.Storage.FilePath
import SketchPreview.Storage.FileSystem

/-!
# A disk in memory

A tree of folders, files, links and devices with a working directory. A path is followed step by
step; every folder on the way must exist, and neither a path nor a name in it may be too long. A
file may be closed to reading or to writing, and a write may be refused or break off.

* `Node`, `Disk`, `Disk.node?`: the tree, by places;
* `Disk.walk`, `Disk.locate`, `Disk.entry`: the place that a path names;
* `Disk.read`, `Disk.write`, `Disk.createFolders`, `Disk.files`, `Disk.remove`;
* `Disk.fileSystem`: these operations as a file system.
-/

namespace SketchPreview

/-- What may be done with a file. -/
structure Access where
  read : Bool
  write : Bool
  deriving DecidableEq, Repr, Inhabited

/-- What stands at a place of a disk. A link stands for what its target names, seen from the folder
of the link. A device can be neither read nor written. -/
inductive Node where
  | folder
  | file (bytes : ByteArray) (modified : Int) (access : Access)
  | link (target : String)
  | device

/-- What keeps a write from going through: it is refused, or it breaks off after some bytes. -/
inductive WriteFault where
  | refused (error : FileError)
  | torn (size : Nat) (error : FileError)

/-- A disk. A place is the list of steps that lead to it from the root; `clock` is the moment that
the next file written is given. `fates` tells what becomes of the next writes, one after the other;
those after them go through. -/
structure Disk where
  nodes : SortedMap (List String) Node
  current : List String
  clock : Int
  fates : List (Option WriteFault)

namespace Disk

/-- A disk with nothing but an empty working directory. -/
def empty (clock : Int) : Disk := ⟨.empty, [], clock, []⟩

/-- What stands at a place. The root is a folder. -/
def node? (d : Disk) (place : List String) : Option Node :=
  if place = [] then some .folder else d.nodes.get? place

/-! ## Places -/

/-- The greatest length of a name in bytes. -/
def maxNameSize : Nat := 255

/-- The greatest length of a path in bytes. -/
def maxPathSize : Nat := 4095

/-- The greatest number of links on the way to a place. -/
def maxLinks : Nat := 40

/-- Why a path cannot be followed, whatever stands on the disk. -/
def pathFault? (path : String) : Option FileError :=
  if '\x00' ∈ path.toList then some .nulInName
  else if maxPathSize < path.utf8ByteSize then some .nameTooLong
  else none

/-- The place one step away. A point stays and two points go back. -/
def step (place : List String) (name : String) : Except FileError (List String) :=
  if name = "." then .ok place
  else if name = ".." then .ok place.dropLast
  else if maxNameSize < name.utf8ByteSize then .error .nameTooLong
  else .ok (place ++ [name])

/-- The place at which a path starts, seen from a folder. -/
def start (folder : List String) (path : String) : List String :=
  if FilePath.isAbsolute path then [] else folder

/-- The place to which steps lead. All but the last one must lead to a folder. A link is replaced by
the steps of its target, and `onward` tells where these lead; a link at the end stays as it is
unless `follow` is set. -/
def walkWith (d : Disk) (follow : Bool)
    (onward : List String → List String → Except FileError (List String)) (place : List String) :
    List String → Except FileError (List String)
  | [] => .ok place
  | name :: rest =>
    match step place name with
    | .error e => .error e
    | .ok next =>
      if rest = [] ∧ follow = false then .ok next
      else
        match d.node? next with
        | some (.link target) => onward (start place target) (FilePath.steps target ++ rest)
        | node =>
          if rest = [] then .ok next
          else
            match node with
            | some .folder => d.walkWith follow onward next rest
            | some _ => .error .notDirectory
            | none => .error .notFound

/-- The place to which steps lead over so many links at most. -/
def walk (d : Disk) (follow : Bool) :
    Nat → List String → List String → Except FileError (List String)
  | 0 => d.walkWith follow fun _ _ => .error .tooManyLinks
  | n + 1 => d.walkWith follow (d.walk follow n)

/-- The place at which a path starts. -/
def origin (d : Disk) (path : String) : List String := start d.current path

/-- The place that a path names, with or without following a link at its end. -/
def find (d : Disk) (follow : Bool) (path : String) : Except FileError (List String) :=
  match pathFault? path with
  | some e => .error e
  | none =>
    if path = "" then .error .notFound
    else d.walk follow maxLinks (d.origin path) (FilePath.steps path)

/-- The place that a path names, whether anything stands there or not. -/
def locate (d : Disk) (path : String) : Except FileError (List String) := d.find true path

/-- The place that a path names, be it that of a link. -/
def entry (d : Disk) (path : String) : Except FileError (List String) := d.find false path

/-! ## Files -/

/-- The bytes of a file. -/
def read (d : Disk) (path : String) : Except FileError ByteArray := do
  match d.node? (← d.locate path) with
  | none => .error .notFound
  | some .folder => .error .isDirectory
  | some (.file bytes _ access) =>
    if FilePath.namesFolder path then .error .notDirectory
    else if access.read then .ok bytes else .error .denied
  | some (.link _) => .error .tooManyLinks
  | some .device => .error .noSuchDevice

/-- Puts a node in a place. -/
def put (d : Disk) (place : List String) (node : Node) : Disk :=
  { d with nodes := d.nodes.insert place node }

/-- What may be done with the file at a place, now or once there is one. -/
def access (d : Disk) (place : List String) : Access :=
  match d.node? place with
  | some (.file _ _ access) => access
  | _ => ⟨true, true⟩

/-- Puts a file in a place, as the latest one. -/
def putFile (d : Disk) (place : List String) (bytes : ByteArray) : Disk :=
  { d.put place (.file bytes d.clock (d.access place)) with clock := d.clock + 1 }

/-- The place of a file that can be written, over an older one. -/
def target (d : Disk) (path : String) : Except FileError (List String) := do
  let place ← d.locate path
  if FilePath.namesFolder path then .error .isDirectory
  else
    match d.node? place with
    | none => .ok place
    | some .folder => .error .isDirectory
    | some (.file _ _ access) => if access.write then .ok place else .error .denied
    | some (.link _) => .error .tooManyLinks
    | some .device => .error .noSuchDevice

/-- The disk with the fate of one write behind it. -/
def nextWrite (d : Disk) : Disk := { d with fates := d.fates.tail }

/-- Writes a file. A write that breaks off leaves the bytes written so far. -/
def write (d : Disk) (path : String) (bytes : ByteArray) : Except FileError Unit × Disk :=
  match d.target path with
  | .error e => (.error e, d)
  | .ok place =>
    match d.fates.head?.join with
    | none => (.ok (), d.nextWrite.putFile place bytes)
    | some (.refused e) => (.error e, d.nextWrite)
    | some (.torn size e) => (.error e, d.nextWrite.putFile place (bytes.extract 0 size))

/-- The plain files of a folder, in order of their names. -/
def files (d : Disk) (path : String) : Except FileError (List StoredFile) := do
  let place ← d.locate path
  match d.node? place with
  | none => .error .notFound
  | some .folder =>
    .ok (d.nodes.entries.filterMap fun e =>
      match e with
      | (p, .file bytes modified _) =>
        if p.dropLast = place then
          some ⟨FilePath.join path (p.getLastD ""), bytes.size.toUInt64, modified⟩
        else none
      | _ => none)
  | some _ => .error .notDirectory

/-- Removes a file. A link goes itself, and not what it stands for. -/
def remove (d : Disk) (path : String) : Except FileError Unit × Disk :=
  match d.entry path with
  | .error e => (.error e, d)
  | .ok place =>
    match d.node? place with
    | none => (.error .notFound, d)
    | some .folder => (.error .isDirectory, d)
    | some _ => (.ok (), { d with nodes := d.nodes.erase place })

/-! ## Folders -/

/-- Whether steps lead to a folder. -/
def leadsToFolder (d : Disk) (place steps : List String) : Bool :=
  match d.walk true maxLinks place steps with
  | .ok p =>
    match d.node? p with
    | some .folder => true
    | _ => false
  | .error _ => false

/-- Creates the folder to which steps lead. -/
def createFolder (d : Disk) (place steps : List String) : Except FileError Disk := do
  let p ← d.walk false maxLinks place steps
  match d.node? p with
  | none => .ok (d.put p .folder)
  | some _ => .error .alreadyExists

/-- Takes a folder that could not be created for good if it is there. -/
def settle (d : Disk) (place steps : List String) :
    Except FileError Disk → Except FileError Unit × Disk
  | .ok d' => (.ok (), d')
  | .error e => if d.leadsToFolder place steps then (.ok (), d) else (.error e, d)

/-- Creates the folder to which the first of some lists of steps leads. If the way to it is missing,
the folder of the next list is created first. -/
def createAlong (d : Disk) (place : List String) :
    List (List String) → Except FileError Unit × Disk
  | [] => (.ok (), d)
  | steps :: above =>
    match d.createFolder place steps with
    | .error .notFound =>
      match d.createAlong place above with
      | (.ok (), d') => d'.settle place steps (d'.createFolder place steps)
      | failed => failed
    | result => d.settle place steps result

/-- Creates a folder and those above it, as far as they are missing. -/
def createFolders (d : Disk) (path : String) : Except FileError Unit × Disk :=
  match pathFault? path with
  | some e => (.error e, d)
  | none =>
    if path = "" then (.ok (), d)
    else d.createAlong (d.origin path) (FilePath.steps path :: FilePath.parents path)

/-! ## The file system -/

variable {m : Type → Type} [Monad m] [MonadStateOf Disk m]

/-- Asks the disk in the state something. -/
def ask {α : Type} (f : Disk → α) : m α := return f (← get)

/-- The disk in the state as a file system. -/
def fileSystem : FileSystem m where
  read path := ask (·.read path)
  write path bytes := modifyGet (·.write path bytes)
  createFolders path := modifyGet (·.createFolders path)
  files path := ask (·.files path)
  remove path := modifyGet (·.remove path)

end Disk

end SketchPreview
