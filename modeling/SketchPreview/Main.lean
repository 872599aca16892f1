import SketchPreview.CommandLine.Run
import Std.Time

/-!
# The program in a terminal

The surroundings of the program are the files, variables and outputs of the process. There is no
network, so fonts come from the folder of fonts alone. An overflow ends the process.

* `terminalHost`: these surroundings;
* `main`.
-/

namespace SketchPreview.Terminal

/-- What the process does, unless an overflow ends it. -/
abbrev Work := ExceptT Overflow IO

/-- A failure in the words of the operating system, with its number. -/
def systemFailure (text : String) (code : UInt32) : FileError :=
  .other (text ++ " (os error " ++ toString code.toNat ++ ")")

/-- Why an operation on files failed. -/
def fileErrorOf : IO.Error → FileError
  | .noFileOrDirectory .. => .notFound
  | .alreadyExists .. => .alreadyExists
  | .inappropriateType _ code text =>
    if code = 20 then .notDirectory
    else if code = 21 then .isDirectory
    else systemFailure text code
  | .permissionDenied _ code text => if code = 13 then .denied else systemFailure text code
  | .invalidArgument _ code text => systemFailure text code
  | .resourceExhausted _ code text => systemFailure text code
  | .noSuchThing _ code text => systemFailure text code
  | .resourceBusy code text => systemFailure text code
  | .otherError code text => systemFailure text code
  | e => .other (toString e)

/-- The outcome of an operation on files. -/
def attempt {α : Type} (act : IO α) : Work (Except FileError α) := do
  match ← act.toBaseIO with
  | .ok a => return .ok a
  | .error e => return .error (fileErrorOf e)

/-- A moment in nanoseconds. -/
def nanoseconds (t : IO.FS.SystemTime) : Int := t.sec * 1000000000 + t.nsec.toNat

/-- The plain files of a folder. -/
def listFiles (folder : String) : IO (List StoredFile) := do
  let entries ← (← IO.FS.realPath folder).readDir
  let files ← entries.toList.filterMapM fun entry => do
    let data ← entry.path.symlinkMetadata
    match data.type with
    | .file =>
      return some ⟨FilePath.join folder entry.fileName, data.byteSize, nanoseconds data.modified⟩
    | _ => return none
  return files

/-- The files of the process. -/
def systemFiles : FileSystem Work where
  read path := attempt (IO.FS.readBinFile path)
  write path bytes := attempt (IO.FS.writeBinFile path bytes)
  createFolders path := attempt (IO.FS.createDirAll path)
  files folder := attempt (listFiles folder)
  remove path := attempt (IO.FS.removeFile path)

/-- The present moment. -/
def currentMoment : IO Moment := do
  let t ← Std.Time.PlainDateTime.now
  return ⟨t.year.toInt, t.month.toNat, t.day.toNat, t.hour.toNat, t.minute.toNat, t.second.toNat⟩

/-- Writes text to a stream at once. -/
def writeTo (stream : BaseIO IO.FS.Stream) (text : String) : IO Unit := do
  (← stream).putStr text
  (← stream).flush

/-- The surroundings of the process. -/
def terminalHost : Host Work where
  files := systemFiles
  fetch _ := return .unreachable
  environment name := IO.getEnv name
  now := currentMoment
  print text := writeTo IO.getStdout text
  printError text := writeTo IO.getStderr text

/-- The exit code of a process that an overflow ended. -/
def overflowCode : UInt32 := 101

end SketchPreview.Terminal

open SketchPreview

/-- Runs the program for the arguments of the process. -/
def main (args : List String) : IO UInt32 := do
  match ← (CommandLine.execute Terminal.terminalHost args).run with
  | .ok code => return code
  | .error o =>
    Terminal.writeTo IO.getStderr (o.message ++ "\n")
    return Terminal.overflowCode
