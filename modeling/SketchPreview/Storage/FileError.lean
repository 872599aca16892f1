/-!
# Failures of file operations

* `FileError`: why an operation on files failed;
* `FileError.message`: the reason in the words of the operating system.
-/

namespace SketchPreview

/-- Why an operation on files failed. -/
inductive FileError where
  | notFound
  | noSuchDevice
  | denied
  | alreadyExists
  | notDirectory
  | isDirectory
  | nameTooLong
  | tooManyLinks
  | nulInName
  | notText
  | other (text : String)
  deriving DecidableEq, Repr, Inhabited

/-- The words of a failure. -/
def FileError.message : FileError → String
  | notFound => "No such file or directory (os error 2)"
  | noSuchDevice => "No such device or address (os error 6)"
  | denied => "Permission denied (os error 13)"
  | alreadyExists => "File exists (os error 17)"
  | notDirectory => "Not a directory (os error 20)"
  | isDirectory => "Is a directory (os error 21)"
  | nameTooLong => "File name too long (os error 36)"
  | tooManyLinks => "Too many levels of symbolic links (os error 40)"
  | nulInName => "file name contained an unexpected NUL byte"
  | notText => "stream did not contain valid UTF-8"
  | other text => text

end SketchPreview
