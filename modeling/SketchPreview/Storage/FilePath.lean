import SketchPreview.Text.Line

/-!
# File paths

A path names the steps from a directory to a file, with a stroke between them. A path that begins
with a stroke starts at the root.

* `FilePath.join`: a path below another one;
* `FilePath.steps`, `FilePath.isAbsolute`, `FilePath.namesFolder`;
* `FilePath.parents`: the folders above the end of a path.
-/

namespace SketchPreview.FilePath

/-- Whether a path starts at the root. -/
def isAbsolute (path : String) : Bool := path.toList.head? == some '/'

/-- Whether a path can only name a folder, because it ends in a stroke. -/
def namesFolder (path : String) : Bool := path.toList.getLast? == some '/'

/-- The steps of a path. -/
def steps (path : String) : List String :=
  ((Text.pieces '/' path.toList).filter (· ≠ [])).map String.ofList

/-- The steps of a path without those that stay where they are. A relative path may begin with
one. -/
def components (path : String) : List String :=
  match steps path with
  | [] => []
  | first :: rest =>
    (if first = "." ∧ isAbsolute path then [] else [first]) ++ rest.filter (· ≠ ".")

/-- The steps to the folders above the end of a path, those to the nearest one first. -/
def parents (path : String) : List (List String) :=
  let above := (components path).dropLast
  (List.range above.length).reverse.map fun n => above.take (n + 1)

/-- The path of a file below a folder. An absolute path stays as it is. -/
def join (folder file : String) : String :=
  if isAbsolute file || folder = "" then file
  else if namesFolder folder then folder ++ file
  else folder ++ "/" ++ file

end SketchPreview.FilePath
