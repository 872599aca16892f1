import SketchPreview.Font.Repository
import SketchPreview.Moment
import SketchPreview.Storage.FileSystem

/-!
# The surroundings of the program

What the program needs besides its arguments, as a record of operations, so that it runs in a
terminal as well as in a test.

* `Host`.
-/

namespace SketchPreview

/-- Files, network, variables, clock and the two outputs. -/
structure Host (m : Type → Type) where
  files : FileSystem m
  fetch : String → m Reply
  environment : String → m (Option String)
  now : m Moment
  print : String → m Unit
  printError : String → m Unit

end SketchPreview
