import SketchPreview.Compile
import SketchPreview.Operation.Json

/-!
# The result of compiling as JSON

`Compilation.toJson` lists the operations, the statistics and the messages of the diagnostics.
-/

namespace SketchPreview

/-- Statistics as JSON. -/
def Statistics.toJson (s : Statistics) : Json :=
  .obj [("lines", .nat s.lines), ("defines", .nat s.macros), ("consts", .nat s.constants)]

/-- The result of compiling as JSON. -/
def Compilation.toJson (c : Compilation) : Json :=
  .obj [("ops", .list Operation.toJson c.operations), ("stats", c.statistics.toJson),
    ("errors", .list (fun d => .str d.message) c.diagnostics)]

end SketchPreview
