/-!
# Canvas size

`Dimensions` is the size of the simulated display in display pixels, before it is enlarged.
-/

namespace SketchPreview

/-- The size of a display in its own pixels. -/
structure Dimensions where
  width : UInt32
  height : UInt32
  deriving DecidableEq, Repr, Inhabited

/-- The size of a display when nothing else is said. -/
def Dimensions.standard : Dimensions := ⟨128, 64⟩

end SketchPreview
