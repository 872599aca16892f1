/-!
# Call names

`Verb` is a drawing call that the scan of a sketch recognises, and `Verb.name` the way it is
spelled there.
-/

namespace SketchPreview.Call

/-- The drawing calls of a sketch. A scan reports these calls and no other, so there is no call of
an unknown name and no report of one. -/
inductive Verb where
  | setDrawColor
  | drawPixel
  | drawLine
  | drawBox
  | drawFrame
  | drawCircle
  | drawDisc
  | drawStr
  | setFont
  | setCursor
  | print
  | println
  | drawFastVLine
  | drawFastHLine
  | drawRect
  | fillRect
  deriving DecidableEq, Repr, Inhabited

/-- The spelling of a call. -/
def Verb.name : Verb → String
  | setDrawColor => "setDrawColor"
  | drawPixel => "drawPixel"
  | drawLine => "drawLine"
  | drawBox => "drawBox"
  | drawFrame => "drawFrame"
  | drawCircle => "drawCircle"
  | drawDisc => "drawDisc"
  | drawStr => "drawStr"
  | setFont => "setFont"
  | setCursor => "setCursor"
  | print => "print"
  | println => "println"
  | drawFastVLine => "drawFastVLine"
  | drawFastHLine => "drawFastHLine"
  | drawRect => "drawRect"
  | fillRect => "fillRect"

/-- Every call. -/
def Verb.all : List Verb :=
  [setDrawColor, drawPixel, drawLine, drawBox, drawFrame, drawCircle, drawDisc, drawStr, setFont,
    setCursor, print, println, drawFastVLine, drawFastHLine, drawRect, fillRect]

theorem Verb.mem_all (v : Verb) : v ∈ all := by cases v <;> decide

end SketchPreview.Call
