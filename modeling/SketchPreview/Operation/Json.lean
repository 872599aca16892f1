import SketchPreview.Json.Decode
import SketchPreview.Operation

/-!
# Operations as JSON

An operation is an object whose field `op` holds its tag; the other fields are its arguments. When
it is read, the tag may stand anywhere; so the object is read in full before any field is used.

* `Operation.tag`: the name of an operation in JSON;
* `Operation.toJson`, `Operation.ofJson?`.
-/

namespace SketchPreview.Operation

open Json (Fields)

/-- The name of an operation in JSON. -/
def tag : Operation → String
  | setDrawColor _ => "setDrawColor"
  | drawPixel .. => "drawPixel"
  | drawLine .. => "drawLine"
  | drawBox .. => "drawBox"
  | drawFrame .. => "drawFrame"
  | drawCircle .. => "drawCircle"
  | drawDisc .. => "drawDisc"
  | drawStr .. => "drawStr"
  | setFont _ => "setFont"
  | setCursor .. => "setCursor"
  | print _ => "print"
  | println _ => "println"
  | gfxVLine .. => "gfxVLine"
  | gfxHLine .. => "gfxHLine"
  | gfxRect .. => "gfxRect"
  | gfxFillRect .. => "gfxFillRect"
  | gfxLine .. => "gfxLine"

/-- A coordinate. -/
def coordinate (n : Int32) : Json := .int n.toInt

/-- The fields of a place. -/
def placeFields (x y : Int32) : Fields := [("x", coordinate x), ("y", coordinate y)]

/-- The fields of a rectangle. -/
def rectFields (x y w h : Int32) : Fields :=
  [("x", coordinate x), ("y", coordinate y), ("w", coordinate w), ("h", coordinate h)]

/-- The fields of a segment. -/
def segmentFields (x0 y0 x1 y1 : Int32) : Fields :=
  [("x0", coordinate x0), ("y0", coordinate y0), ("x1", coordinate x1), ("y1", coordinate y1)]

/-- The fields of an operation besides its tag. -/
def arguments : Operation → Fields
  | setDrawColor c => [("c", coordinate c)]
  | drawPixel x y => placeFields x y
  | drawLine x0 y0 x1 y1 => segmentFields x0 y0 x1 y1
  | drawBox x y w h => rectFields x y w h
  | drawFrame x y w h => rectFields x y w h
  | drawCircle x y r => placeFields x y ++ [("r", coordinate r)]
  | drawDisc x y r => placeFields x y ++ [("r", coordinate r)]
  | drawStr x y text => placeFields x y ++ [("text", .str text)]
  | setFont name => [("name", .str name)]
  | setCursor x y => placeFields x y
  | print text => [("text", .str text)]
  | println text => [("text", .str text)]
  | gfxVLine x y h => placeFields x y ++ [("h", coordinate h)]
  | gfxHLine x y w => placeFields x y ++ [("w", coordinate w)]
  | gfxRect x y w h => rectFields x y w h
  | gfxFillRect x y w h => rectFields x y w h
  | gfxLine x0 y0 x1 y1 => segmentFields x0 y0 x1 y1

/-- An operation as a JSON object, its tag first. -/
def toJson (op : Operation) : Json := .obj (("op", .str op.tag) :: op.arguments)

/-- A coordinate among fields. -/
def coordinateOf? (fields : Fields) (key : String) : Option Int32 :=
  fields.required key Json.toInt32?

/-- A string among fields. -/
def stringOf? (fields : Fields) (key : String) : Option String :=
  fields.required key Json.toString?

/-- The operation made of the place among fields. -/
def withPlace? {α : Type} (fields : Fields) (f : Int32 → Int32 → α) : Option α :=
  f <$> coordinateOf? fields "x" <*> coordinateOf? fields "y"

/-- The operation made of the rectangle among fields. -/
def withRect? (fields : Fields) (f : Int32 → Int32 → Int32 → Int32 → Operation) :
    Option Operation :=
  withPlace? fields f <*> coordinateOf? fields "w" <*> coordinateOf? fields "h"

/-- The operation made of the segment among fields. -/
def withSegment? (fields : Fields) (f : Int32 → Int32 → Int32 → Int32 → Operation) :
    Option Operation :=
  f <$> coordinateOf? fields "x0" <*> coordinateOf? fields "y0" <*> coordinateOf? fields "x1" <*>
    coordinateOf? fields "y1"

/-- The operation with a tag and fields. -/
def ofFields? (fields : Fields) : String → Option Operation
  | "setDrawColor" => setDrawColor <$> coordinateOf? fields "c"
  | "drawPixel" => withPlace? fields drawPixel
  | "drawLine" => withSegment? fields drawLine
  | "drawBox" => withRect? fields drawBox
  | "drawFrame" => withRect? fields drawFrame
  | "drawCircle" => withPlace? fields drawCircle <*> coordinateOf? fields "r"
  | "drawDisc" => withPlace? fields drawDisc <*> coordinateOf? fields "r"
  | "drawStr" => withPlace? fields drawStr <*> stringOf? fields "text"
  | "setFont" => setFont <$> stringOf? fields "name"
  | "setCursor" => withPlace? fields setCursor
  | "print" => print <$> stringOf? fields "text"
  | "println" => println <$> stringOf? fields "text"
  | "gfxVLine" => withPlace? fields gfxVLine <*> coordinateOf? fields "h"
  | "gfxHLine" => withPlace? fields gfxHLine <*> coordinateOf? fields "w"
  | "gfxRect" => withRect? fields gfxRect
  | "gfxFillRect" => withRect? fields gfxFillRect
  | "gfxLine" => withSegment? fields gfxLine
  | _ => none

/-- The levels of a document that an operation may take up. It stands in a list of an object. -/
def maxLevels : Nat := Json.maxLevels - 2

/-- The operation that a JSON object describes. -/
def ofJson? (v : Json) : Option Operation := do
  guard (v.isReadable maxLevels)
  let fields ← v.toFields?
  let tag ← stringOf? fields "op"
  ofFields? fields tag

end SketchPreview.Operation
