import SketchPreview.Text.Line
import SketchPreview.Url.Percent

/-!
# Paths of addresses

A path is a row of segments, a stroke in front of each. A segment of one point is left out and one
of two points takes back the segment before it; either may be written with encoded points.

* `isSingleDot`, `isDoubleDot`, `namesDrive`, `namesDriveFirst`: segments that mean something;
* `resolveDots`: the segments that are left;
* `pathSegments`, `fileSegments`: the path that a text writes;
* `pathText`: a path as it stands in an address.
-/

namespace SketchPreview.Url

/-- Whether a segment is one point. -/
def isSingleDot (s : List Char) : Bool := s.map Char.toLower ∈ [['.'], "%2e".toList]

/-- Whether a segment is two points. -/
def isDoubleDot (s : List Char) : Bool :=
  s.map Char.toLower ∈ ["..".toList, ".%2e".toList, "%2e.".toList, "%2e%2e".toList]

/-- Whether a segment is a letter with a colon or bar, which names a drive. -/
def namesDrive : List Char → Bool
  | [letter, mark] => letter.isAlpha && (mark == ':' || mark == '|')
  | _ => false

/-- Whether a segment names a drive, with or without a backslash behind it. -/
def namesDriveFirst (s : List Char) : Bool :=
  namesDrive (s.take 2) && (s.drop 2).head?.all (· == '\\')

/-- Takes back the last segment, unless it begins with the name of a drive. -/
def dropSegment (done : List (List Char)) : List (List Char) :=
  if (done.getLast?).any namesDriveFirst then done else done.dropLast

/-- Appends segments to those that are done. Segments of points at the end leave an empty one. -/
def resolveDots (done : List (List Char)) : List (List Char) → List (List Char)
  | [] => done
  | s :: rest =>
    let next :=
      if isDoubleDot s then dropSegment done
      else if isSingleDot s then done
      else done ++ [s]
    if rest.isEmpty && (isDoubleDot s || isSingleDot s) then next ++ [[]]
    else resolveDots next rest

/-- The encoded segments of a text, cut at its strokes. -/
def rawSegments (s : List Char) : List (List Char) :=
  (Text.pieces '/' s).map (percentEncode isUnsafeInPath)

/-- The segments of the path that a text writes behind the stroke at its root. -/
def pathSegments (s : List Char) : List (List Char) := resolveDots [] (rawSegments s)

/-- Whether the path that a text writes begins with a drive. -/
def beginsWithDrive (s : List Char) : Bool := ((pathSegments s).head?).any namesDrive

/-- Puts a colon behind the letter of a drive at the front. -/
def normalizeDrive : List (List Char) → List (List Char)
  | [letter, mark] :: rest => [letter, if mark = '|' then ':' else mark] :: rest
  | segments => segments

/-- The segments of the path of a file. No empty one stands in front. -/
def fileSegments (s : List Char) : List (List Char) :=
  let segments := if beginsWithDrive s then normalizeDrive (pathSegments s) else pathSegments s
  let rest := segments.dropWhile (·.isEmpty)
  if rest.isEmpty then [[]] else rest

/-- A path as it stands in an address. -/
def pathText (segments : List (List Char)) : List Char := segments.flatMap ('/' :: ·)

end SketchPreview.Url
