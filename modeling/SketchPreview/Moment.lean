/-!
# Moments

The time of day and the date that a sketch may print. A moment is given, never read from the host,
so the same sketch at the same moment gives the same picture.

* `Moment`, `Moment.timeText`, `Moment.dateText`.
-/

namespace SketchPreview

/-- A moment of the proleptic Gregorian calendar. -/
structure Moment where
  year : Int
  month : Nat
  day : Nat
  hour : Nat
  minute : Nat
  second : Nat
  deriving DecidableEq, Repr, Inhabited

/-- A number in at least `width` digits. -/
def padded (width n : Nat) : String :=
  let digits := toString n
  String.ofList (List.replicate (width - digits.length) '0') ++ digits

/-- A year in at least four digits. Outside the years 0 to 9999 it carries a sign. -/
def yearText (year : Int) : String :=
  let digits := padded 4 year.natAbs
  if year < 0 then "-" ++ digits else if 9999 < year then "+" ++ digits else digits

/-- Hours and minutes. -/
def Moment.timeText (m : Moment) : String := padded 2 m.hour ++ ":" ++ padded 2 m.minute

/-- Year, month and day. -/
def Moment.dateText (m : Moment) : String :=
  yearText m.year ++ "-" ++ padded 2 m.month ++ "-" ++ padded 2 m.day

example : (Moment.mk 2024 3 7 9 5 0).timeText = "09:05" := by decide +kernel

example : (Moment.mk (-1) 3 7 9 5 0).dateText = "-0001-03-07" := by decide +kernel

end SketchPreview
