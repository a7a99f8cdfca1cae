import Storyboard.Number.Decimal

namespace Storyboard

/-!
# Instants and clocks

An instant is a date and a time of day.  Snapshot ids hold it down to the
microsecond, timestamps down to the second.  Nanoseconds beyond a full second
mean that the instant lies in a leap second.  A clock is the sequence of the
readings that it will give.
-/

/-- A date and a time of day. -/
structure Instant where
  year : Int
  month : Nat
  day : Nat
  hour : Nat
  minute : Nat
  second : Nat
  nanosecond : Nat
deriving Repr, DecidableEq

/-- The successive readings of a clock, counted from zero. -/
abbrev Clock := Nat → Instant

namespace Instant

/-- A number with zeros in front up to a least width. -/
def padded (width number : Nat) : String :=
  .ofList (Number.paddedDigits width number)

/--
A year of at least four digits.

A sign stands before every year that is not written with four digits alone.
-/
def yearText (year : Int) : String :=
  if 0 ≤ year ∧ year ≤ 9999 then
    padded 4 year.natAbs
  else if 0 ≤ year then
    "+" ++ padded 4 year.natAbs
  else
    "-" ++ padded 4 year.natAbs

/--
The second that is shown, which for a leap second is the one after the last.
-/
def shownSecond (instant : Instant) : Nat :=
  instant.second + instant.nanosecond / Number.tenTo 9

/-- The full microseconds of the second that is shown. -/
def microsecond (instant : Instant) : Nat :=
  instant.nanosecond % Number.tenTo 9 / 1000

/-- The time of day down to the second. -/
def timeText (instant : Instant) : String :=
  padded 2 instant.hour ++ ":" ++ padded 2 instant.minute ++ ":" ++
    padded 2 instant.shownSecond

/--
The form inside ids, which sorts by time; the microseconds are cut, not rounded.
-/
def idText (instant : Instant) : String :=
  yearText instant.year ++ "-" ++ padded 2 instant.month ++ "-" ++
    padded 2 instant.day ++
    "T" ++ instant.timeText ++ "." ++ padded 6 instant.microsecond

/-- The form in front of log lines. -/
def logText (instant : Instant) : String :=
  yearText instant.year ++ "-" ++ padded 2 instant.month ++ "-" ++
    padded 2 instant.day ++
    "T" ++ instant.timeText ++ "Z"

/-- The form for readers: day, month, year and the time of day. -/
def timestamp (instant : Instant) : String :=
  padded 2 instant.day ++ "-" ++ padded 2 instant.month ++ "-" ++
    yearText instant.year ++
    " " ++ instant.timeText

end Instant

end Storyboard
