import ComponentDocs.Text.Basic

/-!
# Dates and moments

Dates of the proleptic Gregorian calendar from the year 1 to the year 9999, and moments: a date with
a time of day, read to the microsecond, and possibly the distance of the local clock from universal
time. The constructors check the ranges, so every value of the types exists in the calendar.
-/

set_option autoImplicit false

namespace ComponentDocs

/-- Whether a year has a 29th of February. -/
def isLeapYear (year : Nat) : Bool :=
  year % 4 == 0 && (year % 100 != 0 || year % 400 == 0)

/-- The number of days of a month. -/
def daysInMonth (year month : Nat) : Nat :=
  if month = 2 then (if isLeapYear year then 29 else 28)
  else if month = 4 ∨ month = 6 ∨ month = 9 ∨ month = 11 then 30
  else 31

/-- A day of the calendar. -/
structure Date where
  year : Nat
  month : Nat
  day : Nat
  year_range : 1 ≤ year ∧ year ≤ 9999
  month_range : 1 ≤ month ∧ month ≤ 12
  day_range : 1 ≤ day ∧ day ≤ daysInMonth year month
deriving DecidableEq

/-- A time of day on a given date, with the distance of the local clock from universal time in
minutes, less than a day either way, if it is known. -/
structure Moment where
  date : Date
  hour : Nat
  minute : Nat
  second : Nat
  microsecond : Nat
  offset : Option Int
  time_range : hour < 24 ∧ minute < 60 ∧ second < 60 ∧ microsecond < 1000000
  offset_range : ∀ m ∈ offset, -1440 < m ∧ m < 1440
deriving DecidableEq

namespace Date

/-- The date of a year, a month and a day, if the calendar has it. -/
def of? (year month day : Nat) : Option Date :=
  if h : (1 ≤ year ∧ year ≤ 9999) ∧ (1 ≤ month ∧ month ≤ 12) ∧
      1 ≤ day ∧ day ≤ daysInMonth year month then
    some ⟨year, month, day, h.1, h.2.1, h.2.2⟩
  else none

/-- The days of the years before the given one. -/
def daysBeforeYear (year : Nat) : Nat :=
  let y := year - 1
  y * 365 + y / 4 - y / 100 + y / 400

/-- The days of the first months of a year, of as many as the second argument says. -/
def daysOfMonths (year : Nat) : Nat → Nat
  | 0 => 0
  | m + 1 => daysOfMonths year m + daysInMonth year (m + 1)

/-- The number of days from the first day of the calendar. -/
def ordinal (d : Date) : Nat :=
  daysBeforeYear d.year + daysOfMonths d.year (d.month - 1) + d.day

/-- Year, month and day joined by hyphens. -/
def iso (d : Date) : Text :=
  Text.ofNatPadded 4 d.year ++ "-" ++ Text.ofNatPadded 2 d.month ++ "-" ++ Text.ofNatPadded 2 d.day

end Date

namespace Moment

/-- The moment of a date and a time of day, if the time and the offset are in range. -/
def of? (date : Date) (hour minute second microsecond : Nat) (offset : Option Int) : Option Moment :=
  if h : (hour < 24 ∧ minute < 60 ∧ second < 60 ∧ microsecond < 1000000) ∧
      ∀ m ∈ offset, -1440 < m ∧ m < 1440 then
    some ⟨date, hour, minute, second, microsecond, offset, h.1, h.2⟩
  else none

/-- The distance from universal time: a sign, two digits of hours and two of minutes. -/
def isoOffset (minutes : Int) : Text :=
  (if minutes < 0 then "-" else "+") ++ Text.ofNatPadded 2 (minutes.natAbs / 60) ++ ":" ++
    Text.ofNatPadded 2 (minutes.natAbs % 60)

/-- Date and time of day around a separator, microseconds only when there are some. -/
def isoLocal (separator : CodePoint) (m : Moment) : Text :=
  m.date.iso ++ separator :: Text.ofNatPadded 2 m.hour ++ ":" ++ Text.ofNatPadded 2 m.minute ++
    ":" ++ Text.ofNatPadded 2 m.second ++
    (if m.microsecond = 0 then [] else "." ++ Text.ofNatPadded 6 m.microsecond : Text)

/-- Date, time of day, and the offset if it is known. -/
def iso (separator : CodePoint) (m : Moment) : Text :=
  m.isoLocal separator ++
    match m.offset with
    | none => []
    | some minutes => isoOffset minutes

/-- The number of microseconds from the beginning of the calendar on the local clock. -/
def localMicroseconds (m : Moment) : Int :=
  (((m.date.ordinal * 24 + m.hour) * 60 + m.minute) * 60 + m.second : Nat) * 1000000 + m.microsecond

/-- Whether two moments are the same instant; a moment without offset equals only such moments. -/
def same (a b : Moment) : Bool :=
  match a.offset, b.offset with
  | none, none => a.localMicroseconds == b.localMicroseconds
  | some x, some y =>
      a.localMicroseconds - x * 60000000 == b.localMicroseconds - y * 60000000
  | _, _ => false

end Moment

end ComponentDocs
