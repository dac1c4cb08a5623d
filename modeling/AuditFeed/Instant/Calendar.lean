import AuditFeed.Instant.Basic

/-!
# The calendar

Days and dates of the proleptic Gregorian calendar, with a year zero and negative years.

A date is found from a day by estimating the year from the mean length of one and correcting the
estimate by a comparison, so both directions rest on the one count `daysBeforeYear`.
-/

namespace AuditFeed.Calendar

/-- Is this a leap year? -/
def isLeap (year : Int) : Bool :=
  year % 4 == 0 && (year % 100 != 0 || year % 400 == 0)

/-- The lengths of the months of a year. -/
def monthLengths (leap : Bool) : List Nat :=
  [31, if leap then 29 else 28, 31, 30, 31, 30, 31, 31, 30, 31, 30, 31]

/-- Days from the first day of the year 0 to the first day of a year. -/
def daysBeforeYear (year : Int) : Int :=
  365 * year + (year + 3) / 4 - (year + 99) / 100 + (year + 399) / 400

/-- Days of a year before its `month`, counted from 1. -/
def daysBeforeMonth (leap : Bool) (month : Nat) : Nat :=
  ((monthLengths leap).take (month - 1)).foldl (· + ·) 0

/-- The days before 1970-01-01, counted from the first day of the year 0. -/
def epochDay : Int := 719528

/-- A day of the calendar. -/
structure Date where
  /-- The year, with a year zero. -/
  year : Int
  /-- The month, from 1. -/
  month : Nat
  /-- The day of the month, from 1. -/
  day : Nat
deriving DecidableEq

namespace Date

/-- Does the calendar have this date? -/
def isValid (d : Date) : Bool :=
  1 ≤ d.month && d.month ≤ 12 && 1 ≤ d.day &&
    d.day ≤ ((monthLengths (isLeap d.year))[d.month - 1]?).getD 0

/-- Days from the epoch to a date. -/
def toDays (d : Date) : Int :=
  daysBeforeYear d.year + daysBeforeMonth (isLeap d.year) d.month + (d.day - 1) - epochDay

/-- The month and the day of the month of a day of the year, counted from 0. -/
def monthAndDay (month : Nat) : List Nat → Nat → Nat × Nat
  | [], day => (month, day + 1)
  | n :: rest, day => if day < n then (month, day + 1) else monthAndDay (month + 1) rest (day - n)

/-- The year in which a day falls, counted from the first day of the year 0. -/
def yearOf (day : Int) : Int :=
  let guess := day * 400 / 146097
  if day < daysBeforeYear guess then guess - 1
  else if daysBeforeYear (guess + 1) ≤ day then guess + 1
  else guess

/-- The date a number of days after the epoch. -/
def ofDays (days : Int) : Date :=
  let day := days + epochDay
  let year := yearOf day
  let (month, dayOfMonth) :=
    monthAndDay 1 (monthLengths (isLeap year)) (day - daysBeforeYear year).toNat
  ⟨year, month, dayOfMonth⟩

end Date

/-- The day of the week of a day counted from the epoch, 0 for Monday. -/
def weekday (days : Int) : Nat :=
  ((days + 3) % 7).toNat

/-- A reading of a calendar and a clock. -/
structure Civil where
  /-- The day. -/
  date : Date
  /-- The hour of the day. -/
  hour : Nat
  /-- The minute of the hour. -/
  minute : Nat
  /-- The second of the minute, 60 in a leap second. -/
  second : Nat
  /-- The nanosecond of the second. -/
  nanos : Nat
deriving DecidableEq

end AuditFeed.Calendar

namespace AuditFeed.Instant

open Calendar

/-- What calendar and clock show at an instant in UTC. -/
def civil (t : Instant) : Civil :=
  let ofDay := (t.seconds % 86400).toNat
  let extra := if 1000000000 ≤ t.nanos then 1 else 0
  { date := Date.ofDays (t.seconds / 86400)
    hour := ofDay / 3600
    minute := ofDay / 60 % 60
    second := ofDay % 60 + extra
    nanos := t.nanos % 1000000000 }

/-- The instant at which calendar and clock, `offset` seconds ahead of UTC, show this reading.
Second 60 is a leap second at the end of any minute. Both the reading itself and the instant have to
be in range. -/
def ofCivil? (c : Civil) (offset : Int) : Option Instant := do
  guard (c.date.isValid && c.hour < 24 && c.minute < 60 && c.second ≤ 60 && c.nanos < 1000000000)
  let second := min c.second 59
  let nanos := c.nanos + if c.second = 60 then 1000000000 else 0
  let shown := c.date.toDays * 86400 + (c.hour * 3600 + c.minute * 60 + second : Nat)
  discard (ofSeconds? shown)
  ofParts? (shown - offset) nanos

end AuditFeed.Instant
