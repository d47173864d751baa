import Walkthrough.Moment.Basic

/-!
# The clock

A clock counts seconds since the start of the year 1970, without leap seconds.  The calendar
repeats itself after 400 years.  Within these, a count of days is turned into a date most easily
when years start in March, so that the day that is left out in most years is the last one.
-/

namespace Walkthrough

/-- The days of 400 years. -/
def daysOfCycle : Int := 146097

/-- The days of 400 years before a year of them. -/
def daysBeforeYear (year : Nat) : Nat := 365 * year + year / 4 - year / 100

/-- The days of a year before a month, which is counted from March. -/
def daysBeforeMonth (month : Nat) : Nat := (153 * month + 2) / 5

/-- The days from the first of March in the year zero to the first of January in 1970. -/
def daysBeforeClock : Int := 719468

/-- The date that is a number of days after the first of January in 1970. -/
def Date.ofDays? (days : Int) : Option Date :=
  let fromMarch := days + daysBeforeClock
  let cycle := Int.fdiv fromMarch daysOfCycle
  let day := (fromMarch - cycle * daysOfCycle).toNat
  let year := (day - day / 1460 + day / 36524 - day / 146096) / 365
  let dayOfYear := day - daysBeforeYear year
  let month := (5 * dayOfYear + 2) / 153
  let dayOfMonth := dayOfYear - daysBeforeMonth month + 1
  let january := if month < 10 then 0 else 1
  Date.of? (cycle * 400 + year + january) (if month < 10 then month + 3 else month - 9) dayOfMonth

/-- The year of a date, if years start in March. -/
def Date.marchYear (date : Date) : Int :=
  if date.month ≤ 2 then date.year - 1 else date.year

/-- The month of a date, counted from March. -/
def Date.marchMonth (date : Date) : Nat :=
  if date.month ≤ 2 then date.month + 9 else date.month - 3

/-- The number of days from the first of January in 1970 to a date. -/
def Date.days (date : Date) : Int :=
  let cycle := Int.fdiv date.marchYear 400
  let year := (date.marchYear - cycle * 400).toNat
  let dayOfYear := daysBeforeMonth date.marchMonth + (date.day - 1)
  cycle * daysOfCycle + daysBeforeYear year + dayOfYear - daysBeforeClock

/-- The moment that a clock shows which is `offset` seconds ahead of universal time, a number of
seconds and nanoseconds after the start of 1970. -/
def Moment.ofClock? (offset seconds : Int) (nano : Nat) : Option Moment := do
  let shown := seconds + offset
  let days := Int.fdiv shown 86400
  let ofDay := (shown - days * 86400).toNat
  Moment.of? (← Date.ofDays? days) (ofDay / 3600) (ofDay / 60 % 60) (ofDay % 60) nano offset

end Walkthrough
