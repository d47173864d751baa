/-!
# Dates and moments

A date node holds a moment: a day of the calendar, a time of that day and the distance of the
clock that showed it from universal time.  Both types carry the proof that they name a real one,
so that every moment can be written, and read again.
-/

namespace Walkthrough

/-- Whether a year of the Gregorian calendar has a 29th of February. -/
def isLeapYear (year : Int) : Bool :=
  year % 4 == 0 && (year % 100 != 0 || year % 400 == 0)

/-- The number of days in a month of a year. -/
def daysInMonth (year : Int) (month : Nat) : Nat :=
  if month = 2 then (if isLeapYear year then 29 else 28)
  else if month = 4 ∨ month = 6 ∨ month = 9 ∨ month = 11 then 30
  else 31

/-- The years that dates reach. -/
def InCalendar (year : Int) : Prop := -262143 ≤ year ∧ year ≤ 262142

instance (year : Int) : Decidable (InCalendar year) :=
  inferInstanceAs (Decidable (_ ∧ _))

/-- A day of the Gregorian calendar. -/
structure Date where
  year : Int
  month : Nat
  day : Nat
  year_mem : InCalendar year
  month_mem : 1 ≤ month ∧ month ≤ 12
  day_mem : 1 ≤ day ∧ day ≤ daysInMonth year month
  deriving DecidableEq, Repr

/-- The day with these numbers, if there is one. -/
def Date.of? (year : Int) (month day : Nat) : Option Date :=
  if h : InCalendar year ∧ (1 ≤ month ∧ month ≤ 12) ∧
      1 ≤ day ∧ day ≤ daysInMonth year month then
    some ⟨year, month, day, h.1, h.2.1, h.2.2⟩
  else none

/-- The year at universal time when a clock that is `offset` seconds ahead shows this day and this
time of it.  A leap second belongs to the second before. -/
def Date.universalYear (date : Date) (hour minute second : Nat) (offset : Int) : Int :=
  let seconds : Int := 3600 * hour + 60 * minute + min second 59 - offset
  if seconds < 0 ∧ date.month = 1 ∧ date.day = 1 then date.year - 1
  else if 86400 ≤ seconds ∧ date.month = 12 ∧ date.day = 31 then date.year + 1
  else date.year

/-- A moment as a clock shows it that is `offset` seconds ahead of universal time.  The second 60
is a leap second. -/
structure Moment where
  date : Date
  hour : Nat
  minute : Nat
  second : Nat
  nano : Nat
  offset : Int
  hour_lt : hour < 24
  minute_lt : minute < 60
  second_le : second ≤ 60
  nano_lt : nano < 1000000000
  offset_mem : -86400 < offset ∧ offset < 86400
  universal_mem : InCalendar (date.universalYear hour minute second offset)
  deriving DecidableEq, Repr

/-- The moment of a day with these numbers, if there is one. -/
def Moment.of? (date : Date) (hour minute second nano : Nat) (offset : Int) : Option Moment :=
  if h : hour < 24 ∧ minute < 60 ∧ second ≤ 60 ∧ nano < 1000000000 ∧
      (-86400 < offset ∧ offset < 86400) ∧
      InCalendar (date.universalYear hour minute second offset) then
    some ⟨date, hour, minute, second, nano, offset, h.1, h.2.1, h.2.2.1, h.2.2.2.1, h.2.2.2.2.1,
      h.2.2.2.2.2⟩
  else none

/-- The start of a day at universal time. -/
def Date.midnight (date : Date) : Moment where
  date := date
  hour := 0
  minute := 0
  second := 0
  nano := 0
  offset := 0
  hour_lt := by decide
  minute_lt := by decide
  second_le := by decide
  nano_lt := by decide
  offset_mem := by decide
  universal_mem := by simpa [Date.universalYear] using date.year_mem

end Walkthrough
