import Walkthrough.Moment.Basic

/-!
# Writing moments

Moments are written in the form of RFC 3339, in three variants that differ in how much of the
second they keep and in how they write universal time, and as a stamp in the names of exported
files.  A year of more or fewer than four digits takes a sign.
-/

namespace Walkthrough

/-- The decimal digits of a number, with zeros in front up to a width. -/
def padded (width n : Nat) : String :=
  let digits := toString n
  String.ofList (List.replicate (width - digits.length) '0') ++ digits

/-- A year in four digits, or in as many as it needs and with a sign. -/
def yearText (year : Int) : String :=
  if 0 ≤ year ∧ year ≤ 9999 then padded 4 year.toNat
  else (if year < 0 then "-" else "+") ++ padded 4 year.natAbs

/-- A date as year, month and day. -/
def Date.text (date : Date) : String :=
  yearText date.year ++ "-" ++ padded 2 date.month ++ "-" ++ padded 2 date.day

namespace Moment

/-- The fraction of the second, in three, six or nine digits, whichever is the least number that
is exact; nothing for a whole second. -/
def fractionText (nano : Nat) : String :=
  if nano = 0 then ""
  else if nano % 1000000 = 0 then "." ++ padded 3 (nano / 1000000)
  else if nano % 1000 = 0 then "." ++ padded 6 (nano / 1000)
  else "." ++ padded 9 nano

/-- The distance from universal time to the nearest minute, in hours and minutes with a sign. -/
def offsetText (offset : Int) : String :=
  let minutes := (offset.natAbs + 30) / 60
  (if offset < 0 then "-" else "+") ++ padded 2 (minutes / 60) ++ ":" ++ padded 2 (minutes % 60)

/-- The day and the time without the fraction of the second. -/
def clockText (m : Moment) : String :=
  m.date.text ++ "T" ++ padded 2 m.hour ++ ":" ++ padded 2 m.minute ++ ":" ++ padded 2 m.second

/-- The moment with its fraction of a second, and universal time in digits. -/
def exactText (m : Moment) : String :=
  m.clockText ++ fractionText m.nano ++ offsetText m.offset

/-- The moment in whole seconds, and universal time in digits. -/
def secondsText (m : Moment) : String := m.clockText ++ offsetText m.offset

/-- The moment with its fraction of a second, and universal time as the letter Z. -/
def recordText (m : Moment) : String :=
  m.clockText ++ fractionText m.nano ++ (if m.offset = 0 then "Z" else offsetText m.offset)

/-- The moment in whole seconds, without a colon and without the distance from universal time. -/
def stamp (m : Moment) : String :=
  m.date.text ++ "T" ++ padded 2 m.hour ++ "-" ++ padded 2 m.minute ++ "-" ++ padded 2 m.second

end Moment

end Walkthrough
