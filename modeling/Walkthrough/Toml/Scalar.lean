import Walkthrough.Moment.Basic
import Walkthrough.Text.Numeral
import Walkthrough.Toml.Attempt

/-!
# TOML numbers and moments

No setting is a number or a moment, so of these only the form matters: each function here gives
what follows a well-formed one.  Form includes range: a whole number fits in 64 bits with its
sign, a fraction is finite unless it is negative, and the day of a date exists.
-/

namespace Walkthrough.Toml

/-- The digits after the first one of a number, without the single underscores that may stand
between them, and what follows them. -/
def moreDigits (isDigit : Char → Bool) : List Char → Attempt (List Char × List Char)
  | [] => .ok ([], [])
  | c :: s =>
    if isDigit c then (moreDigits isDigit s).map fun r => (c :: r.1, r.2)
    else if c = '_' then
      match s with
      | [] => .fail []
      | d :: s' =>
        if isDigit d then (moreDigits isDigit s').map fun r => (d :: r.1, r.2)
        else .fail (d :: s')
    else .ok ([], c :: s)

/-- Digits, one at least, without the underscores between them, and what follows them. -/
def digits (isDigit : Char → Bool) : List Char → Attempt (List Char × List Char)
  | c :: s =>
    if isDigit c then (moreDigits isDigit s).map fun r => (c :: r.1, r.2)
    else .reject (c :: s)
  | [] => .reject []

/-- Decimal digits without a zero in front of others, and what follows them. -/
def wholePart (s : List Char) : Attempt (List Char × List Char) :=
  match s with
  | '0' :: rest => .ok (['0'], rest)
  | s => digits Text.isDigit s

/-- Whether a list starts with a minus sign, and the list without its sign. -/
def signed (s : List Char) : Bool × List Char :=
  match s with
  | '-' :: rest => (true, rest)
  | '+' :: rest => (false, rest)
  | s => (false, s)

/-- The value of digits in a base. -/
def valueOf (base : Nat) (digits : List Char) : Nat :=
  (Text.digitsInBase? base Text.hexDigit? 0 digits).getD 0

/-- What follows a whole number in decimal digits that fits in 64 bits with its sign. -/
def decimal (s : List Char) : Attempt (List Char) := do
  let (negative, unsigned) := signed s
  let (digits, rest) ← wholePart unsigned
  let n := valueOf 10 digits
  let bound := Nat.pow 2 63
  if n < bound ∨ (negative = true ∧ n = bound) then return rest
  else .fail s

/-- What follows a whole number in another base, the mark of the base taken off `s` already, that
fits in 64 bits with a sign.  A number that does not fit is a fault at `start`. -/
def based (base : Nat) (start s : List Char) : Attempt (List Char) := do
  let isDigit := fun c => (Text.hexDigit? c).any (· < base)
  let (digits, rest) ← (digits isDigit s).commit
  if valueOf base digits < Nat.pow 2 63 then return rest
  else .fail start

/-- What follows a whole number. -/
def integer (s : List Char) : Attempt (List Char) :=
  match s with
  | '0' :: 'x' :: rest => based 16 s rest
  | '0' :: 'o' :: rest => based 8 s rest
  | '0' :: 'b' :: rest => based 2 s rest
  | s => decimal s

/-- The exponent of a fraction with its sign, and what follows it. -/
def exponent (s : List Char) : Attempt ((Bool × List Char) × List Char) :=
  match s with
  | [] => .reject []
  | c :: rest =>
    if c = 'e' ∨ c = 'E' then
      let (negative, rest) := signed rest
      (digits Text.isDigit rest).commit.map fun r => ((negative, r.1), r.2)
    else .reject s

/-- The digits after the point of a fraction, and what follows them. -/
def fraction (s : List Char) : Attempt (List Char × List Char) := do
  (digits Text.isDigit (← expect '.' s)).commit

/-- Whether `n · 10 ^ e` is at least the bound above which numbers round to infinity in 64 bits.
The size of the decimal numeral settles all but the nearest cases. -/
def overflows (n : Nat) (e : Int) : Bool :=
  let size : Int := (toString n).length + e
  if n = 0 ∨ size < 309 then false
  else if 310 < size then true
  else
    let bound := Nat.pow 2 1024 - Nat.pow 2 970
    if 0 ≤ e then bound ≤ n * Nat.pow 10 e.toNat else bound * Nat.pow 10 (-e).toNat ≤ n

/-- What follows a number with a fraction, an exponent or both. -/
def fractional (s : List Char) : Attempt (List Char) := do
  let (negative, unsigned) := signed s
  let (whole, rest) ← wholePart unsigned
  let (point, rest) ← (fraction rest).optional ([], rest)
  let ((negativeExponent, power), rest) ←
    if point.isEmpty then exponent rest
    else (exponent rest).optional ((false, []), rest)
  let size : Int := valueOf 10 power
  let e := (if negativeExponent then -size else size) - point.length
  if negative || !overflows (valueOf 10 (whole ++ point)) e then return rest
  else .fail s

/-- What follows one of the words for infinity and no number, with a sign or without. -/
def special (s : List Char) : Attempt (List Char) :=
  match (signed s).2 with
  | 'i' :: 'n' :: 'f' :: rest => .ok rest
  | 'n' :: 'a' :: 'n' :: rest => .ok rest
  | s => .reject s

/-- A number of exactly `width` digits between two bounds, and what follows it. -/
def part (width least most : Nat) (s : List Char) : Attempt (Nat × List Char) :=
  let digits := s.take width
  let n := valueOf 10 digits
  if digits.length = width ∧ digits.all Text.isDigit = true ∧ least ≤ n ∧ n ≤ most then
    .ok (n, s.drop width)
  else .reject s

/-- What follows the minutes and seconds of a time, the seconds with a fraction or without. -/
def minutesAndSeconds (s : List Char) : Attempt (List Char) := do
  let (_, s) ← part 2 0 59 s
  let s ← expect ':' s
  let (_, s) ← part 2 0 60 s
  match s with
  | '.' :: d :: rest => return if Text.isDigit d then rest.dropWhile Text.isDigit else s
  | s => return s

/-- What follows a time of the day.  Once its hour is read, it can be nothing else. -/
def time (s : List Char) : Attempt (List Char) := do
  let (_, s) ← part 2 0 23 s
  let s ← expect ':' s
  (minutesAndSeconds s).commit

/-- What follows a distance in hours and minutes. -/
def hoursAndMinutes (s : List Char) : Attempt (List Char) := do
  let (_, s) ← part 2 0 23 s
  let s ← expect ':' s
  let (_, s) ← part 2 0 59 s
  return s

/-- What follows a distance from universal time. -/
def offset (s : List Char) : Attempt (List Char) :=
  match s with
  | [] => .reject []
  | c :: rest =>
    if c = 'Z' ∨ c = 'z' then .ok rest
    else if c = '+' ∨ c = '-' then (hoursAndMinutes rest).commit
    else .reject s

/-- What follows the month and the day of a date, a day that exists in the year. -/
def monthAndDay (year : Nat) (s : List Char) : Attempt (List Char) := do
  let (month, s) ← part 2 1 12 s
  let s ← expect '-' s
  let (day, rest) ← part 2 1 31 s
  if day ≤ daysInMonth year month then return rest
  else .reject s

/-- What follows a date.  Once its year is read, it can be nothing else. -/
def date (s : List Char) : Attempt (List Char) := do
  let (year, s) ← part 4 0 9999 s
  let s ← expect '-' s
  (monthAndDay year s).commit

/-- What follows a time that comes after a date, with a distance from universal time or
without. -/
def timeAfterDate (s : List Char) : Attempt (List Char) :=
  match s with
  | [] => .reject []
  | c :: rest =>
    if c = 'T' ∨ c = 't' ∨ c = ' ' then do
      let rest ← time rest
      (offset rest).optional rest
    else .reject s

/-- What follows a date, a time, or a date and a time. -/
def moment (s : List Char) : Attempt (List Char) :=
  Attempt.orElse (do
    let rest ← date s
    (timeAfterDate rest).optional rest) fun _ => time s

/-- What follows a number or a moment. -/
def scalar (s : List Char) : Attempt (List Char) :=
  (moment s).orElse fun _ => (fractional s).orElse fun _ => (special s).orElse fun _ => integer s

end Walkthrough.Toml
