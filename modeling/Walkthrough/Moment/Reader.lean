import Walkthrough.Moment.Zone
import Walkthrough.Text.Blank
import Walkthrough.Text.Numeral

/-!
# Reading moments

Moments are read in three forms.  The strict form is that of RFC 3339.  The relaxed form, in
which recorded answers are read back, also takes numbers with fewer digits, signed years, blanks
between the parts and the word UTC.  A plain date, year, month and day between hyphens, is what a
player may type, for the start of that day in the zone of the machine.
-/

namespace Walkthrough

/-- A reader takes something off the front of a list of characters. -/
abbrev CharReader := StateT (List Char) Option

namespace CharReader

/-- Takes one given character. -/
def char (c : Char) : CharReader Unit := fun s =>
  match s with
  | d :: rest => if d = c then some ((), rest) else none
  | [] => none

/-- Takes one character that satisfies `p`. -/
def charThat (p : Char → Bool) : CharReader Char := fun s =>
  match s with
  | c :: rest => if p c then some (c, rest) else none
  | [] => none

/-- Skips the characters that satisfy `p`. -/
def skip (p : Char → Bool) : CharReader Unit := fun s => some ((), s.dropWhile p)

/-- Takes decimal digits, at least `least` and at most `most` of them. -/
def number (least most : Nat) : CharReader Nat := fun s =>
  let digits := (s.take most).takeWhile Text.isDigit
  if digits.length < least then none
  else (Text.natural? digits).map fun n => (n, s.drop digits.length)

/-- Takes decimal digits, one at least and any number of them. -/
def numeral : CharReader Nat := fun s => number 1 s.length s

/-- Takes everything: the reader's value if nothing is left. -/
def whole {α : Type} (r : CharReader α) (s : String) : Option α :=
  match r s.toList with
  | some (a, []) => some a
  | _ => none

end CharReader

open CharReader

/-- The fraction of a second after a point, in nanoseconds.  Digits after the ninth are dropped. -/
def fractionOfSecond : CharReader Nat := fun s =>
  match s with
  | '.' :: rest =>
    let digits := rest.takeWhile Text.isDigit
    if digits.isEmpty then none
    else (Text.natural? ((digits ++ List.replicate 9 '0').take 9)).map fun n =>
      (n, rest.dropWhile Text.isDigit)
  | s => some (0, s)

/-- The sign of a distance from universal time; the mathematical minus sign counts as a hyphen. -/
def offsetSign : CharReader Int := fun s =>
  match s with
  | c :: rest =>
    if c = '+' then some (1, rest)
    else if c = '-' ∨ c.toNat = 0x2212 then some (-1, rest)
    else none
  | [] => none

/-- The distance from universal time in seconds: the letter Z, or a sign, two digits for the
hours, what `between` takes, and two digits for the minutes. -/
def offsetFrom (between : CharReader Unit) : CharReader Int := fun s =>
  match s with
  | 'Z' :: rest => some (0, rest)
  | 'z' :: rest => some (0, rest)
  | s => StateT.run (do
      let sign ← offsetSign
      let hours ← number 2 2
      between
      let minutes ← number 2 2
      guard (minutes < 60)
      return sign * (3600 * hours + 60 * minutes)) s

/-- The mark between a date and a time. -/
def isTimeMark (c : Char) : Bool := c == 'T' || c == 't' || c == ' '

/-- A moment in the form of RFC 3339. -/
def strictMoment : CharReader Moment := do
  let year ← number 4 4
  char '-'
  let month ← number 2 2
  char '-'
  let day ← number 2 2
  let _ ← charThat isTimeMark
  let hour ← number 2 2
  char ':'
  let minute ← number 2 2
  char ':'
  let second ← number 2 2
  let nano ← fractionOfSecond
  let offset ← offsetFrom (char ':')
  let date ← Date.of? year month day
  Moment.of? date hour minute second nano offset

/-- A year after blanks, in four digits at most or with a sign and any number of digits. -/
def looseYear : CharReader Int := fun s =>
  match s.dropWhile Text.isBlank with
  | '+' :: rest => (numeral rest).map fun r => ((r.1 : Int), r.2)
  | '-' :: rest => (numeral rest).map fun r => (-(r.1 : Int), r.2)
  | s => (number 1 4 s).map fun r => ((r.1 : Int), r.2)

/-- A number of one or two digits after blanks. -/
def looseNumber : CharReader Nat := do
  skip Text.isBlank
  number 1 2

/-- The distance from universal time in the relaxed form. -/
def looseOffset : CharReader Int := fun s =>
  match s with
  | u :: t :: c :: rest =>
    if u.toUpper = 'U' ∧ t.toUpper = 'T' ∧ c.toUpper = 'C' then some (0, rest)
    else offsetFrom (skip fun c => c == ':' || Text.isBlank c) s
  | s => offsetFrom (skip fun c => c == ':' || Text.isBlank c) s

/-- A moment in the relaxed form. -/
def looseMoment : CharReader Moment := do
  let year ← looseYear
  skip Text.isBlank
  char '-'
  let month ← looseNumber
  skip Text.isBlank
  char '-'
  let day ← looseNumber
  let _ ← charThat isTimeMark
  let hour ← looseNumber
  skip Text.isBlank
  char ':'
  let minute ← looseNumber
  skip Text.isBlank
  char ':'
  let second ← looseNumber
  let nano ← fractionOfSecond
  skip Text.isBlank
  let offset ← looseOffset
  skip Text.isBlank
  let date ← Date.of? year month day
  Moment.of? date hour minute second nano offset

/-- A plain date. -/
def plainDate : CharReader Date := do
  let year ← looseYear
  char '-'
  let month ← looseNumber
  char '-'
  let day ← looseNumber
  Date.of? year month day

/-- The moment that a text writes in the strict form. -/
def Moment.ofStrict? (s : String) : Option Moment := strictMoment.whole s

/-- The moment that a text writes in the relaxed form. -/
def Moment.ofRelaxed? (s : String) : Option Moment := looseMoment.whole s

/-- The date that a text writes. -/
def Date.ofPlain? (s : String) : Option Date := plainDate.whole s

/-- The moment that a player in a zone types: one in the strict form, or a plain date, which stands
for the moment at which that day starts there. -/
def Moment.ofTyped? (zone : Zone) (s : String) : Option Moment :=
  (Moment.ofStrict? s).or ((Date.ofPlain? s).bind zone.midnight?)

end Walkthrough
