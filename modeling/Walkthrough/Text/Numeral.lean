/-!
# Numerals

Two kinds of numeral are read from names and answers.  A *count* is a whole number that fits in
64 bits, written in decimal digits after an optional plus sign; it numbers options and sets
thresholds.  A *decimal numeral* is what a numerical answer must be; only its form matters, for
the answer is kept as text.
-/

namespace Walkthrough.Text

/-- The value of a decimal digit. -/
def digit? (c : Char) : Option Nat :=
  if '0' ≤ c ∧ c ≤ '9' then some (c.toNat - '0'.toNat) else none

/-- Whether a character is a decimal digit. -/
def isDigit (c : Char) : Bool := (digit? c).isSome

/-- The value of a hexadecimal digit. -/
def hexDigit? (c : Char) : Option Nat :=
  if '0' ≤ c ∧ c ≤ '9' then some (c.toNat - '0'.toNat)
  else if 'a' ≤ c ∧ c ≤ 'f' then some (c.toNat - 'a'.toNat + 10)
  else if 'A' ≤ c ∧ c ≤ 'F' then some (c.toNat - 'A'.toNat + 10)
  else none

/-- The number that digits of a base write, with `n` standing for the digits already read. -/
def digitsInBase? (base : Nat) (digit? : Char → Option Nat) (n : Nat) : List Char → Option Nat
  | [] => some n
  | c :: s => (digit? c).bind fun d => digitsInBase? base digit? (base * n + d) s

/-- The number that decimal digits write, with `n` standing for the digits already read. -/
def digitsFrom? (n : Nat) (s : List Char) : Option Nat := digitsInBase? 10 digit? n s

/-- The number written by a non-empty list of decimal digits. -/
def natural? : List Char → Option Nat
  | [] => none
  | s => digitsFrom? 0 s

/-- One more than the greatest count. -/
def countBound : Nat := Nat.pow 2 64

/-- The natural number of a list, if it is small enough to be a count. -/
def boundedCount? (s : List Char) : Option Nat :=
  (natural? s).filter (· < countBound)

/-- The count that a text writes: decimal digits after an optional plus sign. -/
def count? (s : String) : Option Nat :=
  match s.toList with
  | '+' :: digits => boundedCount? digits
  | digits => boundedCount? digits

/-- A list without an optional sign at its front. -/
def dropSign : List Char → List Char
  | '+' :: s => s
  | '-' :: s => s
  | s => s

/-- Whether a list is empty or an exponent: the letter e, an optional sign and digits. -/
def isExponentPart : List Char → Bool
  | [] => true
  | c :: s =>
    let digits := dropSign s
    (c == 'e' || c == 'E') && !digits.isEmpty && digits.all isDigit

/-- Whether a list is digits with at most one point among them, at least one digit, and an
optional exponent. -/
def isScientific (s : List Char) : Bool :=
  let whole := s.takeWhile isDigit
  match s.dropWhile isDigit with
  | '.' :: rest =>
    let fraction := rest.takeWhile isDigit
    !(whole.isEmpty && fraction.isEmpty) && isExponentPart (rest.dropWhile isDigit)
  | rest => !whole.isEmpty && isExponentPart rest

/-- Whether a text is a decimal numeral: a signed number in positional or scientific notation,
or one of the words for infinity and for no number, in any letter case. -/
def isDecimal (s : String) : Bool :=
  let body := dropSign s.toList
  let word := String.ofList (body.map Char.toLower)
  word == "inf" || word == "infinity" || word == "nan" || isScientific body

end Walkthrough.Text
