import Walkthrough.Json.Basic
import Walkthrough.Text.Cut
import Walkthrough.Text.Numeral

/-!
# Reading JSON

A reader takes a value off the front of a list of characters and leaves the rest.  Values nest,
and the readers of values, elements and members call each other, so they carry a number that
bounds the depth of their calls; the length of the text is always enough.
-/

namespace Walkthrough.Json

/-- The characters that may stand between the parts of a value. -/
def isSpace (c : Char) : Bool := c == ' ' || c == '\t' || c == '\n' || c == '\r'

/-- The code unit that four hexadecimal digits write, and what follows them. -/
def codeUnit? : List Char → Option (Nat × List Char)
  | a :: b :: c :: d :: s =>
    (Text.digitsInBase? 16 Text.hexDigit? 0 [a, b, c, d]).map fun n => (n, s)
  | _ => none

/-- The character that an escape writes after its letter u, and what follows it.  A character
beyond the sixteen-bit range takes two code units. -/
def unicodeEscape? (s : List Char) : Option (Char × List Char) :=
  match codeUnit? s with
  | some (high, rest) =>
    if 0xD800 ≤ high ∧ high < 0xDC00 then
      match rest with
      | '\\' :: 'u' :: rest =>
        match codeUnit? rest with
        | some (low, rest) =>
          if 0xDC00 ≤ low ∧ low < 0xE000 then
            some (Char.ofNat (0x10000 + (high - 0xD800) * 0x400 + (low - 0xDC00)), rest)
          else none
        | none => none
      | _ => none
    -- the second code unit of a pair stands for nothing by itself
    else if 0xDC00 ≤ high ∧ high < 0xE000 then none
    else some (Char.ofNat high, rest)
  | none => none

/-- The character that an escape of one letter writes. -/
def simpleEscape? (c : Char) : Option Char :=
  match c with
  | '"' => some '"'
  | '\\' => some '\\'
  | '/' => some '/'
  | 'b' => some (Char.ofNat 0x8)
  | 'f' => some (Char.ofNat 0xC)
  | 'n' => some '\n'
  | 'r' => some '\r'
  | 't' => some '\t'
  | _ => none

theorem length_of_codeUnit? {s : List Char} {r : Nat × List Char} (h : codeUnit? s = some r) :
    r.2.length < s.length := by
  unfold codeUnit? at h
  split at h
  · obtain ⟨n, _, rfl⟩ := Option.map_eq_some_iff.1 h
    simp only [List.length_cons]
    omega
  · simp at h

theorem length_of_unicodeEscape? {s : List Char} {r : Char × List Char}
    (h : unicodeEscape? s = some r) : r.2.length < s.length := by
  unfold unicodeEscape? at h
  split at h
  · next hu =>
    have h₁ := length_of_codeUnit? hu
    split at h
    · split at h
      · split at h
        · next hl =>
          have h₂ := length_of_codeUnit? hl
          split at h
          · simp only [Option.some.injEq] at h
            subst h
            simp only [List.length_cons] at *
            omega
          · simp at h
        · simp at h
      · simp at h
    · split at h
      · simp at h
      · simp only [Option.some.injEq] at h
        subst h
        exact h₁
  · simp at h

/-- The characters of a text up to its closing quote, and what follows that. -/
def stringRest? (s : List Char) : Option (List Char × List Char) :=
  match s with
  | [] => none
  | c :: s =>
    if c = '"' then some ([], s)
    else if c = '\\' then
      match s with
      | [] => none
      | e :: s =>
        if e = 'u' then
          match _ : unicodeEscape? s with
          | some (u, rest) => (stringRest? rest).map fun r => (u :: r.1, r.2)
          | none => none
        else
          match simpleEscape? e with
          | some u => (stringRest? s).map fun r => (u :: r.1, r.2)
          | none => none
    else if c.toNat < 0x20 then none
    else (stringRest? s).map fun r => (c :: r.1, r.2)
termination_by s.length
decreasing_by
  · have := length_of_unicodeEscape? ‹_›
    simp only [List.length_cons] at *
    omega
  · simp only [List.length_cons]
    omega
  · simp only [List.length_cons]
    omega

/-- Decimal digits, one at least, and what follows them. -/
def digits? (s : List Char) : Option (List Char × List Char) :=
  let digits := s.takeWhile Text.isDigit
  if digits.isEmpty then none else some (digits, s.dropWhile Text.isDigit)

/-- The whole part of a number, which has no leading zeros, and what follows it. -/
def wholePart? (s : List Char) : Option (List Char × List Char) :=
  match s with
  | '0' :: rest => some (['0'], rest)
  | s => digits? s

/-- The fraction of a number, which may be missing, and what follows it. -/
def fractionPart? (s : List Char) : Option (List Char × List Char) :=
  match s with
  | '.' :: rest => (digits? rest).map fun r => ('.' :: r.1, r.2)
  | s => some ([], s)

/-- The exponent of a number, which may be missing, and what follows it. -/
def exponentPart? (s : List Char) : Option (List Char × List Char) :=
  match s with
  | [] => some ([], [])
  | e :: rest =>
    if e = 'e' ∨ e = 'E' then
      match rest with
      | [] => none
      | sign :: rest' =>
        if sign = '+' ∨ sign = '-' then (digits? rest').map fun r => (e :: sign :: r.1, r.2)
        else (digits? rest).map fun r => (e :: r.1, r.2)
    else some ([], s)

/-- The literal of a number and what follows it. -/
def number? (s : List Char) : Option (List Char × List Char) := do
  let (sign, s) :=
    match s with
    | '-' :: rest => (['-'], rest)
    | s => ([], s)
  let (whole, s) ← wholePart? s
  let (fraction, s) ← fractionPart? s
  let (exponent, s) ← exponentPart? s
  return (sign ++ whole ++ fraction ++ exponent, s)

mutual

/-- The value at the front of a list, and what follows it. -/
def value? (fuel : Nat) (s : List Char) : Option (Json × List Char) :=
  match fuel with
  | 0 => none
  | fuel + 1 =>
    match s.dropWhile isSpace with
    | [] => none
    | c :: s =>
      if c = '"' then (stringRest? s).map fun r => (string (String.ofList r.1), r.2)
      else if c = '[' then
        match s.dropWhile isSpace with
        | ']' :: rest => some (array [], rest)
        | _ => (elements? fuel s).map fun r => (array r.1, r.2)
      else if c = '\x7b' then
        match s.dropWhile isSpace with
        | '\x7d' :: rest => some (object [], rest)
        | _ => (members? fuel s).map fun r => (object r.1, r.2)
      else if c = 'n' then (Text.dropFront? "ull".toList s).map fun rest => (null, rest)
      else if c = 't' then (Text.dropFront? "rue".toList s).map fun rest => (bool true, rest)
      else if c = 'f' then (Text.dropFront? "alse".toList s).map fun rest => (bool false, rest)
      else (number? (c :: s)).map fun r => (number (String.ofList r.1), r.2)

/-- The elements of an array up to its closing bracket, one at least, and what follows. -/
def elements? (fuel : Nat) (s : List Char) : Option (List Json × List Char) :=
  match fuel with
  | 0 => none
  | fuel + 1 =>
    match value? fuel s with
    | none => none
    | some (e, s) =>
      match s.dropWhile isSpace with
      | ',' :: s => (elements? fuel s).map fun r => (e :: r.1, r.2)
      | ']' :: s => some ([e], s)
      | _ => none

/-- The members of an object up to its closing brace, one at least, and what follows. -/
def members? (fuel : Nat) (s : List Char) : Option (List (String × Json) × List Char) :=
  match fuel with
  | 0 => none
  | fuel + 1 =>
    match s.dropWhile isSpace with
    | '"' :: s =>
      match stringRest? s with
      | none => none
      | some (key, s) =>
        match s.dropWhile isSpace with
        | ':' :: s =>
          match value? fuel s with
          | none => none
          | some (v, s) =>
            match s.dropWhile isSpace with
            | ',' :: s => (members? fuel s).map fun r => ((String.ofList key, v) :: r.1, r.2)
            | '\x7d' :: s => some ([(String.ofList key, v)], s)
            | _ => none
        | _ => none
    | _ => none

end

/-- The value that a text writes. -/
def ofText? (text : String) : Option Json :=
  match value? (text.length + 1) text.toList with
  | some (j, rest) => if rest.all isSpace then some j else none
  | none => none

end Walkthrough.Json
