import Walkthrough.Markup.Error
import Walkthrough.Text.Numeral

/-!
# References to characters

Character data and attribute values write the five characters that have a meaning in mark-up, and
any other character if one likes, as references between an ampersand and a semicolon.  `unescape`
replaces every reference by its character or says what is wrong with the first that has none;
`escape` writes the five characters as references.
-/

namespace Walkthrough.Markup

/-- The number of bytes that a list of characters takes. -/
def byteLength (s : List Char) : Nat := s.foldr (fun c n => c.utf8Size + n) 0

/-- The first byte of a character, as the character of that number. -/
def firstByte (c : Char) : Char :=
  let n := c.toNat
  if n < 0x80 then c
  else if n < 0x800 then Char.ofNat (0xC0 + n / 0x40)
  else if n < 0x10000 then Char.ofNat (0xE0 + n / 0x1000)
  else Char.ofNat (0xF0 + n / 0x40000)

/-- The names that stand for a character. -/
def namedCharacter? (name : List Char) : Option Char :=
  match name with
  | ['l', 't'] => some '<'
  | ['g', 't'] => some '>'
  | ['a', 'm', 'p'] => some '&'
  | ['a', 'p', 'o', 's'] => some '\''
  | ['q', 'u', 'o', 't'] => some '"'
  | _ => none

/-- The number that digits write in a base, after the number `n` of the digits before them; or
the first byte that is no digit. -/
def codeFrom (base : Nat) (digit? : Char → Option Nat) (n : Nat) : List Char → Except Char Nat
  | [] => .ok n
  | c :: s =>
    match digit? c with
    | some d => codeFrom base digit? (base * n + d) s
    | none => .error (firstByte c)

/-- The code point that a numerical reference writes after its number sign. -/
def codePoint (s : List Char) : Except ReferenceError Nat :=
  match s with
  | 'x' :: digits =>
    if 6 < byteLength digits then .error .longHexadecimal
    else (codeFrom 16 Text.hexDigit? 0 digits).mapError .badHexadecimal
  | digits =>
    if 7 < byteLength digits then .error .longDecimal
    else (codeFrom 10 Text.digit? 0 digits).mapError .badDecimal

/-- The character that a reference stands for.  Its ampersand is at the position `first` and its
semicolon at `last`. -/
def referenced (first last : Nat) (name : List Char) : Except ReferenceError Char :=
  match name with
  | '#' :: number => do
    let code ← codePoint number
    if code = 0 then .error (.null first last)
    else if code.isValidChar then .ok (Char.ofNat code)
    else .error (.noCharacter code)
  | name =>
    match namedCharacter? name with
    | some c => .ok c
    | none => .error (.unknownName (first + 1) last (String.ofList name))

/-- The name of a reference and what follows it, for a list that starts after the ampersand.
There is none if another ampersand, or the end, comes before a semicolon. -/
def reference? : List Char → Option (List Char × List Char)
  | [] => none
  | c :: s =>
    if c = ';' then some ([], s)
    else if c = '&' then none
    else (reference? s).map fun r => (c :: r.1, r.2)

theorem length_of_reference? {s : List Char} {r : List Char × List Char}
    (h : reference? s = some r) : r.2.length < s.length := by
  induction s generalizing r with
  | nil => simp [reference?] at h
  | cons c s ih =>
    unfold reference? at h
    split at h
    · cases h; simp
    · split at h
      · simp at h
      · obtain ⟨r', hr', rfl⟩ := Option.map_eq_some_iff.1 h
        have := ih hr'
        simp only [List.length_cons]
        omega

/-- The characters that a list of them stands for once its references are replaced, for the rest
`s` of a text of `total` bytes. -/
def unescapeFrom (total : Nat) (s : List Char) : Except ReferenceError (List Char) :=
  match s with
  | [] => .ok []
  | c :: s =>
    if c = '&' then
      let first := total - byteLength (c :: s)
      match h : reference? s with
      | none => .error (.unterminated first total)
      | some (name, rest) => do
        let value ← referenced first (first + 1 + byteLength name) name
        return value :: (← unescapeFrom total rest)
    else do
      return c :: (← unescapeFrom total s)
termination_by s.length
decreasing_by
  · have := length_of_reference? h
    simp only [List.length_cons] at *
    omega
  · simp

/-- The text that a raw text stands for once its references are replaced. -/
def unescape (raw : List Char) : Except ReferenceError String :=
  (unescapeFrom (byteLength raw) raw).map String.ofList

/-- How a character is written so that it has no meaning in mark-up. -/
def escapedChar (c : Char) : List Char :=
  if c = '<' then "&lt;".toList
  else if c = '>' then "&gt;".toList
  else if c = '&' then "&amp;".toList
  else if c = '\'' then "&apos;".toList
  else if c = '"' then "&quot;".toList
  else [c]

/-- A list of characters with every character that has a meaning in mark-up as a reference. -/
def escape (s : List Char) : List Char := s.flatMap escapedChar

end Walkthrough.Markup
