import Walkthrough.Toml.Basic

/-!
# Writing TOML strings

A string is written in the plainest of five forms that can hold it: between double quotes,
between single quotes, between three of either, which may go over several lines, and, if none of
these will do, between double quotes with escapes.  Only the last can hold control characters.
A tab is no obstacle to any of them; it stands as it is between single quotes and is escaped
between double ones.
-/

namespace Walkthrough.Toml

/-- Control characters other than the tab and the line break: those that only an escape can
bring into a string. -/
def isControl (c : Char) : Bool :=
  (c.toNat < 0x20 && c != '\t' && c != '\n') || c.toNat == 0x7F

/-- Whether a character takes an escape wherever it stands between double quotes. -/
def needsEscape (c : Char) : Bool := c == '\\' || c == '\t' || isControl c

/-- Whether three quotes of a kind stand in a row somewhere. -/
def hasTriple (quote : Char) : List Char → Bool
  | a :: b :: c :: s =>
    (a == quote && b == quote && c == quote) || hasTriple quote (b :: c :: s)
  | _ => false

/-- The digits of a number below sixteen, in upper case. -/
def upperHexDigit (n : Nat) : Char := (Nat.digitChar n).toUpper

/-- The escape of a character that cannot stand for itself between double quotes. -/
def escapeOf (c : Char) : List Char :=
  if c = '"' then ['\\', '"']
  else if c = '\\' then ['\\', '\\']
  else if c.toNat = 0x8 then ['\\', 'b']
  else if c.toNat = 0x9 then ['\\', 't']
  else if c.toNat = 0xA then ['\\', 'n']
  else if c.toNat = 0xC then ['\\', 'f']
  else if c.toNat = 0xD then ['\\', 'r']
  else ['\\', 'u', '0', '0', upperHexDigit (c.toNat / 16), upperHexDigit (c.toNat % 16)]

/-- A string as it is escaped on one line. -/
def escapedLine (s : List Char) : List Char :=
  s.flatMap fun c =>
    if c = '"' ∨ c = '\n' ∨ needsEscape c = true then escapeOf c else [c]

/-- A string as it is escaped over several lines, `quotes` quotes having stood in a row before
it: every third quote in a row takes an escape. -/
def escapedLines (quotes : Nat) : List Char → List Char
  | [] => []
  | c :: s =>
    if c = '"' then
      if quotes = 2 then escapeOf c ++ escapedLines 0 s else c :: escapedLines (quotes + 1) s
    else if needsEscape c = true then escapeOf c ++ escapedLines 0 s
    else c :: escapedLines 0 s

/-- A text between triple quotes, on a line of its own if the string has more than one. -/
def tripled (quote : Char) (hasNewline : Bool) (s : List Char) : List Char :=
  List.replicate 3 quote ++ (if hasNewline then ['\n'] else []) ++ s ++ List.replicate 3 quote

/-- The characters that write a string. -/
def stringChars (s : List Char) : List Char :=
  let hasControl := s.any isControl
  let hasBackslash := s.any (· == '\\')
  let hasNewline := s.any (· == '\n')
  let basic := '"' :: escapedLine s ++ ['"']
  let basicLines := tripled '"' hasNewline (escapedLines 0 s)
  if !hasControl && !hasBackslash && !hasNewline && !s.any (· == '"') then basic
  else if !hasControl && !hasNewline && !s.any (· == '\'') then '\'' :: s ++ ['\'']
  else if !hasControl && !hasBackslash && !hasTriple '"' s then basicLines
  else if !hasControl && !hasTriple '\'' s then tripled '\'' hasNewline s
  else if hasNewline then basicLines
  else basic

/-- The text that writes a string. -/
def stringText (s : String) : String := String.ofList (stringChars s.toList)

/-- A line with a key and the text of its value. -/
def line (key value : String) : String := key ++ " = " ++ value ++ "\n"

end Walkthrough.Toml
