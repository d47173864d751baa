import Walkthrough.Text.Case
import Walkthrough.Text.HiddenTable

/-!
# Quoting a text in a message

A message that cites a piece of a document puts it between double quotes and shows every
character, also those without a visible form: these appear as escapes with the code point in
hexadecimal digits.
-/

namespace Walkthrough.Text

/-- The hexadecimal digits of a number, in lower case and without leading zeros. -/
def hexDigits (n : Nat) : String := String.ofList (Nat.toDigits 16 n)

/-- Whether a character has no visible form of its own. -/
def isHidden (c : Char) : Bool := inRanges hiddenRanges c

/-- How one character is written between the quotes. -/
def quotedChar (c : Char) : String :=
  if c.toNat = 0 then "\\0"
  else if c = '\t' then "\\t"
  else if c = '\r' then "\\r"
  else if c = '\n' then "\\n"
  else if c = '\\' then "\\\\"
  else if c.toNat = 0x22 then "\\\""
  else if isHidden c then "\\u\x7b" ++ hexDigits c.toNat ++ "\x7d"
  else c.toString

/-- A text between double quotes, with every character made visible. -/
def quoted (s : String) : String :=
  "\"" ++ String.join (s.toList.map quotedChar) ++ "\""

end Walkthrough.Text
