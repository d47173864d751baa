import Walkthrough.Json.Basic

/-!
# Writing JSON

Values are laid out over lines: every element and every member stands on its own line, indented
by two blanks more than what holds it, and an empty array or object is closed at once.  Texts are
written as they are, except for quotes, backslashes and control characters.
-/

namespace Walkthrough.Json

/-- A digit of a number below sixteen, in lower case. -/
def hexDigit (n : Nat) : Char := Nat.digitChar n

/-- How a character is written inside a text. -/
def escapedChar (c : Char) : List Char :=
  if c = '"' then ['\\', '"']
  else if c = '\\' then ['\\', '\\']
  else if c.toNat = 0x8 then ['\\', 'b']
  else if c.toNat = 0x9 then ['\\', 't']
  else if c.toNat = 0xA then ['\\', 'n']
  else if c.toNat = 0xC then ['\\', 'f']
  else if c.toNat = 0xD then ['\\', 'r']
  else if c.toNat < 0x20 then
    ['\\', 'u', '0', '0', hexDigit (c.toNat / 16), hexDigit (c.toNat % 16)]
  else [c]

/-- A text between its quotes. -/
def textChars (s : String) : List Char := '"' :: s.toList.flatMap escapedChar ++ ['"']

/-- A line break and the blanks that indent a line to a depth. -/
def newline (depth : Nat) : List Char := '\n' :: List.replicate (2 * depth) ' '

/-- Items with a comma and the same line break between them. -/
def separated (depth : Nat) : List (List Char) → List Char
  | [] => []
  | [item] => item
  | item :: rest => item ++ ',' :: newline depth ++ separated depth rest

/-- Items between brackets, each on its own line. -/
def enclosed (depth : Nat) (first last : Char) (items : List (List Char)) : List Char :=
  if items.isEmpty then [first, last]
  else first :: newline (depth + 1) ++ separated (depth + 1) items ++ newline depth ++ [last]

mutual

/-- A value as it is written at a depth. -/
def chars (depth : Nat) : Json → List Char
  | null => "null".toList
  | bool true => "true".toList
  | bool false => "false".toList
  | number literal => literal.toList
  | string text => textChars text
  | array elements => enclosed depth '[' ']' (elementChars (depth + 1) elements)
  | object members => enclosed depth '\x7b' '\x7d' (memberChars (depth + 1) members)

/-- The elements of an array as they are written at a depth. -/
def elementChars (depth : Nat) : List Json → List (List Char)
  | [] => []
  | e :: rest => chars depth e :: elementChars depth rest

/-- The members of an object as they are written at a depth. -/
def memberChars (depth : Nat) : List (String × Json) → List (List Char)
  | [] => []
  | (key, value) :: rest =>
    (textChars key ++ ':' :: ' ' :: chars depth value) :: memberChars depth rest

end

/-- The text that writes a value. -/
def text (j : Json) : String := String.ofList (chars 0 j)

end Walkthrough.Json
