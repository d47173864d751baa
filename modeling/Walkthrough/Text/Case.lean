import Walkthrough.Text.CaseTable

/-!
# Lower-casing

Names of task types, languages, file names and case-insensitive answers are compared through
their lower-case forms.  Lower-casing is not a map on characters: the capital I with a dot
becomes two characters, and a capital sigma takes its final form at the end of a word.  Both
exceptions live in `lowerChar`, which sees the characters before and after.
-/

namespace Walkthrough.Text

/-- Membership of a character in a table of ranges. -/
def inRanges (table : List (Nat × Nat)) (c : Char) : Bool :=
  table.any fun r => r.1 ≤ c.toNat && c.toNat ≤ r.2

/-- Characters that have a case. -/
def isCased (c : Char) : Bool := inRanges casedRanges c

/-- Characters that are skipped when the end of a word is looked for. -/
def isCaseIgnorable (c : Char) : Bool := inRanges caseIgnorableRanges c

/-- The lower-case partner of a character, which is the character itself when it has none. -/
def simpleLower (c : Char) : Char :=
  match lowerRuns.find? (·.covers c.toNat) with
  | some r => Char.ofNat ((c.toNat : Int) + r.shift).toNat
  | none => c

/-- Whether a cased letter is the first thing met once ignorable characters are skipped. -/
def meetsCased (s : List Char) : Bool :=
  match s.dropWhile isCaseIgnorable with
  | c :: _ => isCased c
  | [] => false

/-- A capital sigma is final when a letter stands before it in the word and none after it.  The
characters before are given nearest first. -/
def isFinalSigma (before after : List Char) : Bool :=
  meetsCased before && !meetsCased after

/-- The lower-case form of one character between those before it, nearest first, and those
after it. -/
def lowerChar (before : List Char) (c : Char) (after : List Char) : List Char :=
  if c.toNat = 0x130 then ['i', Char.ofNat 0x307]
  else if c.toNat = 0x3A3 then
    [if isFinalSigma before after then Char.ofNat 0x3C2 else Char.ofNat 0x3C3]
  else [simpleLower c]

/-- The lower-case form of a list that continues the characters `before`, nearest first. -/
def lowerFrom (before : List Char) : List Char → List Char
  | [] => []
  | c :: rest => lowerChar before c rest ++ lowerFrom (c :: before) rest

/-- The lower-case form of a text. -/
def lower (s : String) : String :=
  String.ofList (lowerFrom [] s.toList)

end Walkthrough.Text
