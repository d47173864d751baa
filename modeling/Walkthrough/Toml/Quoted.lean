import Walkthrough.Text.Cut
import Walkthrough.Text.Numeral
import Walkthrough.Toml.Attempt

/-!
# TOML strings

Strings are written between double quotes, where a backslash starts an escape, or between single
quotes, where every character stands for itself; and on one line between one quote at either end,
or on any number of lines between three.  Each of the four readers here starts after the opening
quotes, and gives the characters of the string and what follows the closing quotes.  After the
opening quotes nothing but a string can be meant, so every failure is final.
-/

namespace Walkthrough.Toml

/-- The characters that separate words on a line. -/
def isSpace (c : Char) : Bool := c == ' ' || c == '\t'

/-- The characters that may stand in a comment: all but controls other than the tab. -/
def isPlain (c : Char) : Bool := c == '\t' || (0x20 ≤ c.toNat && c.toNat != 0x7F)

/-- The characters that stand for themselves between double quotes. -/
def isBasic (c : Char) : Bool := isPlain c && c != '"' && c != '\\'

/-- The characters that stand for themselves between single quotes. -/
def isLiteral (c : Char) : Bool := isPlain c && c != '\''

/-- What follows a line break, if there is one. -/
def newline? : List Char → Option (List Char)
  | '\n' :: s => some s
  | '\r' :: '\n' :: s => some s
  | _ => none

/-- A list without the blanks and line breaks at its front. -/
def skipLines (s : List Char) : List Char :=
  match s with
  | [] => []
  | c :: rest =>
    if isSpace c ∨ c = '\n' then skipLines rest
    else if c = '\r' then
      match rest with
      | '\n' :: rest => skipLines rest
      | _ => s
    else s

/-- The character that hexadecimal digits write, of which there must be `width`, and what follows
them. -/
def codePoint (width : Nat) (s : List Char) : Attempt (Char × List Char) :=
  if s.length < width then .fail s
  else
    match Text.digitsInBase? 16 Text.hexDigit? 0 (s.take width) with
    | some n => if n.isValidChar then .ok (Char.ofNat n, s.drop width) else .fail s
    | none => .fail s

/-- The character that an escape writes after its backslash, and what follows it.  A letter that
starts no escape is a fault behind it, and any other character one in front of it. -/
def escape : List Char → Attempt (Char × List Char)
  | 'b' :: s => .ok (Char.ofNat 0x8, s)
  | 't' :: s => .ok ('\t', s)
  | 'n' :: s => .ok ('\n', s)
  | 'f' :: s => .ok (Char.ofNat 0xC, s)
  | 'r' :: s => .ok ('\r', s)
  | '"' :: s => .ok ('"', s)
  | '\\' :: s => .ok ('\\', s)
  | 'u' :: s => codePoint 4 s
  | 'U' :: s => codePoint 8 s
  | c :: s => if c.toNat < 0x80 then .fail s else .fail (c :: s)
  | [] => .reject []

/-- What follows a line break that is escaped: the blanks and line breaks after it are skipped
too. -/
def escapedNewline? (s : List Char) : Option (List Char) :=
  (newline? (s.dropWhile isSpace)).map skipLines

/-! ### Every step takes something off the text -/

theorem length_of_newline? {s rest : List Char} (h : newline? s = some rest) :
    rest.length < s.length := by
  unfold newline? at h
  split at h
  · cases h
    simp
  · cases h
    simp only [List.length_cons]
    omega
  · simp at h

theorem length_skipLines_le (s : List Char) : (skipLines s).length ≤ s.length := by
  fun_induction skipLines s with
  | case1 => simp
  | case2 c rest _ ih =>
    simp only [List.length_cons]
    omega
  | case3 _ rest ih =>
    simp only [List.length_cons]
    omega
  | case4 => simp
  | case5 => simp

theorem length_of_codePoint {width : Nat} {s : List Char} {r : Char × List Char}
    (h : codePoint width s = .ok r) : r.2.length ≤ s.length := by
  unfold codePoint at h
  split at h
  · simp [Attempt.fail] at h
  · split at h
    · split at h
      · cases h
        simp
      · simp [Attempt.fail] at h
    · simp [Attempt.fail] at h

theorem length_of_escape {s : List Char} {r : Char × List Char} (h : escape s = .ok r) :
    r.2.length < s.length := by
  unfold escape at h
  split at h
  iterate 7
    · cases h
      simp
  · have := length_of_codePoint h
    simp only [List.length_cons]
    omega
  · have := length_of_codePoint h
    simp only [List.length_cons]
    omega
  · split at h <;> simp [Attempt.fail] at h
  · simp [Attempt.reject] at h

theorem length_of_escapedNewline? {s rest : List Char} (h : escapedNewline? s = some rest) :
    rest.length < s.length := by
  obtain ⟨s', hs', rfl⟩ := Option.map_eq_some_iff.1 h
  have h₁ := length_of_newline? hs'
  have h₂ := length_skipLines_le s'
  have h₃ := Text.length_dropWhile_le isSpace s
  omega

/-! ### The four kinds of string -/

/-- A string between double quotes.  A backslash at the end of the file is itself the fault. -/
def basic (s : List Char) : Attempt (List Char × List Char) :=
  match s with
  | [] => .fail []
  | c :: s =>
    if c = '"' then .ok ([], s)
    else if c = '\\' then
      match _ : escape s with
      | .ok (e, rest) => (basic rest).map fun r => (e :: r.1, r.2)
      | .error ⟨rest, true⟩ => .fail rest
      | .error ⟨_, false⟩ => .fail (c :: s)
    else if isBasic c then (basic s).map fun r => (c :: r.1, r.2)
    else .fail (c :: s)
termination_by s.length
decreasing_by
  · have := length_of_escape ‹_›
    simp only [List.length_cons] at *
    omega
  · simp

/-- A string between single quotes. -/
def literal : List Char → Attempt (List Char × List Char)
  | [] => .fail []
  | c :: s =>
    if c = '\'' then .ok ([], s)
    else if isLiteral c then (literal s).map fun r => (c :: r.1, r.2)
    else .fail (c :: s)

/-- The end of a string between triple quotes: up to two more quotes belong to the string. -/
def closing (quote : Char) (s : List Char) : List Char × List Char :=
  let extra := ((s.take 2).takeWhile (· == quote)).length
  (List.replicate extra quote, s.drop extra)

/-- The failure of a string between triple quotes in front of a list, where the `quotes` quotes
right before it should have ended the string. -/
def unclosed {α : Type} (quote : Char) (quotes : Nat) (s : List Char) : Attempt α :=
  .fail (List.replicate quotes quote ++ s)

/-- A string between triple double quotes, `quotes` quotes having stood in a row before it.  Quotes
belong to the string as soon as something follows them; at the end of the file they are where the
string should have ended. -/
def longBasic (quotes : Nat) (s : List Char) : Attempt (List Char × List Char) :=
  match Text.dropFront? ['"', '"', '"'] s with
  | some rest => .ok (closing '"' rest)
  | none =>
    match _ : newline? s with
    | some rest => (longBasic 0 rest).map fun r => ('\n' :: r.1, r.2)
    | none =>
      match s with
      | [] => unclosed '"' quotes []
      | c :: s =>
        if c = '\\' then
          match _ : escapedNewline? s with
          | some rest => longBasic 0 rest
          | none =>
            match _ : escape s with
            | .ok (e, rest) => (longBasic 0 rest).map fun r => (e :: r.1, r.2)
            | .error ⟨rest, true⟩ => .fail rest
            | .error ⟨_, false⟩ => .fail (c :: s)
        else if c = '"' then (longBasic (quotes + 1) s).map fun r => (c :: r.1, r.2)
        else if isBasic c then (longBasic 0 s).map fun r => (c :: r.1, r.2)
        else .fail (c :: s)
termination_by s.length
decreasing_by
  · exact length_of_newline? ‹_›
  · have := length_of_escapedNewline? ‹_›
    simp only [List.length_cons] at *
    omega
  · have := length_of_escape ‹_›
    simp only [List.length_cons] at *
    omega
  · simp
  · simp

/-- A string between triple single quotes, `quotes` quotes having stood in a row before it.  Quotes
belong to the string only together with a character after them; where there is none, they are
where the string should have ended. -/
def longLiteral (quotes : Nat) (s : List Char) : Attempt (List Char × List Char) :=
  match Text.dropFront? ['\'', '\'', '\''] s with
  | some rest => .ok (closing '\'' rest)
  | none =>
    match _ : newline? s with
    | some rest => (longLiteral 0 rest).map fun r => ('\n' :: r.1, r.2)
    | none =>
      match s with
      | [] => unclosed '\'' quotes []
      | c :: s =>
        if c = '\'' then (longLiteral (quotes + 1) s).map fun r => (c :: r.1, r.2)
        else if isPlain c then (longLiteral 0 s).map fun r => (c :: r.1, r.2)
        else unclosed '\'' quotes (c :: s)
termination_by s.length
decreasing_by
  · exact length_of_newline? ‹_›
  · simp
  · simp

/-- A list without a line break at its front. -/
def dropNewline (s : List Char) : List Char := (newline? s).getD s

/-- The string at the front of a list, in any of its forms, and what follows it. -/
def string (s : List Char) : Attempt (List Char × List Char) :=
  match Text.dropFront? ['"', '"', '"'] s, Text.dropFront? ['\'', '\'', '\''] s, s with
  | some rest, _, _ => longBasic 0 (dropNewline rest)
  | none, some rest, _ => longLiteral 0 (dropNewline rest)
  | none, none, '"' :: rest => basic rest
  | none, none, '\'' :: rest => literal rest
  | none, none, _ => .reject s

end Walkthrough.Toml
