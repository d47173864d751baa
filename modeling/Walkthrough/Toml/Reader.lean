import Walkthrough.Toml.Basic
import Walkthrough.Toml.Quoted
import Walkthrough.Toml.Scalar

/-!
# Reading TOML

A file is a sequence of lines: blank ones, comments, headers of tables, and keys with their
values.  Every line changes the tables read so far, and the first line that is wrong ends the
reading.  A line that is badly written is wrong where its reader had to stop; one that says what
no line may say after those before it, such as a key for the second time, is wrong as a whole.
-/

namespace Walkthrough.Toml

/-- The first fault of a file, by line and column. -/
structure Error where
  line : Nat
  column : Nat
  deriving DecidableEq, Repr

/-- The wording of a fault. -/
def Error.message (e : Error) : String :=
  s!"TOML parse error at line {e.line}, column {e.column}"

/-- The fault at a place in a file.  Columns are counted in characters, but in bytes up to a
fault at a character beyond ASCII.  The end of the file stands one column after its last
character, whatever that is. -/
def Error.at (file : List Char) (place : Nat) : Error :=
  let atEnd := place = 0
  let rest := file.drop (file.length - max place 1)
  let front := file.take (file.length - max place 1)
  let line := front.reverse.takeWhile (· != '\n')
  let inBytes := !atEnd && rest.head?.any (0x80 ≤ ·.toNat)
  let column := if inBytes then (String.ofList line).utf8ByteSize else line.length
  ⟨(front.filter (· == '\n')).length + 1, column + (if atEnd then 2 else 1)⟩

/-- How deep arrays and tables may be nested in a value, and how many parts a key may have. -/
def depthBound : Nat := 79

/-- What follows blanks, line breaks and comments.  A comment has to end with its line, and a
carriage return is half a line break; where the line break is missing, the fault is behind the
character in its stead. -/
def filler (s : List Char) : Attempt (List Char) :=
  match s with
  | [] => .ok []
  | c :: rest =>
    if isSpace c then filler rest
    else
      let line := if c = '#' then rest.dropWhile isPlain else c :: rest
      match _ : newline? line with
      | some below => filler below
      | none => if c = '#' ∨ c = '\r' then .reject (line.drop 1) else .ok s
termination_by s.length
decreasing_by
  · simp
  · have h₁ := length_of_newline? ‹_›
    have h₂ := Text.length_dropWhile_le isPlain rest
    simp only [line] at h₁
    split at h₁
    · simp only [List.length_cons]
      omega
    · simpa using h₁

/-- The characters of keys without quotes. -/
def isBare (c : Char) : Bool := c.isAlphanum || c == '-' || c == '_'

/-- The name that a key without dots writes, and what follows it. -/
def keyName (s : List Char) : Attempt (String × List Char) :=
  match s with
  | '"' :: rest => (basic rest).map fun r => (String.ofList r.1, r.2)
  | '\'' :: rest => (literal rest).map fun r => (String.ofList r.1, r.2)
  | s =>
    let bare := s.takeWhile isBare
    if bare.isEmpty then .reject s else .ok (String.ofList bare, s.dropWhile isBare)

/-- A key without dots, which may stand between blanks, and what follows it. -/
def simpleKey (s : List Char) : Attempt (Key × List Char) :=
  let s := s.dropWhile isSpace
  (keyName s).map fun r => (⟨r.1, s.length⟩, r.2.dropWhile isSpace)

/-- The keys that follow one with a dot before each of them, and what follows them.  A dot with no
key after it is left where it is. -/
def furtherKeys (fuel : Nat) (s : List Char) : Attempt (List Key × List Char) :=
  match fuel, s with
  | fuel + 1, '.' :: rest =>
    Attempt.optional (do
      let (key, rest) ← simpleKey rest
      let (keys, rest) ← furtherKeys fuel rest
      return (key :: keys, rest)) ([], s)
  | _, s => .ok ([], s)

/-- A key as it stands before a value or in a header, with the keys that lead to it, and what
follows. -/
def dottedKey (s : List Char) : Attempt (List Key × Key × List Char) := do
  let (first, rest) ← simpleKey s
  let (further, rest) ← furtherKeys rest.length rest
  if further.length < depthBound then
    let keys := first :: further
    return (keys.dropLast, keys.getLastD first, rest)
  else .reject s

/-- What stands between two commas of a table in braces: a key with the keys that lead to it, and
its value with the place where that is written. -/
structure Member where
  path : List Key
  key : Key
  place : Nat
  value : Value

/-- The entries of a table in braces with the given members. -/
def entriesOf? (members : List Member) : Option Entries :=
  members.foldlM (fun entries m => Entries.insert? m.path m.key m.place m.value entries) []

mutual

/-- The value at the front of a list, and what follows it.  `depth` bounds how deep the value may
be nested. -/
def value (fuel depth : Nat) (s : List Char) : Attempt (Value × List Char) :=
  match fuel, s with
  | 0, s => .fail s
  | _ + 1, [] => .reject []
  | fuel + 1, c :: rest =>
    if c = '"' ∨ c = '\'' then (string s).map fun r => (.text (String.ofList r.1), r.2)
    else if c = '[' then
      match depth with
      | 0 => .fail s
      | depth + 1 => (elements fuel depth rest).map fun r => (.array r.1, r.2)
    else if c = '\x7b' then
      match depth with
      | 0 => .fail s
      | depth + 1 => (members fuel depth rest [] rest).map fun r => (.table .inline r.1, r.2)
    else if c = 't' then
      (expectAll "true".toList s).commit.map fun rest => (.flag true, rest)
    else if c = 'f' then
      (expectAll "false".toList s).commit.map fun rest => (.flag false, rest)
    else (scalar s).map fun rest => (.other, rest)

/-- The element of an array at the front of a list, and what follows it and the filler around
it. -/
def element (fuel depth : Nat) (s : List Char) : Attempt (Value × List Char) :=
  match fuel with
  | 0 => .fail s
  | fuel + 1 => do
    let (v, s) ← value fuel depth (← filler s)
    return (v, ← filler s)

/-- The elements of an array up to its closing bracket, and what follows that.  A comma may stand
after the last one.  What is no element may only be the bracket. -/
def elements (fuel depth : Nat) (s : List Char) : Attempt (List Value × List Char) :=
  match fuel with
  | 0 => .fail s
  | fuel + 1 =>
    match element fuel depth s with
    | .error ⟨rest, true⟩ => .fail rest
    | .error ⟨_, false⟩ => do
      let s ← (filler s).commit
      let rest ← (expect ']' s).commit
      return ([], rest)
    | .ok (v, ',' :: s) => (elements fuel depth s).map fun r => (v :: r.1, r.2)
    | .ok (v, s) => (expect ']' s).commit.map fun rest => ([v], rest)

/-- The entries of a table up to its closing brace, and what follows that.  The members in `read`
stand before, a comma after each of them; the members begin at `start`, and that is the fault if
they do not go together. -/
def members (fuel depth : Nat) (start : List Char) (read : List Member) (s : List Char) :
    Attempt (Entries × List Char) :=
  let close (all : List Member) (s : List Char) : Attempt (Entries × List Char) :=
    match entriesOf? all with
    | some entries => (expect '\x7d' s).commit.map fun rest => (entries, rest)
    | none => .fail start
  match fuel with
  | 0 => .fail s
  | fuel + 1 =>
    match dottedKey s with
    | .error ⟨rest, true⟩ => .fail rest
    | .error ⟨_, false⟩ =>
      -- no comma may stand after the last member
      if read.isEmpty then close [] (s.dropWhile isSpace) else close read (',' :: s)
    | .ok (path, key, s) => do
      let s := (← (expect '=' s).commit).dropWhile isSpace
      let (v, rest) ← (value fuel depth s).commit
      let read := read ++ [⟨path, key, s.length, v⟩]
      match rest.dropWhile isSpace with
      | ',' :: rest => members fuel depth start read rest
      | rest => close read rest

end

/-- What follows the end of a line, before which only blanks and a comment may stand. -/
def lineEnd (s : List Char) : Attempt (List Char) :=
  let s := s.dropWhile isSpace
  let line :=
    match s with
    | '#' :: rest => rest.dropWhile isPlain
    | s => s
  match newline? line with
  | some rest => .ok rest
  | none => if line.isEmpty then .ok [] else .reject line

/-- The tables read so far: the entries of the outermost one, and the path of the one that the
last header named. -/
structure Tables where
  entries : Entries
  header : List Key

/-- What a line makes of the tables read so far, if they can be changed as it says.  Otherwise the
line as a whole, `s`, is wrong. -/
def Tables.ofLine (s : List Char) (entries? : Option Entries) (header : List Key) :
    Attempt Tables :=
  match entries? with
  | some entries => .ok ⟨entries, header⟩
  | none => .fail s

/-- What the header of a table, or of an element of an array of tables, makes of the tables read
so far, and what follows it. -/
def headerLine (t : Tables) (s : List Char) : Attempt (Tables × List Char) :=
  match s with
  | '[' :: '[' :: inner => do
    let (path, key, rest) ← dottedKey inner
    let rest ← lineEnd (← expectAll [']', ']'] rest)
    let t ← Tables.ofLine s (t.entries.openElement? path key s.length) (path ++ [key])
    return (t, rest)
  | ['['] => .fail s
  | '[' :: inner => do
    let (path, key, rest) ← dottedKey inner
    let rest ← lineEnd (← expect ']' rest)
    let t ← Tables.ofLine s (t.entries.openTable? path key s.length) (path ++ [key])
    return (t, rest)
  | _ => .reject s

/-- What a line with a key and its value makes of the tables read so far, and what follows it. -/
def valueLine (t : Tables) (s : List Char) : Attempt (Tables × List Char) := do
  let (path, key, rest) ← dottedKey s
  let written := (← expect '=' rest).dropWhile isSpace
  let (v, rest) ← value (3 * written.length + 3) depthBound written
  let rest ← lineEnd rest
  let t ← Tables.ofLine s (t.entries.insertUnder? t.header path key written.length v) t.header
  return (t, rest)

/-- What the line at the front of a list makes of the tables read so far, and what follows it. -/
def nextLine (t : Tables) (s : List Char) : Attempt (Tables × List Char) :=
  match s with
  | '[' :: _ => headerLine t s
  | '#' :: _ => (lineEnd s).map fun rest => (t, rest)
  | '\r' :: '\n' :: rest => .ok (t, rest)
  | '\r' :: _ => .reject s
  | '\n' :: rest => .ok (t, rest)
  | s => valueLine t s

/-- What the lines of a list make of the tables read so far, or the place of the first fault. -/
def linesFrom (fuel : Nat) (t : Tables) (s : List Char) : Except Nat Entries :=
  let s := s.dropWhile isSpace
  if s.isEmpty then .ok t.entries
  else
    match fuel with
    | 0 => .error s.length
    | fuel + 1 =>
      match nextLine t s with
      | .ok (t, rest) => linesFrom fuel t rest
      | .error fault => .error fault.rest.length

/-- A list of characters without a byte order mark at its front. -/
def dropMark : List Char → List Char
  | c :: s => if c.toNat = 0xFEFF then s else c :: s
  | [] => []

/-- The entries of the outermost table of a file. -/
def read (file : String) : Except Error Entries :=
  let s := dropMark file.toList
  (linesFrom (s.length + 1) ⟨[], []⟩ s).mapError (Error.at file.toList)

end Walkthrough.Toml
