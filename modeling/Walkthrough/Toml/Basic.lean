/-!
# TOML values

A settings file is written in TOML, of which the settings use a small part.  All of the language
is read nevertheless, for a file is refused if anything in it is wrong.  Numbers and moments are
not told apart, since no setting is one.  Tables remember how they came about, because that
decides where they may be added to, and entries remember their places, because a value of the
wrong kind is reported with its place.  A place is the number of characters from there to the end
of the file.
-/

namespace Walkthrough.Toml

/-- How a table came about. -/
inductive Origin
  /-- Written between braces as a value, and complete. -/
  | inline
  /-- Named by a header of its own. -/
  | header
  /-- Passed through by the header of another table. -/
  | passed
  /-- Passed through by a dotted key. -/
  | dotted
  deriving DecidableEq, Repr

/-- A key without dots. -/
structure Key where
  name : String
  /-- Where the key is written. -/
  place : Nat
  deriving DecidableEq, Repr

/-- A key with its value. -/
structure Entry (α : Type) where
  key : Key
  /-- Where the value is written.  A table that others merely passed through is written
  nowhere. -/
  place? : Option Nat
  value : α

/-- Where an entry stands in the file: where its value is written, or else its key. -/
def Entry.place {α : Type} (e : Entry α) : Nat := e.place?.getD e.key.place

/-- A value, or a collection of them. -/
inductive Value
  | text (s : String)
  | flag (b : Bool)
  /-- A number or a moment. -/
  | other
  | array (elements : List Value)
  /-- A table with its entries. -/
  | table (origin : Origin) (entries : List (Entry Value))
  /-- The tables of an array of tables. -/
  | tables (elements : List (List (Entry Value)))

/-- The entries of a table. -/
abbrev Entries := List (Entry Value)

namespace Entries

/-- The value of a key. -/
def value? (entries : Entries) (name : String) : Option Value :=
  (entries.find? fun e => e.key.name == name).map Entry.value

/-- The entries with the value of a key replaced. -/
def replace (entries : Entries) (name : String) (v : Value) : Entries :=
  entries.map fun e => if e.key.name = name then { e with value := v } else e

/-- The entries without that of a key. -/
def erase (entries : Entries) (name : String) : Entries :=
  entries.filter fun e => e.key.name != name

/-- The entries with the table at the end of a path changed by `f`, which is told how that table
came about.  Tables that are missing on the way are made; with `dotted` the path is that of a
dotted key, which may not enter a table that has a header.  Nothing results if the path leads
through a value or `f` refuses. -/
def changeAt? (f : Origin → Entries → Option Entries) (dotted : Bool) :
    List Key → Origin → Entries → Option Entries
  | [], origin, entries => f origin entries
  | key :: path, _, entries =>
    match entries.value? key.name with
    | none =>
      let made := if dotted then Origin.dotted else Origin.passed
      (changeAt? f dotted path made []).map fun inner =>
        entries ++ [⟨key, none, .table made inner⟩]
    | some (.table origin inner) =>
      if origin = .inline ∨ (dotted = true ∧ origin = .header) then none
      else
        (changeAt? f dotted path origin inner).map fun inner =>
          entries.replace key.name (.table origin inner)
    | some (.tables elements) =>
      match elements.getLast? with
      | none => none
      | some newest =>
        (changeAt? f dotted path .header newest).map fun inner =>
          entries.replace key.name (.tables (elements.dropLast ++ [inner]))
    | some _ => none

/-- The entries with a value added under a key that is reached by a path of other keys.  The key
must be new, and the table at the end of the path one that such paths lead to. -/
def insert? (path : List Key) (key : Key) (place : Nat) (v : Value) (entries : Entries) :
    Option Entries :=
  let add := fun origin (inner : Entries) =>
    if (path.isEmpty || origin == .dotted) && (inner.value? key.name).isNone then
      some (inner ++ [⟨key, some place, v⟩])
    else none
  entries.changeAt? add true path .header

/-- The entries after the header of a table.  A table that other headers passed through may get
its own header, but only once, and stands from then on where that header puts it. -/
def openTable? (path : List Key) (key : Key) (place : Nat) (entries : Entries) : Option Entries :=
  let add := fun _ (inner : Entries) =>
    match inner.value? key.name with
    | none => some (inner ++ [⟨key, some place, .table .header []⟩])
    | some (.table .passed es) =>
      some (inner.erase key.name ++ [⟨key, some place, .table .header es⟩])
    | some _ => none
  entries.changeAt? add false path .header

/-- The entries after the header of one more table in an array of tables. -/
def openElement? (path : List Key) (key : Key) (place : Nat) (entries : Entries) :
    Option Entries :=
  let add := fun _ (inner : Entries) =>
    match inner.value? key.name with
    | none => some (inner ++ [⟨key, some place, .tables [[]]⟩])
    | some (.tables elements) => some (inner.replace key.name (.tables (elements ++ [[]])))
    | some _ => none
  entries.changeAt? add false path .header

/-- The entries with a value added in the table whose header is `header`. -/
def insertUnder? (header path : List Key) (key : Key) (place : Nat) (v : Value)
    (entries : Entries) : Option Entries :=
  entries.changeAt? (fun _ inner => inner.insert? path key place v) false header .header

end Entries

end Walkthrough.Toml
