import Walkthrough.Settings
import Walkthrough.Toml.Reader
import Walkthrough.Toml.Writer

/-!
# Settings files

Settings are kept in a TOML file, one key for each.  A key that is missing leaves its setting at
the default, and keys that are no settings are passed over; a value of the wrong kind is a fault
at its place in the file.  Writing gives every setting, in a fixed order.

A fault that is found inside a value has a place of its own; one that is the value's as a whole is
kept as `none` until the place of the entry is known.
-/

namespace Walkthrough

/-- What a value must be, or else a fault of the value as a whole. -/
def Toml.Value.need {α : Type} : Option α → Except (Option Nat) α
  | some a => .ok a
  | none => .error none

/-- A text. -/
def Toml.Value.text? : Toml.Value → Option String
  | .text s => some s
  | _ => none

/-- A truth value. -/
def Toml.Value.flag? : Toml.Value → Option Bool
  | .flag b => some b
  | _ => none

/-- Whether a value is an array or a table that holds nothing. -/
def Toml.Value.isNothing : Toml.Value → Bool
  | .array [] => true
  | .table _ [] => true
  | _ => false

/-- What a word from a fixed choice means: a text, or a table with that word as its one key and
nothing as its value. -/
def Toml.Value.choice {α : Type} (ofWord? : String → Option α) :
    Toml.Value → Except (Option Nat) α
  | .text s => need (ofWord? s)
  | .table _ [e] =>
    match ofWord? e.key.name with
    | none => .error (some e.key.place)
    | some a => if e.value.isNothing then .ok a else .error e.place?
  | _ => .error none

namespace Settings

/-- The settings after an entry of a settings file is read. -/
def withEntry (s : Settings) (name : String) (v : Toml.Value) : Except (Option Nat) Settings :=
  match name with
  | "answer_matching" =>
    (v.choice AnswerMatching.ofWord?).map fun matching => { s with matching := matching }
  | "trim_answers" => (Toml.Value.need v.flag?).map fun trimmed => { s with trimAnswers := trimmed }
  | "language" =>
    (Toml.Value.need v.text?).map fun language => { s with language := some language }
  | "export_format" =>
    (v.choice ExportFormat.ofWord?).map fun format => { s with exportFormat := format }
  | "end_state_text" => (Toml.Value.need v.text?).map fun text => { s with endText := text }
  | _ => .ok s

/-- The settings after the entries of a settings file are read, or the place of the first
fault. -/
def ofEntries (entries : Toml.Entries) : Except Nat Settings :=
  entries.foldlM (fun s e =>
    (s.withEntry e.key.name e.value).mapError fun place? => place?.getD e.place) default

/-- The settings that a file holds. -/
def ofToml (file : String) : Except Toml.Error Settings := do
  let entries ← Toml.read file
  (ofEntries entries).mapError (Toml.Error.at file.toList)

/-- The file that holds the settings. -/
def toToml (s : Settings) : String :=
  Toml.line "answer_matching" (Toml.stringText s.matching.word) ++
  Toml.line "trim_answers" (if s.trimAnswers then "true" else "false") ++
  (match s.language with
    | some language => Toml.line "language" (Toml.stringText language)
    | none => "") ++
  Toml.line "export_format" (Toml.stringText s.exportFormat.word) ++
  Toml.line "end_state_text" (Toml.stringText s.endText)

end Settings

end Walkthrough
