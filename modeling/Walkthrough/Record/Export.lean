import Walkthrough.Files
import Walkthrough.Record.Json
import Walkthrough.Settings

/-!
# Exporting records

The records of a walk are exported in one of two formats.  The delimited one is a line without
breaks: each record starts with what led on, the index of the chosen option or the first letter of
the transition key, goes on with the typed text or the date after a comma, and ends with a
semicolon.  The other format is JSON.  An exported file is named after the moment of its writing.
-/

namespace Walkthrough

/-- The format that a player names; the case of the letters does not matter. -/
def ExportFormat.ofName? (s : String) : Option ExportFormat := ofWord? (Text.lower s)

/-- What is said about a name that stands for no format. -/
def ExportFormat.unknownMessage (s : String) : String :=
  s!"Invalid export format '{s}'. Valid values: csv, json"

namespace Record

/-- The index of the option that was chosen, for the types whose options lead on by themselves. -/
def leadingIndex? (r : Record) : Option Nat :=
  match r.task with
  | some .link | some .radioButtons => r.answer.selected.bind (·.head?)
  | _ => none

/-- The first field of a delimited record. -/
def leadField (r : Record) : String :=
  match r.leadingIndex? with
  | some index => toString index
  | none => String.ofList (r.key.toList.take 1)

/-- The second field of a delimited record with its comma, for the types that have one. -/
def answerField (r : Record) : String :=
  match r.task with
  | none => ""
  | some task =>
    if task.hasTextInput then "," ++ r.answer.text.getD ""
    else if task.hasDate then
      match r.answer.date with
      | some date => "," ++ date.secondsText
      | none => ""
    else ""

/-- A delimited record. -/
def delimited (r : Record) : String := r.leadField ++ r.answerField ++ ";"

/-- The delimited export of a list of records. -/
def delimitedList (records : List Record) : String := String.join (records.map delimited)

/-- The export of a list of records in a format. -/
def exportText (format : ExportFormat) (records : List Record) : String :=
  match format with
  | .csv => delimitedList records
  | .json => listText records

/-- The name of the file that is exported at a moment. -/
def exportName (now : Moment) (format : ExportFormat) : String := now.stamp ++ "." ++ format.word

/-- The files after a list of records is exported into a folder, which is made if need be, and the
path of the new file. -/
def writeExport (files : Files) (folder : String) (format : ExportFormat) (now : Moment)
    (records : List Record) : Except FileError (String × Files) := do
  let files ← files.ensureFolders folder
  let path := Path.join folder (exportName now format)
  return (path, ← files.writeText path (exportText format records))

end Record

end Walkthrough
