import Walkthrough.Json.Fields
import Walkthrough.Json.Printer
import Walkthrough.Json.Reader
import Walkthrough.Moment.Reader
import Walkthrough.Moment.Written
import Walkthrough.Record.Basic
import Walkthrough.Text.Numeral

/-!
# Records as JSON

A list of records is exported as a JSON array of objects, and read back from it.  Parts of an
answer that are missing are left out, which tells a question without an answer from an answer
without a selection.
-/

namespace Walkthrough

/-- A member that is there only if its value is. -/
def optionalMember {α : Type} (name : String) (write : α → Json) :
    Option α → List (String × Json)
  | some value => [(name, write value)]
  | none => []

/-- The JSON value of an index. -/
def indexJson (n : Nat) : Json := .number (toString n)

/-- The index that a JSON value writes, which must be small enough for a count. -/
def Json.index? : Json → Option Nat
  | number literal => Text.boundedCount? literal.toList
  | _ => none

/-- The list that a JSON array writes. -/
def Json.list? {α : Type} (read : Json → Option α) : Json → Option (List α)
  | array elements => elements.mapM read
  | _ => none

namespace Answer

/-- The JSON value of an answer. -/
def toJson (a : Answer) : Json :=
  .object <|
    optionalMember "selected_indices" (fun indices => .array (indices.map indexJson)) a.selected ++
    optionalMember "text_input" .string a.text ++
    optionalMember "date" (fun date => .string date.recordText) a.date

/-- The answer that a JSON value writes. -/
def ofJson? (j : Json) : Option Answer := do
  match ← j.fields? ["selected_indices", "text_input", "date"] with
  | [selected, text, date] =>
    return {
      selected := ← Json.optional? (Json.list? Json.index?) selected
      text := ← Json.optional? Json.string? text
      date := ← Json.optional? (fun d => d.string?.bind Moment.ofRelaxed?) date }
  | _ => none

end Answer

namespace Record

/-- The JSON value of a record. -/
def toJson (r : Record) : Json :=
  .object [
    ("transition_key", .string r.key),
    ("node_type", (r.task.map fun t => Json.string t.recordName).getD .null),
    ("fields", r.answer.toJson)]

/-- Whether a value writes every field of a record by its place, or the fields by name. -/
def isComplete : Json → Bool
  | .array elements => elements.length == 3
  | _ => true

/-- The record that a JSON value writes. -/
def ofJson? (j : Json) : Option Record := do
  guard (isComplete j)
  match ← j.fields? ["transition_key", "node_type", "fields"] with
  | [some key, task, some answer] =>
    return {
      key := ← key.string?
      task := ← Json.optional? (fun t => t.word?.bind TaskType.ofRecordName?) task
      answer := ← Answer.ofJson? answer }
  | _ => none

/-- The JSON text of a list of records. -/
def listText (records : List Record) : String := (Json.array (records.map toJson)).text

/-- The list of records that a JSON text writes. -/
def ofListText? (text : String) : Option (List Record) :=
  (Json.ofText? text).bind (Json.list? ofJson?)

end Record

end Walkthrough
