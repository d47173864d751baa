import Walkthrough.Json.Fields
import Walkthrough.Json.Reader
import Walkthrough.Settings

/-!
# Settings as JSON

Settings can be given as a JSON value too, under the same keys and with the same defaults as in a
settings file.  Only the language may be null.
-/

namespace Walkthrough.Settings

/-- The settings that a JSON value writes. -/
def ofJson? (j : Json) : Option Settings := do
  let keys :=
    ["answer_matching", "trim_answers", "language", "export_format", "end_state_text"]
  match ← j.fields? keys with
  | [matching, trimmed, language, format, endText] =>
    return {
      matching := ← Json.orDefault? default.matching
        (fun v => v.word?.bind AnswerMatching.ofWord?) matching
      trimAnswers := ← Json.orDefault? default.trimAnswers Json.bool? trimmed
      language := ← Json.optional? Json.string? language
      exportFormat := ← Json.orDefault? default.exportFormat
        (fun v => v.word?.bind ExportFormat.ofWord?) format
      endText := ← Json.orDefault? default.endText Json.string? endText }
  | _ => none

/-- The settings that a JSON text writes. -/
def ofJsonText? (text : String) : Option Settings := (Json.ofText? text).bind ofJson?

end Walkthrough.Settings
