/-!
# Settings

How a walk is played: how typed answers are compared with the expected ones, in which language
the walk starts, in which format the answers are exported, and what is shown at its end.
-/

namespace Walkthrough

/-- How the letters of a typed answer are compared with those of an accepted one. -/
inductive AnswerMatching
  | caseSensitive
  | caseInsensitive
  deriving DecidableEq, Repr

namespace AnswerMatching

/-- Every way of comparing answers. -/
def all : List AnswerMatching := [caseSensitive, caseInsensitive]

/-- The word for the way of comparing in a settings file. -/
def word : AnswerMatching → String
  | caseSensitive => "case-sensitive"
  | caseInsensitive => "case-insensitive"

/-- The way of comparing that a word stands for. -/
def ofWord? (s : String) : Option AnswerMatching := all.find? fun m => m.word == s

end AnswerMatching

/-- In which format the answers are exported. -/
inductive ExportFormat
  | csv
  | json
  deriving DecidableEq, Repr

namespace ExportFormat

/-- Every export format. -/
def all : List ExportFormat := [csv, json]

/-- The word for the format in a settings file, which is also the extension of exported files. -/
def word : ExportFormat → String
  | csv => "csv"
  | json => "json"

/-- The format that a word stands for. -/
def ofWord? (s : String) : Option ExportFormat := all.find? fun f => f.word == s

end ExportFormat

/-- The text shown at the end of a walk unless the settings say otherwise. -/
def defaultEndText : String := "You've now reached the end"

/-- The settings of a walk. -/
structure Settings where
  matching : AnswerMatching
  /-- Whether blanks around typed and accepted answers are ignored. -/
  trimAnswers : Bool
  /-- The language in which the walk starts, if not in the base language of the document. -/
  language : Option String
  exportFormat : ExportFormat
  endText : String
  deriving DecidableEq, Repr

/-- The settings of a walk about which nothing is said. -/
def Settings.default : Settings where
  matching := .caseSensitive
  trimAnswers := true
  language := none
  exportFormat := .csv
  endText := defaultEndText

end Walkthrough
