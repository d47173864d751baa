import Walkthrough.Text.Case

/-!
# Task types

The first component of a node's name says what the node asks for: a plain text to read, a choice,
an answer to type, a date.  This file lists the types, their identifiers, and the three traits
that the rest of the library asks about.
-/

namespace Walkthrough

/-- What a task node shows and asks for. -/
inductive TaskType
  | textDisplay
  | imageDisplay
  | textImageDisplay
  | imageTextDisplay
  | link
  | radioButtons
  | radioButtonsWithAnswer
  | checklist
  | classification
  | textField
  | textFieldNumerical
  | textFieldWithUnit
  | textArea
  | textFieldWithAnswer
  | textAreaWithAnswer
  | timestampDisplay
  | date
  deriving DecidableEq, Repr

namespace TaskType

/-- Every task type. -/
def all : List TaskType :=
  [textDisplay, imageDisplay, textImageDisplay, imageTextDisplay, link, radioButtons,
    radioButtonsWithAnswer, checklist, classification, textField, textFieldNumerical,
    textFieldWithUnit, textArea, textFieldWithAnswer, textAreaWithAnswer, timestampDisplay, date]

/-- The identifier by which node names declare the type. -/
def identifier : TaskType → String
  | textDisplay => "textDisplay"
  | imageDisplay => "imageDisplay"
  | textImageDisplay => "textImageDisplay"
  | imageTextDisplay => "imageTextDisplay"
  | link => "link"
  | radioButtons => "radioButtons"
  | radioButtonsWithAnswer => "radioButtonsWithAnswer"
  | checklist => "checkList"
  | classification => "classification"
  | textField => "textField"
  | textFieldNumerical => "textFieldNumerical"
  | textFieldWithUnit => "textFieldWithUnit"
  | textArea => "textArea"
  | textFieldWithAnswer => "textFieldWithAnswer"
  | textAreaWithAnswer => "textAreaWithAnswer"
  | timestampDisplay => "timestampDisplay"
  | date => "date"

/-- The type that an identifier declares; the case of its letters does not matter. -/
def ofIdentifier? (s : String) : Option TaskType :=
  all.find? fun t => Text.lower t.identifier == Text.lower s

/-- The word for the type in a recorded answer.  It is the identifier, except that a checklist is
one word there. -/
def recordName : TaskType → String
  | checklist => "checklist"
  | t => t.identifier

/-- The type that a word in a recorded answer stands for. -/
def ofRecordName? (s : String) : Option TaskType :=
  all.find? fun t => t.recordName == s

/-- Whether the node shows the image named by its second component. -/
def hasImage : TaskType → Bool
  | imageDisplay | textImageDisplay | imageTextDisplay => true
  | _ => false

/-- Whether the node asks for a text. -/
def hasTextInput : TaskType → Bool
  | textField | textFieldNumerical | textFieldWithUnit | textArea | textFieldWithAnswer
  | textAreaWithAnswer => true
  | _ => false

/-- Whether the node carries a date. -/
def hasDate : TaskType → Bool
  | date | timestampDisplay => true
  | _ => false

end TaskType

end Walkthrough
