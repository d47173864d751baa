import Walkthrough.Document
import Walkthrough.Node
import Walkthrough.NodeName

/-!
# Stops

A stop of a walk is a node together with the ways out of it.  It is built afresh from the name of
the node each time the walk arrives: the name says what is shown and asked, the element that
declares the node adds options and transitions, and a presentation supplies the wording, the media
and the time.  What leads where depends on the document alone and never on the presentation.
-/

namespace Walkthrough

open Markup (Element)

/-- How the texts and media of a document are presented. -/
structure Presentation where
  /-- A text of the document as it is shown. -/
  say : String → String
  /-- The file of an image. -/
  image : String → Option String
  /-- The file of a sound. -/
  audio : String → Option String
  /-- The text shown at an end state, in the base language. -/
  endText : String
  now : Moment

/-- A node and the ways out of it. -/
structure Stop where
  node : Node
  /-- The name of the next node for each transition key. -/
  exits : Table String
  kind : NodeKind
  /-- The declared task type, if it is known; a decision counts as a link. -/
  task : Option TaskType
  /-- How many boxes must be ticked. -/
  threshold : Nat

/-! ### What the names of options and texts hide -/

/-- The label of an option: its name up to the last tilde. -/
def optionLabel (taskName : String) : String :=
  match Text.cutLast? "~" taskName with
  | some (label, _) => label
  | none => taskName

/-- The text shown for a question, and the answer that its text hides after the last equals sign
that follows the word for it. -/
def splitAnswer (text : String) : String × Option String :=
  match Text.cutLast? "Answer=" text with
  | some (shown, answer) =>
    let front := Text.dropEndWhile (· == '@') (Text.dropEndWhile Text.isBlank shown.toList)
    (String.ofList (Text.dropEndWhile Text.isBlank front), some answer)
  | none => (text, none)

/-- The label of a link's option and the name of the node it leads to.  Names of nodes contain
tildes, so the target is the longest part after a tilde that the document contains, and only if
there is none the part after the last one. -/
def Document.splitLink (d : Document) (taskName : String) : String × String :=
  let cuts := Text.cuts "~" taskName
  match cuts.find? (fun cut => d.contains cut.2) with
  | some cut => cut
  | none => cuts.getLast?.getD (taskName, taskName)

/-! ### Building -/

namespace Presentation

/-- The block that shows a text. -/
def textBlock (p : Presentation) (text : String) : Block := .text (p.say text)

/-- The block that shows the image of a name. -/
def imageBlock (p : Presentation) (name : NodeName) : Block :=
  let image := name.imageName?.getD ""
  .image image (p.image image)

/-- The block that offers options for choice. -/
def choiceBlock (p : Presentation) (labels : List String) : Block :=
  .choice (labels.map p.say) none

/-- The files that the markers in a name ask for. -/
def media (p : Presentation) (name : NodeName) : Media where
  backgroundImage := name.backgroundImage?.bind p.image
  backgroundAudio := name.backgroundAudio?.bind p.audio
  narration := name.narration?.bind p.audio

end Presentation

/-- Items with their numbers, which start at one. -/
def numbered (items : List String) : List String :=
  items.zipIdx.map fun (item, i) => toString (i + 1) ++ ") " ++ item

/-- A text input that is still empty. -/
def emptyInput (mode : LineMode) (unit : Option String) (numeric : Bool) : Block :=
  .input "" mode unit numeric

/-- The node of a task of a given type. -/
def taskNode (p : Presentation) (task : TaskType) (name : NodeName) (labels keys : List String) :
    Node :=
  let text := p.textBlock name.text
  let (shown, answer) := splitAnswer name.text
  let texts := ExpectedAnswer.texts ((answer.map (Text.pieces '|')).getD [])
  match task with
  | .textDisplay => .ofBlocks [text]
  | .imageDisplay => .ofBlocks [p.imageBlock name]
  | .textImageDisplay => .ofBlocks [text, p.imageBlock name]
  | .imageTextDisplay => .ofBlocks [p.imageBlock name, text]
  | .link => { Node.ofBlocks [text, p.choiceBlock keys] with optionKeys := keys }
  | .radioButtons => .ofBlocks [text, p.choiceBlock labels]
  | .radioButtonsWithAnswer =>
    { Node.ofBlocks [p.textBlock shown, p.choiceBlock labels] with
      expected := some (.option (answer.bind fun a => Text.count? (Text.trim a))) }
  | .checklist => .ofBlocks [text, .checks (labels.map p.say) []]
  | .classification => .ofBlocks [text, .list (numbered (labels.map p.say))]
  | .textField => .ofBlocks [text, emptyInput .single none false]
  | .textFieldNumerical => .ofBlocks [text, emptyInput .single none true]
  | .textFieldWithUnit => .ofBlocks [text, emptyInput .single (some (p.say name.unit)) false]
  | .textArea => .ofBlocks [text, emptyInput .multiple none false]
  | .textFieldWithAnswer =>
    { Node.ofBlocks [p.textBlock shown, emptyInput .single none false] with
      expected := some texts }
  | .textAreaWithAnswer =>
    { Node.ofBlocks [p.textBlock shown, emptyInput .multiple none false] with
      expected := some texts }
  | .timestampDisplay => .ofBlocks [text, .date (some p.now)]
  | .date => .ofBlocks [text, .date none]

/-- The stop at a task node of a known type.  The options of a link add to its exits. -/
def taskStop (d : Document) (p : Presentation) (task : TaskType) (name : NodeName) (e : Element) :
    Stop :=
  let links := if task = .link then (taskNamesOf e).map d.splitLink else []
  { node := taskNode p task name ((taskNamesOf e).map optionLabel) (links.map Prod.fst)
    exits := links.foldl (fun t link => t.insert link.1 link.2) (transitionsOf e)
    kind := .task
    task := some task
    threshold := name.threshold }

/-- The stop at a decision, which offers its transition keys for choice. -/
def decisionStop (p : Presentation) (name : NodeName) (e : Element) : Stop :=
  let exits := transitionsOf e
  { node := { Node.ofBlocks [p.textBlock name.text, p.choiceBlock exits.keys] with
      optionKeys := exits.keys }
    exits := exits
    kind := .decision
    task := some .link
    threshold := 0 }

/-- The stop at an end state. -/
def finalStop (p : Presentation) : Stop where
  node := .ofBlocks [p.textBlock p.endText]
  exits := Table.empty
  kind := .final
  task := none
  threshold := 0

/-- The stop at a task node whose type is not known. -/
def unknownStop (p : Presentation) (e : Element) : Stop where
  node := .ofBlocks [p.textBlock "Unknown node"]
  exits := transitionsOf e
  kind := .task
  task := none
  threshold := 0

/-- The stop at a node that an element declares, without its media. -/
def Document.bareStop (d : Document) (p : Presentation) (name : NodeName) :
    NodeKind → Element → Stop
  | .final, _ => finalStop p
  | .decision, e => decisionStop p name e
  | .task, e =>
    match name.taskType? with
    | some task => taskStop d p task name e
    | none => unknownStop p e

/-- The stop with the files that accompany its node. -/
def Stop.withMedia (s : Stop) (media : Media) : Stop :=
  { s with node := { s.node with media := media } }

/-- The stop at the node of a name, if the name resolves to one. -/
def Document.stop? (d : Document) (p : Presentation) (name : String) : Option Stop :=
  (d.find? name).map fun (kind, e) =>
    let decoded := NodeName.decode name
    (d.bareStop p decoded kind e).withMedia (p.media decoded)

end Walkthrough
