import Walkthrough.TaskType
import Walkthrough.Text.Blank
import Walkthrough.Text.Cut
import Walkthrough.Text.Numeral

/-!
# Node names

A node is described entirely by its name, a list of components between tildes: the task type
first, the text to show last, and parameters and markers between them.  A name without a tilde is
a text alone and declares a classification.  Reading a name never fails; a component that is
missing counts as empty, and a threshold that is not a numeral as zero.
-/

namespace Walkthrough

/-- The components of a node's name, of which there is at least one. -/
structure NodeName where
  components : List String
  components_ne_nil : components ≠ []

namespace NodeName

theorem piecesOf_ne_nil (p : Char → Bool) (s : List Char) : Text.piecesOf p s ≠ [] := by
  induction s with
  | nil => simp [Text.piecesOf]
  | cons c s ih =>
    unfold Text.piecesOf
    split <;> simp

/-- The components of a written name. -/
def decode (name : String) : NodeName :=
  ⟨Text.pieces '~' name, by simp [Text.pieces, piecesOf_ne_nil]⟩

/-- The identifier of the task type: the first component, unless it is the only one. -/
def typeIdentifier (n : NodeName) : String :=
  match n.components with
  | first :: _ :: _ => first
  | _ => TaskType.classification.identifier

/-- The task type, if the identifier is one. -/
def taskType? (n : NodeName) : Option TaskType := TaskType.ofIdentifier? n.typeIdentifier

/-- The text to show, which is the last component. -/
def text (n : NodeName) : String := n.components.getLast n.components_ne_nil

/-- The second component, if there is one. -/
def parameter? (n : NodeName) : Option String := n.components[1]?

/-- How many boxes of a checklist must be ticked; other types have no threshold. -/
def threshold (n : NodeName) : Nat :=
  match n.taskType?, n.parameter? with
  | some .checklist, some numeral => (Text.count? (Text.trim numeral)).getD 0
  | _, _ => 0

/-- The unit shown beside a text field that has one. -/
def unit (n : NodeName) : String := n.parameter?.getD ""

/-- The name of the image to show, for the types that show one and when a text is named too. -/
def imageName? (n : NodeName) : Option String :=
  match n.taskType?, n.components with
  | some t, _ :: name :: _ :: _ => if t.hasImage then some name else none
  | _, _ => none

/-- The components between the first and the last. -/
def middle (n : NodeName) : List String := n.components.tail.dropLast

/-- The key and the value of a component that is a marker: an at sign, the key, an equals sign
and the value. -/
def markerOf? (component : String) : Option (String × String) :=
  match component.toList with
  | '@' :: rest => Text.cutFirst? "=" (String.ofList rest)
  | _ => none

/-- The value of the first marker with the given key. -/
def marker? (n : NodeName) (key : String) : Option String :=
  ((n.middle.filterMap markerOf?).find? fun m => m.1 == key).map Prod.snd

/-- The name of the image behind the node. -/
def backgroundImage? (n : NodeName) : Option String := n.marker? "bg"

/-- The name of the music behind the node. -/
def backgroundAudio? (n : NodeName) : Option String := n.marker? "bgAudioName"

/-- The name of the narration of the node. -/
def narration? (n : NodeName) : Option String := n.marker? "audioName"

end NodeName

end Walkthrough
