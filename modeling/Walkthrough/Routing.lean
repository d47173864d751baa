import Walkthrough.Settings
import Walkthrough.Stop

/-!
# The way out of a node

The answer that was given decides under which key the next node is looked up.  A checklist asks
whether enough boxes are ticked, a quiz whether the answer is right, a link or a decision which
option was chosen; every other node has one way out.
-/

namespace Walkthrough

/-- The key for a right answer or a satisfied checklist, and the key otherwise. -/
def yesNo (right : Bool) : String := if right then "Yes" else "No"

/-- The form in which answers are compared. -/
def normalizeAnswer (matching : AnswerMatching) (trimmed : Bool) (answer : String) : String :=
  let answer := if trimmed then Text.trim answer else answer
  match matching with
  | .caseSensitive => answer
  | .caseInsensitive => Text.lower answer

/-- Whether an answer is one of those accepted. -/
def answerMatches (matching : AnswerMatching) (trimmed : Bool) (accepted : List String)
    (answer : String) : Bool :=
  accepted.any fun a =>
    normalizeAnswer matching trimmed a == normalizeAnswer matching trimmed answer

/-- Whether the chosen option is the expected one. -/
def rightOption (n : Node) : Bool :=
  match n.expected with
  | some (.option (some index)) => n.selected.head? == some index
  | _ => false

/-- Whether the typed text is among the expected ones. -/
def rightText (n : Node) (settings : Settings) : Bool :=
  match n.expected, n.typedText? with
  | some (.texts accepted), some typed =>
    answerMatches settings.matching settings.trimAnswers accepted typed
  | _, _ => false

/-- The key under which a node of the given type and threshold is left. -/
def transitionKey (task : Option TaskType) (n : Node) (threshold : Nat) (settings : Settings) :
    String :=
  match task with
  | some .checklist => yesNo (threshold ≤ n.selectedCount)
  | some .link => n.selectedKey?.getD anyKey
  | some .radioButtonsWithAnswer => yesNo (rightOption n)
  | some .textFieldWithAnswer | some .textAreaWithAnswer => yesNo (rightText n settings)
  | _ => anyKey

/-- The key under which a stop is left. -/
def Stop.key (s : Stop) (settings : Settings) : String :=
  transitionKey s.task s.node s.threshold settings

/-- The name of the node to which the answer leads, if any. -/
def Stop.next? (s : Stop) (settings : Settings) : Option String :=
  s.exits.get? (s.key settings)

/-- Whether the stop offers a choice and none was made.  A checklist may stay without ticks. -/
def Stop.awaitsChoice (s : Stop) : Bool :=
  s.task != some .checklist && s.node.hasSelection && s.node.selectedCount == 0

end Walkthrough
