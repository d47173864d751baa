import Walkthrough.Node
import Walkthrough.TaskType

/-!
# Records

Each time a walk moves forward, the answer given at the node it leaves is put on record, together
with the task type of the node and the key under which it was left.
-/

namespace Walkthrough

/-- What a node was answered with.  A part is missing where the node does not ask for it. -/
structure Answer where
  selected : Option (List Nat)
  text : Option String
  date : Option Moment
  deriving DecidableEq, Repr

/-- No answer. -/
def Answer.none : Answer := ⟨.none, .none, .none⟩

/-- The answer that a node holds. -/
def Node.answer (n : Node) : Answer where
  selected := if n.hasSelection then some n.selected else none
  text := n.typedText?
  date := n.date?

/-- The record of an answered node. -/
structure Record where
  key : String
  task : Option TaskType
  answer : Answer
  deriving DecidableEq, Repr

end Walkthrough
