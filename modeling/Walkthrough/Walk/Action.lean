import Walkthrough.Walk.Basic

/-!
# Actions on a walk

Whoever plays a walk has nine ways to act on it.  Each is refused or done, and a refused action
leaves the walk as it was; a script is a list of actions that are taken in turn, each at the moment
that the clock then shows.
-/

namespace Walkthrough

/-- An action on a walk. -/
inductive Action
  | select (index : Nat)
  | toggle (index : Nat)
  | clear
  | write (text : String)
  | setDate (value : Moment)
  | advance
  | goBack
  | speak (language : String)
  | save
  deriving DecidableEq, Repr

namespace Action

/-- The walk after an action, unless that is refused. -/
def perform? (w : Walk) : Action → Option Walk
  | select index => w.answer? (Node.select? index)
  | toggle index => w.answer? (Node.toggle? index)
  | clear => some (w.withNode w.stop.node.clear)
  | write text => w.answer? (Node.write? text)
  | setDate value => w.answer? (Node.setDate? value)
  | advance => w.next?
  | goBack => w.previous?
  | speak language => some (w.speak language)
  | save => some w.save

/-- The walk after an action, which is the same if the action is refused. -/
def perform (w : Walk) (a : Action) : Walk := (a.perform? w).getD w

/-- The walk after a script, whose actions stand beside the moments at which they are taken. -/
def run (w : Walk) (script : List (Moment × Action)) : Walk :=
  script.foldl (fun w step => step.2.perform (w.setClock step.1)) w

end Action

end Walkthrough
