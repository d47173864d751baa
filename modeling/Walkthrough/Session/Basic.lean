import Walkthrough.Session.Reply
import Walkthrough.Session.View

/-!
# Sessions

A session plays a walk on the lines that are entered, until the walk reaches an end state, the
player quits or no line is left.  What is shown is part of the result, so that a session is a
function of the zone of the machine, the walk and the lines.
-/

namespace Walkthrough

/-- How a session ends. -/
inductive Outcome
  | finished
  | quit
  deriving DecidableEq, Repr

/-- What is shown when a line is awaited. -/
def prompt : String := "> "

/-- What is shown when a line is not followed. -/
def warning (colored : Bool) : Option Refusal → String
  | some r => Ink.yellow.paint colored r.message ++ "\n"
  | none => ""

/-- The result of a session: how it ended, all that was shown, and the walk as it then was. -/
structure Session where
  outcome : Outcome
  output : String
  walk : Walk

namespace Session

/-- The session on a walk with the given lines, which stand beside the moments at which they are
entered. -/
def playAt (zone : Zone) (colored : Bool) (w : Walk) : List (Moment × String) → Session
  | [] =>
    if w.atEnd then ⟨.finished, w.view colored, w⟩
    else ⟨.quit, w.view colored ++ prompt, w⟩
  | (now, line) :: rest =>
    if w.atEnd then ⟨.finished, w.view colored, w⟩
    else
      match (w.setClock now).enter? zone line with
      | none => ⟨.quit, w.view colored ++ prompt, w⟩
      | some (w', refusal) =>
        let later := playAt zone colored w' rest
        { later with
          output := w.view colored ++ prompt ++ warning colored refusal ++ later.output }

/-- The session on a walk with the given lines, all of them entered while the clock stands still; at
universal time unless another zone is given. -/
def play (colored : Bool) (w : Walk) (lines : List String) (zone : Zone := .universal) : Session :=
  playAt zone colored w (lines.map fun line => (w.now, line))

end Session

/-- The lines of a text.  A line break at the end does not start another line. -/
def textLines (s : String) : List String :=
  let pieces := Text.pieces '\n' s
  if pieces.getLast? = some "" then pieces.dropLast else pieces

end Walkthrough
