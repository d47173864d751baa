import Walkthrough.Moment.Reader
import Walkthrough.Walk.Basic

/-!
# What a line means

A walk is played line by line.  Three lines are commands: an empty line moves on, the letter b goes
back and the letter q quits.  Every other line is an answer to the current node, and what kind of
answer the node asks for decides how the line is read; the zone of the machine has a say if that is
a date.  An answer that is complete also moves on, except on a checklist, where boxes can be ticked
line after line.
-/

namespace Walkthrough

/-- Why a line is not followed. -/
inductive Refusal
  | unknownOption (entered : String)
  | notNumber
  | notDate
  /-- The node does not ask for anything. -/
  | nothingAsked
  | choiceMissing
  | noWay
  | atStart
  deriving DecidableEq, Repr

/-- What is said when a line is not followed. -/
def Refusal.message : Refusal → String
  | unknownOption entered => s!"No option '{entered}'"
  | notNumber => "Enter a number"
  | notDate => "Enter a date as YYYY-MM-DD"
  | nothingAsked => "Press Enter to continue"
  | choiceMissing => "Choose an option first"
  | noWay => "No way forward from here"
  | atStart => "Already at the first node"

/-- What a line asks for. -/
inductive Reply
  | quit
  | back
  | onward
  /-- To give the node this answer and to move on. -/
  | answer (n : Node)
  /-- To give the node this answer and to stay. -/
  | tick (n : Node)
  | refuse (r : Refusal)

/-! ### Reading answers -/

/-- The index of the option that a number stands for; options are numbered from one. -/
def optionIndex? (s : String) : Option Nat :=
  match Text.count? s with
  | some (n + 1) => some n
  | _ => none

/-- The parts of a line between commas and spaces. -/
def optionNumbers (line : String) : List String :=
  ((Text.piecesOf (fun c => c == ',' || c == ' ') line.toList).map String.ofList).filter
    fun part => !part.isEmpty

/-- The index that a part of a line stands for, among `count` options. -/
def readOption (count : Nat) (part : String) : Except Refusal Nat :=
  match optionIndex? part with
  | some index => if index < count then .ok index else .error (.unknownOption part)
  | none => .error (.unknownOption part)

namespace Node

/-- The node with options toggled in turn. -/
def toggleAll (n : Node) (indices : List Nat) : Node :=
  indices.foldl (fun n index => (n.toggle? index).getD n) n

/-- Whether the node asks for a number. -/
def isNumeric (n : Node) : Bool :=
  n.blocks.any fun
    | .input _ _ _ numeric => numeric
    | _ => false

/-- The reply of a line with numbers to a checklist.  Unless every number is that of an option,
nothing is ticked. -/
def tickReply (n : Node) (line : String) : Reply :=
  match (optionNumbers line).mapM (readOption ((n.options?.getD []).length)) with
  | .ok indices => .tick (n.toggleAll indices)
  | .error r => .refuse r

/-- The reply of a line with a number to a node that offers a choice. -/
def chooseReply (n : Node) (line : String) : Reply :=
  match (optionIndex? line).bind fun index => n.select? index with
  | some chosen => .answer chosen
  | none => .refuse (.unknownOption line)

/-- The reply of a line to a node that asks for a text. -/
def writeReply (n : Node) (line : String) : Reply :=
  if n.isNumeric && !Text.isDecimal line then .refuse .notNumber
  else .answer ((n.write? line).getD n)

/-- The reply of a line to a node that asks for a date. -/
def dateReply (zone : Zone) (n : Node) (line : String) : Reply :=
  match Moment.ofTyped? zone line with
  | some date => .answer ((n.setDate? date).getD n)
  | none => .refuse .notDate

end Node

/-- The reply of a line that is no command to a stop. -/
def Stop.answerReply (zone : Zone) (s : Stop) (line : String) : Reply :=
  if s.task = some .checklist then s.node.tickReply line
  else if s.node.hasSelection then s.node.chooseReply line
  else if s.node.typedText?.isSome then s.node.writeReply line
  else if s.task = some .date then s.node.dateReply zone line
  else .refuse .nothingAsked

/-- The reply of a line to a stop. -/
def Stop.reply (zone : Zone) (s : Stop) (line : String) : Reply :=
  match line with
  | "q" => .quit
  | "b" => .back
  | "" => .onward
  | _ => s.answerReply zone line

/-! ### Following replies -/

namespace Walk

/-- The walk moved on, with the answer given so far put on record; or the walk as it was, and why
it stays. -/
def proceed (w : Walk) : Walk × Option Refusal :=
  if w.stop.awaitsChoice then (w, some .choiceMissing)
  else if !w.canAdvance then (w, some .noWay)
  else
    -- the answer is put on record before the walk leaves the node
    match w.save.next? with
    | some further => (further, none)
    | none => (w.save, some .noWay)

/-- The walk after a line is entered, and why the line is not followed if it is not; nothing if
the player quits. -/
def enter? (zone : Zone) (w : Walk) (line : String) : Option (Walk × Option Refusal) :=
  match w.stop.reply zone (Text.trim line) with
  | .quit => none
  | .back =>
    match w.previous? with
    | some earlier => some (earlier, none)
    | none => some (w, some .atStart)
  | .onward => some w.proceed
  | .answer n => some (w.withNode n).proceed
  | .tick n => some (w.withNode n, none)
  | .refuse r => some (w, some r)

end Walk

end Walkthrough
