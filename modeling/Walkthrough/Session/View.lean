import Walkthrough.Ink
import Walkthrough.Moment.Written
import Walkthrough.Walk.Basic

/-!
# What is shown of a walk

At each stop the player sees the blocks of the node, the hints for the words in its texts, and a
reminder of what can be entered.  Everything is lines of text, in inks where the terminal has
colors.
-/

namespace Walkthrough

/-- The mark in front of an option that can be chosen. -/
def choiceMark (colored chosen : Bool) : String :=
  if chosen then Ink.green.paint colored "(*)" else Ink.dim.paint colored "( )"

/-- The mark in front of an option that can be ticked. -/
def tickMark (colored ticked : Bool) : String :=
  if ticked then Ink.green.paint colored "[x]" else Ink.dim.paint colored "[ ]"

/-- The lines of options, each with its mark and its number. -/
def optionLines (colored : Bool) (mark : Bool → String) (isMarked : Nat → Bool)
    (options : List String) : List String :=
  options.zipIdx.map fun (label, i) =>
    "  " ++ mark (isMarked i) ++ " " ++ Ink.cyan.paint colored (toString (i + 1)) ++ ") " ++ label

/-- What a text input is called. -/
def LineMode.label : LineMode → String
  | single => "answer"
  | multiple => "notes"

/-- The lines of a block. -/
def Block.lines (colored : Bool) : Block → List String
  | text t => [Ink.bold.paint colored t]
  | image name path =>
    [Ink.dim.paint colored ("[image: " ++ path.getD (name ++ " (missing)") ++ "]")]
  | list items => items.map ("  " ++ ·)
  | choice options chosen =>
    optionLines colored (choiceMark colored) (fun i => chosen == some i) options
  | checks options ticked =>
    optionLines colored (tickMark colored) (fun i => ticked.contains i) options
  | input typed mode unit _ =>
    let unit := (unit.map (" " ++ ·)).getD ""
    [Ink.dim.paint colored ("[" ++ mode.label ++ ": " ++ typed ++ unit ++ "]")]
  | date value =>
    [Ink.dim.paint colored ("[date: " ++ (value.map Moment.exactText).getD "not set" ++ "]")]

/-- The line that explains a word. -/
def hintLine (colored : Bool) (hint : String × String) : String :=
  "💡 " ++ Ink.italic.paint colored hint.1 ++ ": " ++ hint.2

/-- What can be entered. -/
def reminder : String := "[number] choose  [text] answer  [enter] next  b back  q quit"

/-- Lines of text, each with its end. -/
def endLines (lines : List String) : String := String.join (lines.map (· ++ "\n"))

namespace Walk

/-- The line that says how many boxes of a checklist must be ticked. -/
def thresholdLines (w : Walk) (colored : Bool) : List String :=
  if w.stop.task = some .checklist then
    [Ink.dim.paint colored s!"Tick at least {w.stop.threshold} to continue on the main path"]
  else []

/-- The hints for the words in each text of the current node. -/
def hintLines (w : Walk) (colored : Bool) : List String :=
  (w.stop.node.texts.flatMap w.glossary.hintsIn).map (hintLine colored)

/-- What is shown of a walk at its current stop. -/
def view (w : Walk) (colored : Bool) : String :=
  endLines <|
    "" :: w.stop.node.blocks.flatMap (Block.lines colored) ++ w.thresholdLines colored ++
    w.hintLines colored ++ if w.atEnd then [] else [Ink.dim.paint colored reminder]

end Walk

end Walkthrough
