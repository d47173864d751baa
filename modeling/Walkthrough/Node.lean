import Walkthrough.Ascending
import Walkthrough.Moment.Basic

/-!
# Nodes

A node is what the player sees at one place of a walk: a list of blocks to read, and blocks to
answer by a choice, by ticks, by a text or by a date.  Building a node leaves its answers open;
this file says how they are filled in and read off.  An attempt to answer where there is nothing
to answer is refused, which the functions show by giving no node.
-/

namespace Walkthrough

/-- How many lines a text input takes. -/
inductive LineMode
  | single
  | multiple
  deriving DecidableEq, Repr

/-- The smallest part of a node that is shown or answered. -/
inductive Block
  | text (text : String)
  /-- An image by name, with the path of its file if there is one. -/
  | image (name : String) (path : Option String)
  | list (items : List String)
  /-- Options of which one can be chosen. -/
  | choice (options : List String) (chosen : Option Nat)
  /-- Options of which any number can be ticked; the ticked ones are in ascending order. -/
  | checks (options : List String) (ticked : List Nat)
  | input (text : String) (mode : LineMode) (unit : Option String) (numeric : Bool)
  | date (value : Option Moment)
  deriving DecidableEq, Repr

namespace Block

/-- Whether the block offers options to choose or tick. -/
def isSelection : Block → Bool
  | choice _ _ | checks _ _ => true
  | _ => false

/-- The items that the block lists or offers. -/
def options? : Block → Option (List String)
  | list items => some items
  | choice options _ => some options
  | checks options _ => some options
  | _ => none

/-- The indices of the options that are chosen or ticked. -/
def selected : Block → List Nat
  | choice _ chosen => chosen.toList
  | checks _ ticked => ticked
  | _ => []

/-- The text that the block displays. -/
def shownText? : Block → Option String
  | text t => some t
  | _ => none

/-- The text that was typed into the block. -/
def typedText? : Block → Option String
  | input t _ _ _ => some t
  | _ => none

/-- The date that was given to the block. -/
def date? : Block → Option Moment
  | date value => value
  | _ => none

/-- The block with an option chosen. -/
def select? (index : Nat) : Block → Option Block
  | choice options _ =>
    if index < options.length then some (choice options (some index)) else none
  | _ => none

/-- The block with an option ticked, or its tick removed. -/
def toggle? (index : Nat) : Block → Option Block
  | checks options ticked =>
    if index < options.length then some (checks options (Ascending.toggle index ticked)) else none
  | _ => none

/-- The block without chosen and ticked options. -/
def clear : Block → Block
  | choice options _ => choice options none
  | checks options _ => checks options []
  | b => b

/-- The block with a text typed in. -/
def write? (typed : String) : Block → Option Block
  | input _ mode unit numeric => some (input typed mode unit numeric)
  | _ => none

/-- The block with a date. -/
def setDate? (value : Moment) : Block → Option Block
  | date _ => some (date (some value))
  | _ => none

end Block

/-- The answer that a node expects without showing it. -/
inductive ExpectedAnswer
  /-- The index of the right option, if the document gives a number. -/
  | option (index : Option Nat)
  /-- The texts that are accepted. -/
  | texts (accepted : List String)
  deriving DecidableEq, Repr

/-- The files that accompany a node. -/
structure Media where
  backgroundImage : Option String
  backgroundAudio : Option String
  narration : Option String
  deriving DecidableEq, Repr

/-- No files. -/
def Media.none : Media := ⟨.none, .none, .none⟩

/-- A node: its blocks, the transition key of each option where options lead to different nodes,
the expected answer, and the files that accompany it. -/
structure Node where
  blocks : List Block
  optionKeys : List String
  expected : Option ExpectedAnswer
  media : Media
  deriving DecidableEq, Repr

/-- The list with the first element that `f` changes changed, if there is one. -/
def changeFirst? {α : Type} (f : α → Option α) : List α → Option (List α)
  | [] => none
  | x :: xs =>
    match f x with
    | some y => some (y :: xs)
    | none => (changeFirst? f xs).map (x :: ·)

namespace Node

/-- The node that consists of blocks alone. -/
def ofBlocks (blocks : List Block) : Node := ⟨blocks, [], none, Media.none⟩

/-! ### Reading a node -/

/-- The texts that the node displays. -/
def texts (n : Node) : List String := n.blocks.filterMap Block.shownText?

/-- The items of the first block that lists or offers some. -/
def options? (n : Node) : Option (List String) := n.blocks.findSome? Block.options?

/-- Whether the node offers options to choose or tick. -/
def hasSelection (n : Node) : Bool := n.blocks.any Block.isSelection

/-- The indices of the chosen and ticked options. -/
def selected (n : Node) : List Nat := n.blocks.flatMap Block.selected

/-- How many options are chosen or ticked. -/
def selectedCount (n : Node) : Nat := n.selected.length

/-- The transition key of the first chosen option. -/
def selectedKey? (n : Node) : Option String := n.selected.head?.bind (n.optionKeys[·]?)

/-- The text in the first text input. -/
def typedText? (n : Node) : Option String := n.blocks.findSome? Block.typedText?

/-- The first date that was given. -/
def date? (n : Node) : Option Moment := n.blocks.findSome? Block.date?

/-! ### Answering a node -/

/-- The node with its first block that `f` changes changed. -/
def change? (f : Block → Option Block) (n : Node) : Option Node :=
  (changeFirst? f n.blocks).map fun blocks => { n with blocks := blocks }

/-- The node with an option chosen. -/
def select? (index : Nat) (n : Node) : Option Node := n.change? (Block.select? index)

/-- The node with an option ticked, or its tick removed. -/
def toggle? (index : Nat) (n : Node) : Option Node := n.change? (Block.toggle? index)

/-- The node without chosen and ticked options. -/
def clear (n : Node) : Node := { n with blocks := n.blocks.map Block.clear }

/-- The node with a text typed into its first text input. -/
def write? (typed : String) (n : Node) : Option Node := n.change? (Block.write? typed)

/-- The node with a date given to its first date block. -/
def setDate? (value : Moment) (n : Node) : Option Node := n.change? (Block.setDate? value)

end Node

end Walkthrough
