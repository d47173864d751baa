import Walkthrough.Error
import Walkthrough.Record.Basic
import Walkthrough.Routing
import Walkthrough.Tree.Basic

/-!
# Walks

A walk moves over a tree from stop to stop.  It knows where it is and by which nodes it came, it
holds the answers that are being given at the current stop, and it keeps the records of the
answers given before.  A stop is built when the walk arrives, be it forward, backward or by a
change of language, so answers that were not put on record are lost when it moves.  Hints are loaded
when a language is chosen, and are held from then on.

The clock is part of the walk.  Nothing here changes it; who plays the walk sets it.
-/

namespace Walkthrough

/-- A walk over a tree. -/
structure Walk where
  tree : Tree
  now : Moment
  language : String
  /-- The hints that were loaded for the current language. -/
  glossary : Glossary
  /-- The nodes visited before the current one, latest first. -/
  past : List String
  /-- The name of the current node. -/
  here : String
  /-- The current stop, with the answers given so far. -/
  stop : Stop
  records : List Record

namespace Walk

/-- The walk that starts at a node, if there is one of that name. -/
def startAt? (t : Tree) (now : Moment) (name : String) : Option Walk :=
  (t.stop? now t.firstLanguage name).map fun stop =>
    { tree := t, now := now, language := t.firstLanguage,
      glossary := t.glossary t.firstLanguage, past := [], here := name, stop := stop,
      records := [] }

/-- The walk that starts where the document says. -/
def start (t : Tree) (now : Moment) : Except Error Walk :=
  match t.document.start? with
  | none => .error .noStart
  | some name =>
    match startAt? t now name with
    | some w => .ok w
    | none => .error (.startNotFound name)

/-! ### Where the walk is -/

/-- The names of the nodes visited, oldest first; the last one is the current node. -/
def history (w : Walk) : List String := w.past.reverse ++ [w.here]

/-- Whether the walk has reached an end state. -/
def atEnd (w : Walk) : Bool := w.stop.kind == .final

/-- The transition key of the answer given so far. -/
def key (w : Walk) : String := w.stop.key w.tree.settings

/-- The name of the node to which the answer given so far leads. -/
def nextName? (w : Walk) : Option String := w.stop.next? w.tree.settings

/-- Whether the answer given so far leads to a node of the document. -/
def canAdvance (w : Walk) : Bool := w.nextName?.any w.tree.document.contains

/-- Whether the answer given so far leads to an end state. -/
def leadsToEnd (w : Walk) : Bool := w.nextName?.any w.tree.document.isFinal

/-- Whether there is a node to go back to. -/
def canReturn (w : Walk) : Bool := !w.past.isEmpty

/-! ### Moving -/

/-- The stop at a node, built afresh for the walk. -/
def build? (w : Walk) (name : String) : Option Stop := w.tree.stop? w.now w.language name

/-- The walk one node further, if the answer given so far leads to one. -/
def next? (w : Walk) : Option Walk := do
  let name ← w.nextName?
  let stop ← w.build? name
  return { w with past := w.here :: w.past, here := name, stop := stop }

/-- The walk one node back, unless it is at its first node. -/
def previous? (w : Walk) : Option Walk :=
  match w.past with
  | [] => none
  | name :: past =>
    (w.build? name).map fun stop => { w with past := past, here := name, stop := stop }

/-- The walk in another language, at the same node.  The hints in that language are loaded. -/
def speak (w : Walk) (language : String) : Walk :=
  let w := { w with language := language, glossary := w.tree.glossary language }
  { w with stop := (w.build? w.here).getD w.stop }

/-- The walk with its clock set. -/
def setClock (w : Walk) (now : Moment) : Walk := { w with now := now }

/-! ### Answering -/

/-- The walk with another node at the current stop. -/
def withNode (w : Walk) (n : Node) : Walk := { w with stop := { w.stop with node := n } }

/-- The walk with its node answered, if `f` takes the answer. -/
def answer? (f : Node → Option Node) (w : Walk) : Option Walk := (f w.stop.node).map w.withNode

/-- The record of the answer given so far. -/
def record (w : Walk) : Record := ⟨w.key, w.stop.task, w.stop.node.answer⟩

/-- The walk with the answer given so far put on record. -/
def save (w : Walk) : Walk := { w with records := w.records ++ [w.record] }

end Walk

end Walkthrough
