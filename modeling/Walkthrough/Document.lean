import Walkthrough.Language
import Walkthrough.Markup.Reader

/-!
# Documents

A tree document is an element called `process-definition` whose children declare the nodes: task
nodes, end states and decisions.  A node is known by its name alone, so a name that is declared
more than once has to be resolved: the first task node of the name wins, then the first end
state, then the first decision.  A document remembers where each name was first declared as a node
of each kind, so that no look-up has to go through all of its children.
-/

namespace Walkthrough

open Markup (Element)

/-- What a node is declared as. -/
inductive NodeKind
  | task
  | final
  | decision
  deriving DecidableEq, Repr

namespace NodeKind

/-- The kinds, in the order in which a name is resolved. -/
def precedence : List NodeKind := [task, final, decision]

/-- The name of the elements that declare nodes of the kind. -/
def tag : NodeKind → String
  | task => "task-node"
  | final => "end-state"
  | decision => "decision"

/-- The kind of node that elements of a name declare. -/
def ofTag? (tag : String) : Option NodeKind := precedence.find? fun k => k.tag == tag

end NodeKind

/-- A transition key that stands for every answer. -/
def anyKey : String := "Any"

/-! ### Declarations -/

/-- Where nodes are declared among the children of a root: for each kind of node, the position at
which each name was first declared. -/
structure Declarations where
  tasks : Table Nat
  finals : Table Nat
  decisions : Table Nat

namespace Declarations

/-- No declarations. -/
def none : Declarations := ⟨Table.empty, Table.empty, Table.empty⟩

/-- Where the nodes of one kind are declared. -/
def ofKind (ds : Declarations) : NodeKind → Table Nat
  | .task => ds.tasks
  | .final => ds.finals
  | .decision => ds.decisions

/-- The declarations with one more, of a kind and a name, at a position.  Only the first one of a
name counts. -/
def declare (ds : Declarations) (name : String) (position : Nat) : NodeKind → Declarations
  | .task => { ds with tasks := ds.tasks.insertNew name position }
  | .final => { ds with finals := ds.finals.insertNew name position }
  | .decision => { ds with decisions := ds.decisions.insertNew name position }

/-- The declarations with that of an element at a position, if it is one. -/
def add (ds : Declarations) (e : Element) (position : Nat) : Declarations :=
  match NodeKind.ofTag? e.name, e.attribute? "name" with
  | some kind, some name => ds.declare name position kind
  | _, _ => ds

/-- The declarations among the children of a root. -/
def ofChildren (children : List Element) : Declarations :=
  children.zipIdx.foldl (fun ds child => ds.add child.1 child.2) none

end Declarations

/-- A tree document. -/
structure Document where
  root : Element
  root_name : root.name = "process-definition"
  declarations : Declarations := Declarations.ofChildren root.children
  declarations_eq : declarations = Declarations.ofChildren root.children := by rfl

namespace Document

/-- The document with a root element, if that is one for documents. -/
def ofRoot? (root : Element) : Option Document :=
  if h : root.name = "process-definition" then some { root := root, root_name := h } else none

/-- The language of the document's texts. -/
def baseLanguage (d : Document) : String :=
  let named := Text.trim ((d.root.attribute? "lang").getD "")
  if named.isEmpty then Language.default else named

/-- The name of the node at which a walk starts. -/
def start? (d : Document) : Option String := do
  let start ← d.root.firstChild? "start-state"
  let transition ← start.firstChild? "transition"
  let target ← transition.attribute? "to"
  if target.isEmpty then none else some target

/-- The node that a name resolves to: its kind and the element that declares it. -/
def find? (d : Document) (name : String) : Option (NodeKind × Element) :=
  NodeKind.precedence.findSome? fun kind => do
    let position ← (d.declarations.ofKind kind).get? name
    let e ← d.root.children[position]?
    return (kind, e)

/-- The kind of the node that a name resolves to. -/
def kind? (d : Document) (name : String) : Option NodeKind := (d.find? name).map Prod.fst

/-- Whether a name resolves to a node. -/
def contains (d : Document) (name : String) : Bool := (d.find? name).isSome

/-- Whether a name resolves to an end state. -/
def isFinal (d : Document) (name : String) : Bool := d.kind? name == some .final

/-- The declarations of the document in order, each with its kind and its name. -/
def nodeNames (d : Document) : List (NodeKind × String) :=
  d.root.children.filterMap fun e => do
    return (← NodeKind.ofTag? e.name, ← e.attribute? "name")

end Document

/-- The transitions that an element declares, from keys to names of nodes.  One without a key is
taken for every answer, and one without a target leads nowhere. -/
def transitionsOf (e : Element) : Table String :=
  Table.ofList <| (e.childrenNamed "transition").map fun t =>
    ((t.attribute? "name").getD anyKey, (t.attribute? "to").getD "")

/-- The names of the tasks that an element declares. -/
def taskNamesOf (e : Element) : List String :=
  (e.childrenNamed "task").filterMap fun t => t.attribute? "name"

end Walkthrough
