import Mathlib.Data.List.Basic
import Mathlib.Data.List.Perm.Basic
import Walkthrough.Document
import Walkthrough.Proofs.Tables

/-!
# Looking up a name

A document looks a name up in tables of positions, which are filled while its children are gone
through once.  This file says what that finds: for each kind of node, the position of the first
child that declares one of the name, so that a look-up is a search through the children, once for
each kind.  What a name resolves to is thus also seen in the list of all declarations: it is a node
just if it is listed, and of the kind that comes first among those under which it is listed.
-/

namespace Walkthrough

open Markup (Element)

/-! ### What an element declares -/

namespace NodeKind

lemma ofTag?_eq_some {tag : String} {kind : NodeKind} :
    ofTag? tag = some kind ↔ tag = kind.tag := by
  constructor
  · intro h
    have hsame := List.find?_some (p := fun k : NodeKind => k.tag == tag) h
    exact (beq_iff_eq.1 hsame).symm
  · rintro rfl
    cases kind <;> rfl

lemma mem_precedence (kind : NodeKind) : kind ∈ precedence := by
  cases kind <;> decide

end NodeKind

/-- Whether an element declares a node of a kind and a name. -/
def Document.declares (kind : NodeKind) (name : String) (e : Element) : Bool :=
  e.name == kind.tag && e.attribute? "name" == some name

lemma Document.declares_eq_true {kind : NodeKind} {name : String} {e : Element} :
    declares kind name e = true ↔
      NodeKind.ofTag? e.name = some kind ∧ e.attribute? "name" = some name := by
  rw [declares, Bool.and_eq_true, beq_iff_eq, beq_iff_eq, NodeKind.ofTag?_eq_some]

/-! ### The tables of positions -/

namespace Declarations

open Document (declares declares_eq_true)

variable {kind : NodeKind} {name : String}

lemma get?_none : (none.ofKind kind).get? name = Option.none := by
  cases kind <;> rfl

lemma get?_declare (ds : Declarations) (name' : String) (position : Nat) (kind' : NodeKind) :
    ((ds.declare name' position kind').ofKind kind).get? name =
      ((ds.ofKind kind).get? name).or
        (if kind' = kind ∧ name' = name then some position else Option.none) := by
  cases kind' <;> cases kind <;> simp [declare, ofKind, Table.get?_insertNew]

/-- An element adds its position if it declares a node whose name is not declared yet. -/
lemma get?_add (ds : Declarations) (e : Element) (position : Nat) :
    ((ds.add e position).ofKind kind).get? name =
      ((ds.ofKind kind).get? name).or
        (if declares kind name e then some position else Option.none) := by
  simp only [declares_eq_true]
  rw [add]
  split
  · next kind' name' hkind hname => simp [get?_declare, hkind, hname]
  · next hother =>
    have hnot : ¬ (NodeKind.ofTag? e.name = some kind ∧ e.attribute? "name" = some name) :=
      fun h => hother kind name h.1 h.2
    rw [if_neg hnot, Option.or_none]

/-- Going through children that stand from position `n` on adds the first that declares the
name. -/
lemma get?_foldl (ds : Declarations) (children : List Element) (n : Nat) :
    (((children.zipIdx n).foldl (fun ds child => ds.add child.1 child.2) ds).ofKind kind).get?
        name =
      ((ds.ofKind kind).get? name).or
        ((children.findIdx? (declares kind name)).map (· + n)) := by
  induction children generalizing ds n with
  | nil => simp
  | cons e children ih =>
    rw [List.zipIdx_cons, List.foldl_cons, ih, get?_add, List.findIdx?_cons, Option.or_assoc]
    split_ifs with he
    · simp
    · rw [Option.none_or, Option.map_map]
      congr 2
      funext i
      exact Nat.add_right_comm i n 1

lemma get?_ofChildren (children : List Element) :
    ((ofChildren children).ofKind kind).get? name = children.findIdx? (declares kind name) := by
  rw [ofChildren, get?_foldl, get?_none, Option.none_or]
  exact Option.map_id'

end Declarations

/-! ### What is found -/

namespace Document

variable {d : Document} {kind : NodeKind} {name : String}

/-- The first child in document order that declares a node of a kind and a name. -/
def first? (d : Document) (kind : NodeKind) (name : String) : Option (NodeKind × Element) :=
  (d.root.children.find? (declares kind name)).map fun e => (kind, e)

lemma get?_declarations (d : Document) (kind : NodeKind) (name : String) :
    (d.declarations.ofKind kind).get? name = d.root.children.findIdx? (declares kind name) := by
  rw [d.declarations_eq, Declarations.get?_ofChildren]

/-- A look-up is a search through the children for each kind in turn. -/
lemma find?_eq_findSome? (d : Document) (name : String) :
    d.find? name = NodeKind.precedence.findSome? fun kind => d.first? kind name := by
  rw [find?]
  congr 1
  funext kind
  rw [get?_declarations, first?, List.find?_eq_bind_findIdx?_getElem?]
  cases d.root.children.findIdx? (declares kind name) with
  | none => rfl
  | some position =>
    simp only [Option.bind_eq_bind, Option.bind_some]
    cases d.root.children[position]? <;> rfl

/-- Every position that is kept is that of a child, the first that declares the name. -/
lemma exists_getElem? {position : Nat}
    (h : (d.declarations.ofKind kind).get? name = some position) :
    ∃ e, d.root.children[position]? = some e ∧ d.first? kind name = some (kind, e) := by
  rw [get?_declarations] at h
  obtain ⟨hlt, -⟩ := List.findIdx?_eq_some_iff_getElem.1 h
  refine ⟨d.root.children[position], List.getElem?_eq_getElem hlt, ?_⟩
  rw [first?, List.find?_eq_bind_findIdx?_getElem?, h, Option.bind_some,
    List.getElem?_eq_getElem hlt, Option.map_some]

/-! ### What is listed -/

lemma mem_nodeNames : (kind, name) ∈ d.nodeNames ↔ (d.first? kind name).isSome = true := by
  rw [first?, Option.isSome_map, List.find?_isSome, nodeNames, List.mem_filterMap]
  simp [declares_eq_true, Option.bind_eq_some_iff]

lemma fst_first? (d : Document) (kind : NodeKind) (name : String) :
    (d.first? kind name).map Prod.fst =
      Option.guard (fun kind => decide ((kind, name) ∈ d.nodeNames)) kind := by
  rw [Option.guard]
  simp only [mem_nodeNames, first?, Option.isSome_map, Option.map_map, Bool.decide_eq_true]
  cases d.root.children.find? (declares kind name) <;> rfl

/-- The kind of a node is the first under which its name is listed. -/
lemma kind?_eq_find? (d : Document) (name : String) :
    d.kind? name =
      NodeKind.precedence.find? fun kind => decide ((kind, name) ∈ d.nodeNames) := by
  rw [kind?, find?_eq_findSome?, List.map_findSome?, List.find?_eq_findSome?_guard]
  congr 1
  funext kind
  exact d.fst_first? kind name

lemma contains_iff : d.contains name = true ↔ ∃ kind, (kind, name) ∈ d.nodeNames := by
  have hkind : d.contains name = (d.kind? name).isSome := by
    rw [contains, kind?, Option.isSome_map]
  rw [hkind, kind?_eq_find?, List.find?_isSome]
  simp [NodeKind.mem_precedence]

/-- Looking up a name gives the first child in document order that declares a task node of the name,
or else the first that declares an end state, or else the first that declares a decision; and the
positions through which it is found are all positions of children.  So a name is that of a node just
if it stands in the list of declarations, and the kind of the node is the first in precedence under
which the name stands there, in whatever order these stand. -/
theorem find?_eq_first (d : Document) (name : String) :
    d.find? name =
      (d.first? .task name).or ((d.first? .final name).or (d.first? .decision name)) ∧
    (∀ kind position, (d.declarations.ofKind kind).get? name = some position →
      ∃ e, d.root.children[position]? = some e ∧ d.first? kind name = some (kind, e)) ∧
    (d.contains name = true ↔ name ∈ d.nodeNames.map Prod.snd) ∧
    d.kind? name =
      NodeKind.precedence.find? (fun kind => decide ((kind, name) ∈ d.nodeNames)) ∧
    ∀ d' : Document, d'.nodeNames.Perm d.nodeNames → d'.kind? name = d.kind? name := by
  refine ⟨?_, fun _ _ => exists_getElem?, ?_, d.kind?_eq_find? name, fun d' hperm => ?_⟩
  · rw [find?_eq_findSome?]
    simp only [NodeKind.precedence, List.findSome?_cons, List.findSome?_nil]
    cases d.first? .task name <;> cases d.first? .final name <;>
      cases d.first? .decision name <;> rfl
  · rw [contains_iff, List.mem_map]
    constructor
    · rintro ⟨kind, hlisted⟩
      exact ⟨(kind, name), hlisted, rfl⟩
    · rintro ⟨⟨kind, _⟩, hlisted, rfl⟩
      exact ⟨kind, hlisted⟩
  · rw [kind?_eq_find?, kind?_eq_find?]
    congr 1
    funext kind
    exact decide_eq_decide.2 hperm.mem_iff

/-- A task node goes before an end state, and that before a decision, in whatever order they
stand. -/
example :
    let named (tag : String) : Element := ⟨tag, Table.empty.insert "name" "Ask", [], ""⟩
    let d : Document := {
      root := ⟨"process-definition", Table.empty,
        [named "decision", named "end-state", named "task-node"], ""⟩
      root_name := rfl }
    d.kind? "Ask" = some .task ∧ d.nodeNames.map Prod.fst = [.decision, .final, .task] := by
  decide +kernel

end Document

end Walkthrough
