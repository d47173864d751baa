import Mathlib.Data.List.Basic
import Mathlib.Data.Nat.Basic
import Walkthrough.Proofs.Ascending
import Walkthrough.Node

/-!
# What an answer changes

Answering a node fills in one of its blocks.  What the node asks, which is all of it but the places
for answers, stays as it is, and what is filled in stays legal: an option that is chosen or ticked
is one of those offered, and the ticked ones are in ascending order.

The ways of answering go through `Node.change?`, so each of them is a fact about a single block,
and this file carries such facts from the block to the node.
-/

namespace Walkthrough

/-- A list in which the first possible element was changed, cut at the place of the change. -/
lemma changeFirst?_eq_some {α : Type} {f : α → Option α} {l l' : List α}
    (h : changeFirst? f l = some l') :
    ∃ front x y back, l = front ++ x :: back ∧ f x = some y ∧ l' = front ++ y :: back := by
  induction l generalizing l' with
  | nil => exact absurd h (by simp [changeFirst?])
  | cons x xs ih =>
    rw [changeFirst?] at h
    cases hx : f x with
    | some y =>
      rw [hx] at h
      obtain rfl := Option.some.inj h
      exact ⟨[], x, y, xs, rfl, hx, rfl⟩
    | none =>
      rw [hx] at h
      obtain ⟨ys, hys, rfl⟩ := Option.map_eq_some_iff.1 h
      obtain ⟨front, z, z', back, rfl, hz, rfl⟩ := ih hys
      exact ⟨x :: front, z, z', back, rfl, hz, rfl⟩

/-! ### Blocks -/

namespace Block

/-- The block without its answer. -/
def unanswered : Block → Block
  | choice options _ => choice options none
  | checks options _ => checks options []
  | input _ mode unit numeric => input "" mode unit numeric
  | date _ => date none
  | b => b

/-- How many items the block lists or offers. -/
def optionCount (b : Block) : Nat := (b.options?.getD []).length

@[simp] lemma options?_unanswered (b : Block) : b.unanswered.options? = b.options? := by
  cases b <;> rfl

lemma selected_eq_nil_of_options? {b : Block} (h : b.options? = none) : b.selected = [] := by
  cases b with
  | choice options chosen => exact absurd h (by simp [options?])
  | checks options ticked => exact absurd h (by simp [options?])
  | _ => rfl

/-- What is chosen or ticked is offered, in ascending order, and not more than one is chosen. -/
structure Legal (b : Block) : Prop where
  lt_optionCount : ∀ i ∈ b.selected, i < b.optionCount
  ascending : b.selected.Pairwise (· < ·)

lemma legal_of_selected_eq_nil {b : Block} (h : b.selected = []) : b.Legal := by
  constructor <;> simp [h]

/-- A way of answering a block: it changes nothing but the answer, and a legal block stays so. -/
structure Answers (f : Block → Option Block) : Prop where
  unanswered_eq : ∀ {b b'}, f b = some b' → b'.unanswered = b.unanswered
  legal : ∀ {b b'}, f b = some b' → b.Legal → b'.Legal

lemma answers_select? (index : Nat) : Answers (select? index) := by
  constructor <;> intro b b' h <;> cases b <;>
    simp only [select?, Option.ite_none_right_eq_some, Option.some.injEq, reduceCtorEq] at h
  · obtain ⟨-, rfl⟩ := h
    rfl
  · obtain ⟨hlt, rfl⟩ := h
    intro _
    refine ⟨fun i hi => ?_, List.pairwise_singleton _ _⟩
    obtain rfl := List.mem_singleton.1 hi
    exact hlt

lemma answers_toggle? (index : Nat) : Answers (toggle? index) := by
  constructor <;> intro b b' h <;> cases b <;>
    simp only [toggle?, Option.ite_none_right_eq_some, Option.some.injEq, reduceCtorEq] at h
  · obtain ⟨-, rfl⟩ := h
    rfl
  · obtain ⟨hlt, rfl⟩ := h
    intro hb
    refine ⟨fun i hi => ?_, Ascending.pairwise_toggle hb.ascending⟩
    by_cases he : i = index
    · exact he ▸ hlt
    · exact hb.lt_optionCount i (((Ascending.mem_toggle hb.ascending).1 hi).2 he)

lemma answers_write? (typed : String) : Answers (write? typed) := by
  constructor <;> intro b b' h <;> cases b <;>
    simp only [write?, Option.some.injEq, reduceCtorEq] at h
  · subst h
    rfl
  · subst h
    exact fun _ => legal_of_selected_eq_nil rfl

lemma answers_setDate? (value : Moment) : Answers (setDate? value) := by
  constructor <;> intro b b' h <;> cases b <;>
    simp only [setDate?, Option.some.injEq, reduceCtorEq] at h
  · subst h
    rfl
  · subst h
    exact fun _ => legal_of_selected_eq_nil rfl

lemma unanswered_clear (b : Block) : b.clear.unanswered = b.unanswered := by
  cases b <;> rfl

lemma selected_clear (b : Block) : b.clear.selected = [] := by
  cases b <;> rfl

end Block

/-! ### Nodes -/

namespace Node

/-- The node without its answers. -/
def unanswered (n : Node) : Node := { n with blocks := n.blocks.map Block.unanswered }

/-- Whether the answers of the node are legal. -/
def Legal (n : Node) : Prop := ∀ b ∈ n.blocks, b.Legal

variable {n n' : Node} {f : Block → Option Block}

lemma legal_of_selected_eq_nil (h : n.selected = []) : n.Legal := fun b hb =>
  Block.legal_of_selected_eq_nil (List.flatMap_eq_nil_iff.1 h b hb)

lemma unanswered_change? (hf : Block.Answers f) (h : n.change? f = some n') :
    n'.unanswered = n.unanswered := by
  obtain ⟨blocks, hblocks, rfl⟩ := Option.map_eq_some_iff.1 h
  obtain ⟨front, b, b', back, hn, hb, rfl⟩ := changeFirst?_eq_some hblocks
  simp only [unanswered, hn, List.map_append, List.map_cons, hf.unanswered_eq hb]

lemma Legal.change? (hf : Block.Answers f) (hn : n.Legal) (h : n.change? f = some n') :
    n'.Legal := by
  obtain ⟨blocks, hblocks, rfl⟩ := Option.map_eq_some_iff.1 h
  obtain ⟨front, b, b', back, hsplit, hb, rfl⟩ := changeFirst?_eq_some hblocks
  rw [Legal, hsplit, List.forall_mem_append, List.forall_mem_cons] at hn
  obtain ⟨hfront, hold, hback⟩ := hn
  exact List.forall_mem_append.2 ⟨hfront, List.forall_mem_cons.2 ⟨hf.legal hb hold, hback⟩⟩

lemma unanswered_clear (n : Node) : n.clear.unanswered = n.unanswered := by
  simp only [unanswered, clear, List.map_map]
  congr 1
  exact List.map_congr_left fun b _ => Block.unanswered_clear b

lemma legal_clear (n : Node) : n.clear.Legal := by
  intro b hb
  obtain ⟨b, -, rfl⟩ := List.mem_map.1 hb
  exact Block.legal_of_selected_eq_nil b.selected_clear

end Node

end Walkthrough
