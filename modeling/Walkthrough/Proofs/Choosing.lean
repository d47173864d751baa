import Mathlib.Data.List.Basic
import Walkthrough.Proofs.CurrentStop
import Walkthrough.Proofs.Questions

/-!
# Choosing and ticking

At most one block of a node that is built has options, so it is this block that a choice or a tick
changes, and what is selected at the node is what is selected there.  Choosing an option leaves it
as the only one, and ticking options in turn toggles them in turn.
-/

namespace Walkthrough

section ChangeFirst

variable {α : Type} {f : α → Option α} {x : α} {l front back : List α}

lemma changeFirst?_eq_none (h : ∀ y ∈ l, f y = none) : changeFirst? f l = none := by
  induction l with
  | nil => rfl
  | cons y l ih =>
    rw [List.forall_mem_cons] at h
    rw [changeFirst?, h.1, ih h.2]
    rfl

/-- If only one element can be changed, it is that one that is. -/
lemma changeFirst?_append (hfront : ∀ y ∈ front, f y = none) (hback : ∀ y ∈ back, f y = none) :
    changeFirst? f (front ++ x :: back) = (f x).map fun x' => front ++ x' :: back := by
  induction front with
  | nil =>
    rw [List.nil_append, changeFirst?, changeFirst?_eq_none hback]
    cases f x <;> rfl
  | cons y front ih =>
    rw [List.forall_mem_cons] at hfront
    rw [List.cons_append, changeFirst?, hfront.1, ih hfront.2, Option.map_map]
    rfl

end ChangeFirst

namespace Node

/-- The block `b`, between the others, is the only one of the node with options. -/
structure Offers (n : Node) (front : List Block) (b : Block) (back : List Block) : Prop where
  blocks : n.blocks = front ++ b :: back
  front : ∀ c ∈ front, c.options? = none
  back : ∀ c ∈ back, c.options? = none

variable {n : Node} {front back : List Block} {b : Block} {options : List String}
  {chosen : Option Nat} {ticked indices : List Nat} {index : Nat}

lemma Consistent.exists_offers (h : n.Consistent) (hb : b ∈ n.blocks)
    (hsome : b.options?.isSome) : ∃ front back, n.Offers front b back := by
  obtain ⟨front, back, hblocks⟩ := List.append_of_mem hb
  obtain ⟨options, hoptions⟩ := Option.isSome_iff_exists.1 hsome
  have hlength := h.length_offers
  rw [offers, hblocks, List.filterMap_append, List.filterMap_cons_some hoptions,
    List.length_append, List.length_cons] at hlength
  have hfront : (front.filterMap Block.options?).length = 0 := by omega
  have hback : (back.filterMap Block.options?).length = 0 := by omega
  rw [List.length_eq_zero_iff, List.filterMap_eq_nil_iff] at hfront hback
  exact ⟨front, back, hblocks, hfront, hback⟩

/-- The node with another block in place of the one with options. -/
def withBlock (n : Node) (front : List Block) (b : Block) (back : List Block) : Node :=
  { n with blocks := front ++ b :: back }

namespace Offers

lemma withBlock (h : n.Offers front b back) (b' : Block) :
    (n.withBlock front b' back).Offers front b' back := ⟨rfl, h.front, h.back⟩

lemma withBlock_eq (h : n.Offers front b back) : n.withBlock front b back = n := by
  rw [Node.withBlock, ← h.blocks]

lemma options?_eq (h : n.Offers front b back) (hsome : b.options? = some options) :
    n.options? = some options := by
  rw [options?, h.blocks, List.findSome?_append, List.findSome?_eq_none_iff.2 h.front,
    Option.none_or, List.findSome?_cons, hsome]

lemma optionCount_eq (h : n.Offers front b back) (hsome : b.options? = some options) :
    n.optionCount = options.length := by
  rw [optionCount, h.options?_eq hsome, Option.getD_some]

lemma selected_eq (h : n.Offers front b back) : n.selected = b.selected := by
  have hnil : ∀ l : List Block, (∀ c ∈ l, c.options? = none) → l.flatMap Block.selected = [] :=
    fun l hl => List.flatMap_eq_nil_iff.2 fun c hc => Block.selected_eq_nil_of_options? (hl c hc)
  rw [selected, h.blocks, List.flatMap_append, List.flatMap_cons, hnil front h.front,
    hnil back h.back, List.nil_append, List.append_nil]

/-- Whatever changes no block without options changes the one that has some. -/
lemma change?_eq (h : n.Offers front b back) {f : Block → Option Block}
    (hf : ∀ c : Block, c.options? = none → f c = none) :
    n.change? f = (f b).map fun b' => n.withBlock front b' back := by
  rw [change?, h.blocks, changeFirst?_append (fun c hc => hf c (h.front c hc))
    (fun c hc => hf c (h.back c hc)), Option.map_map]
  rfl

lemma select?_eq (h : n.Offers front (.choice options chosen) back) (index : Nat) :
    n.select? index =
      if index < options.length then
        some (n.withBlock front (.choice options (some index)) back)
      else none := by
  have hnone : ∀ c : Block, c.options? = none → c.select? index = none := by
    intro c hc
    cases c <;> first | rfl | cases hc
  rw [select?, h.change?_eq hnone, Block.select?]
  split_ifs <;> rfl

lemma toggle?_eq (h : n.Offers front (.checks options ticked) back) (index : Nat) :
    n.toggle? index =
      if index < options.length then
        some (n.withBlock front (.checks options (Ascending.toggle index ticked)) back)
      else none := by
  have hnone : ∀ c : Block, c.options? = none → c.toggle? index = none := by
    intro c hc
    cases c <;> first | rfl | cases hc
  rw [toggle?, h.change?_eq hnone, Block.toggle?]
  split_ifs <;> rfl

/-- Options that are ticked in turn are toggled in turn; indices of no option are passed over. -/
lemma toggleAll_eq_filter (h : n.Offers front (.checks options ticked) back) (indices : List Nat) :
    n.toggleAll indices = n.withBlock front (.checks options
      (Ascending.toggleEach ticked (indices.filter (· < options.length)))) back := by
  induction indices generalizing n ticked with
  | nil => exact h.withBlock_eq.symm
  | cons index indices ih =>
    have hcons : n.toggleAll (index :: indices) =
        ((n.toggle? index).getD n).toggleAll indices := rfl
    rw [hcons, h.toggle?_eq]
    by_cases hindex : index < options.length
    · rw [if_pos hindex, Option.getD_some, ih (h.withBlock _),
        List.filter_cons_of_pos (by simpa using hindex)]
      rfl
    · rw [if_neg hindex, Option.getD_none, ih h,
        List.filter_cons_of_neg (by simpa using hindex)]

lemma toggleAll_eq (h : n.Offers front (.checks options ticked) back)
    (hindices : ∀ index ∈ indices, index < options.length) :
    n.toggleAll indices =
      n.withBlock front (.checks options (Ascending.toggleEach ticked indices)) back := by
  rw [h.toggleAll_eq_filter, List.filter_eq_self.2 fun index hindex =>
    decide_eq_true (hindices index hindex)]

end Offers

/-! ### Nodes that are built -/

lemma Consistent.exists_select? (h : n.Consistent) (hb : Block.choice options chosen ∈ n.blocks)
    (hindex : index < n.optionCount) :
    ∃ n', n.select? index = some n' ∧ n'.selected = [index] ∧ n'.optionKeys = n.optionKeys := by
  obtain ⟨front, back, hoffers⟩ := h.exists_offers hb rfl
  rw [hoffers.optionCount_eq rfl] at hindex
  refine ⟨_, ?_, (hoffers.withBlock (.choice options (some index))).selected_eq, rfl⟩
  rw [hoffers.select?_eq, if_pos hindex]

lemma Consistent.select?_eq_none (h : n.Consistent) (hb : Block.choice options chosen ∈ n.blocks)
    (hindex : n.optionCount ≤ index) : n.select? index = none := by
  obtain ⟨front, back, hoffers⟩ := h.exists_offers hb rfl
  rw [hoffers.optionCount_eq rfl] at hindex
  rw [hoffers.select?_eq, if_neg (Nat.not_lt.2 hindex)]

lemma Consistent.selected_toggleAll (h : n.Consistent)
    (hb : Block.checks options ticked ∈ n.blocks)
    (hindices : ∀ index ∈ indices, index < n.optionCount) :
    (n.toggleAll indices).selected = Ascending.toggleEach n.selected indices := by
  obtain ⟨front, back, hoffers⟩ := h.exists_offers hb rfl
  rw [hoffers.optionCount_eq rfl] at hindices
  rw [hoffers.toggleAll_eq hindices, hoffers.selected_eq, (hoffers.withBlock _).selected_eq]
  rfl

end Node

/-! ### Stops that are built -/

namespace Walk

variable {w : Walk}

/-- The current stop was built from an element of the document, and answers change neither which
options it offers nor where it leads. -/
lemma Sound.exists_bareStop (h : w.Sound) :
    ∃ e s, w.tree.document.find? w.here = some (w.stop.kind, e) ∧
      s = w.tree.document.bareStop (w.tree.presentation w.now w.language)
        (NodeName.decode w.here) w.stop.kind e ∧
      w.stop.task = s.task ∧ w.stop.exits = s.exits ∧
      w.stop.node.optionKeys = s.node.optionKeys ∧ w.stop.node.options? = s.node.options? ∧
      w.stop.node.unanswered.blocks = s.node.unanswered.blocks := by
  obtain ⟨fresh, hfresh, hsame⟩ := Option.map_eq_some_iff.1 h.fresh
  obtain ⟨kind, e, hfind, hstop⟩ := Document.stop?_eq_some hfresh
  have hframe : fresh.frame = w.stop.frame := by
    rw [← Stop.frame_unanswered fresh, hsame, Stop.frame_unanswered]
  obtain ⟨hexits, hkind, htask, -⟩ := Stop.frame_eq_frame hframe
  have hbuilt : fresh.kind = kind := by rw [hstop, Stop.withMedia, Document.kind_bareStop]
  obtain rfl := hbuilt.symm.trans hkind
  have hnode : fresh.node.unanswered = w.stop.node.unanswered := congrArg Stop.node hsame
  have hkeys : fresh.node.unanswered.optionKeys = w.stop.node.unanswered.optionKeys := by
    rw [hnode]
  change fresh.node.optionKeys = w.stop.node.optionKeys at hkeys
  have hoptions : fresh.node.options? = w.stop.node.options? := by
    rw [← Node.options?_unanswered fresh.node, hnode, Node.options?_unanswered]
  -- the files that accompany the node are all that the fresh stop adds
  refine ⟨e, _, hfind, rfl, ?_⟩
  rw [← htask, ← hexits, ← hkeys, ← hoptions, ← hnode, hstop]
  exact ⟨rfl, rfl, rfl, rfl, rfl⟩

end Walk

end Walkthrough
