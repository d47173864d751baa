import Mathlib.Data.List.Basic
import Walkthrough.Proofs.Route

/-!
# The current stop of a walk

A reached walk is sound: its stop is what is built at the current node, with legal answers filled
in.  This file says what that means for those who read the stop: there is at most one block to
select from, what is selected is offered and in ascending order, and the keys match the options.
-/

namespace Walkthrough

namespace Node

variable {n : Node}

/-- Blocks to select from are among those with options. -/
lemma Consistent.length_filter_isSelection (h : n.Consistent) :
    (n.blocks.filter Block.isSelection).length ≤ 1 := by
  refine le_trans ?_ h.length_offers
  rw [offers, List.length_filterMap_eq_countP, ← List.countP_eq_length_filter]
  refine List.countP_mono_left fun b _ hb => ?_
  cases b with
  | choice options chosen => rfl
  | checks options ticked => rfl
  | _ => cases hb

/-- What holds of what is selected in each block, and of nothing, holds of what is selected in a
consistent node. -/
lemma Consistent.selected_induct {P : List Nat → Prop} (h : n.Consistent) (nil : P [])
    (block : ∀ b ∈ n.blocks, b.options? = n.options? → P b.selected) : P n.selected := by
  rcases h.exists_block with hnone | ⟨b, hb, hoptions, hselected, -⟩
  · have hnil : n.selected = [] := List.flatMap_eq_nil_iff.2 fun b hb =>
      Block.selected_eq_nil_of_options? (hnone b hb)
    exact hnil ▸ nil
  · exact hselected ▸ block b hb hoptions

lemma Consistent.lt_of_mem_selected (h : n.Consistent) (hlegal : n.Legal) :
    ∀ i ∈ n.selected, i < (n.options?.getD []).length := by
  refine h.selected_induct (P := fun l => ∀ i ∈ l, i < (n.options?.getD []).length) (by simp)
    fun b hb hoptions i hi => ?_
  have hlt := (hlegal b hb).lt_optionCount i hi
  rwa [Block.optionCount, hoptions] at hlt

lemma Consistent.ascending_selected (h : n.Consistent) (hlegal : n.Legal) :
    n.selected.Pairwise (· < ·) :=
  h.selected_induct List.Pairwise.nil fun b hb _ => (hlegal b hb).ascending

/-- Where one option can be chosen, not more than one is. -/
lemma Consistent.selectedCount_le_one (h : n.Consistent) {options : List String}
    {chosen : Option Nat} (hchoice : Block.choice options chosen ∈ n.blocks) :
    n.selectedCount ≤ 1 := by
  rcases h.exists_block with hnone | ⟨b, -, -, hselected, hunique⟩
  · exact absurd (hnone _ hchoice) (by simp [Block.options?])
  · obtain rfl := hunique _ hchoice rfl
    rw [selectedCount, ← hselected]
    exact Option.length_toList_le

end Node

namespace Walk

variable {t : Tree} {w : Walk}

lemma Sound.consistent (h : w.Sound) : w.stop.node.Consistent := by
  obtain ⟨fresh, hfresh, hsame⟩ := Option.map_eq_some_iff.1 h.fresh
  have hnode : fresh.node.unanswered = w.stop.node.unanswered := congrArg Stop.node hsame
  rw [← Node.consistent_unanswered, ← hnode, Node.consistent_unanswered]
  exact Document.consistent_stop? hfresh

/-- In every walk that can be reached, the current stop is the one that is built at the last node
of the history in the current language, up to the answers that were given.  It has at most one
block to select from, where nothing is selected that is not offered, and its transition keys, if it
has any, are one for each option.  The hints are those of the current language. -/
theorem Reached.current_stop (h : Reached t w) :
    (∀ now, ∃ name stop, w.history.getLast? = some name ∧
      t.stop? now w.language name = some stop ∧ stop.unanswered = w.stop.unanswered) ∧
    (w.stop.node.blocks.filter Block.isSelection).length ≤ 1 ∧
    (∀ i ∈ w.stop.node.selected, i < (w.stop.node.options?.getD []).length) ∧
    w.stop.node.selected.Pairwise (· < ·) ∧
    (∀ options chosen, Block.choice options chosen ∈ w.stop.node.blocks →
      w.stop.node.selectedCount ≤ 1) ∧
    (w.stop.node.optionKeys = [] ∨
      w.stop.node.options?.map List.length = some w.stop.node.optionKeys.length) ∧
    w.glossary.language = w.language := by
  have hnode := h.sound.consistent
  have hlegal := h.sound.legal
  refine ⟨fun now => ?_, hnode.length_filter_isSelection, hnode.lt_of_mem_selected hlegal,
    hnode.ascending_selected hlegal, fun _ _ => hnode.selectedCount_le_one, hnode.keys,
    h.sound.language_glossary⟩
  obtain ⟨stop, hstop, hsame⟩ := Option.map_eq_some_iff.1 (h.wait now).sound.fresh
  rw [← h.tree_eq]
  exact ⟨w.here, stop, w.getLast?_history, hstop, hsame⟩

theorem current_stop_errand :
    ∃ w, Reached Errand.tree w ∧ w.language = "Tagalog" ∧ w.stop.node.selected = [1] ∧
      (∀ now, ∃ name stop, w.history.getLast? = some name ∧
        Errand.tree.stop? now w.language name = some stop ∧
          stop.unanswered = w.stop.unanswered) ∧
      (w.stop.node.optionKeys = [] ∨
        w.stop.node.options?.map List.length = some w.stop.node.optionKeys.length) := by
  obtain ⟨w, hw⟩ := Errand.exists_start
  have h := (Reached.start hw).run
    [(Errand.midnight, .speak "Tagalog"), (Errand.midnight, .select 1)]
  obtain ⟨hfresh, -, -, -, -, hkeys, -⟩ := h.current_stop
  refine ⟨_, h, ?_, ?_, hfresh, hkeys⟩
  · obtain rfl := Except.ok.inj hw
    rfl
  · obtain rfl := Except.ok.inj hw
    rfl

end Walk

end Walkthrough
