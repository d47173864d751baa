import Mathlib.Data.Finset.Card
import Walkthrough.Proofs.Choosing
import Walkthrough.Proofs.Grading

/-!
# Thresholds of checklists

The name of a checklist says how many boxes must be ticked, and the checklist is left under the key
`Yes` just if as many are.  The number is written in decimal digits, of which there may be more than
a count can hold; such a number is taken for zero.  So the key is right for every number that is
small enough to be a count, and for a greater one, which cannot be reached, it is `Yes`
nevertheless.
-/

namespace Walkthrough

open Markup (Element)
open Text (IsNumeralOf countBound)

/-! ### What a name requires -/

/-- A number that is not written, or is too great for a count, requires nothing. -/
lemma Text.getD_count?_le {s : String} {k : Nat} :
    (count? s).getD 0 ≤ k ↔ ∀ number, IsNumeralOf s number → number < countBound → number ≤ k := by
  cases hcount : count? s with
  | none =>
    refine iff_of_true (Nat.zero_le k) fun number hnumber hbound => ?_
    rw [count?_eq_some.2 ⟨hnumber, hbound⟩] at hcount
    cases hcount
  | some number =>
    obtain ⟨hnumber, hbound⟩ := count?_eq_some.1 hcount
    constructor
    · intro hle other hother _
      rwa [← hnumber.unique hother]
    · intro h
      exact h number hnumber hbound

/-- The case of letters does not matter in the identifier of a checklist. -/
lemma TaskType.ofIdentifier?_checklist {s : String} (h : Text.lower s = Text.lower "checkList") :
    ofIdentifier? s = some checklist := by
  rw [ofIdentifier?, h]
  decide +kernel

/-- Whether a document declares a task under a name that makes it a checklist, with a second
component.  The case of letters in the first component does not matter. -/
structure Document.DeclaresChecklist (d : Document) (name parameter : String) (e : Element) :
    Prop where
  components : ∃ identifier rest,
    (NodeName.decode name).components = identifier :: parameter :: rest ∧
      Text.lower identifier = Text.lower "checkList"
  find? : d.find? name = some (.task, e)

/-! ### Sets of ticked boxes -/

namespace Node

variable {n n' : Node} {options : List String} {ticked : List Nat} {ticks : Finset Nat}

/-- Whether a node is answered by ticking the boxes of a set and no other ones, in whatever way that
came about. -/
structure Ticked (n : Node) (ticks : Finset Nat) (n' : Node) : Prop where
  unanswered : n'.unanswered = n.unanswered
  legal : n'.Legal
  toFinset_selected : n'.selected.toFinset = ticks

lemma Ticked.selectedCount_eq (h : n.Ticked ticks n') (hn : n.Consistent) :
    n'.selectedCount = ticks.card := by
  have hn' : n'.Consistent := by
    rw [← consistent_unanswered, h.unanswered, consistent_unanswered]
    exact hn
  -- what is selected is in ascending order, so no box is counted twice
  have hnodup : n'.selected.Nodup := (hn'.ascending_selected h.legal).imp ne_of_lt
  rw [selectedCount, ← h.toFinset_selected, List.toFinset_card_of_nodup hnodup]

/-- Boxes can be ticked in any order. -/
lemma Consistent.ticked_toggleAll (h : n.Consistent) (hb : Block.checks options ticked ∈ n.blocks)
    (hselected : n.selected = []) {order : List Nat} (hnodup : order.Nodup)
    (horder : ∀ i ∈ order, i < n.optionCount) : n.Ticked order.toFinset (n.toggleAll order) := by
  have hkept : (n.toggleAll order).unanswered = n.unanswered ∧ (n.toggleAll order).Legal := by
    refine toggleAll_induct (P := fun m => m.unanswered = n.unanswered ∧ m.Legal)
      ⟨rfl, legal_of_selected_eq_nil hselected⟩ ?_ order
    rintro m m' index htoggle ⟨hsame, hlegal⟩
    exact ⟨(unanswered_change? (Block.answers_toggle? index) htoggle).trans hsame,
      hlegal.change? (Block.answers_toggle? index) htoggle⟩
  -- every box of the order is toggled once, so that it ends up ticked
  have hodd : ∀ i ∈ order.toFinset, Odd (order.count i) := by
    intro i hi
    rw [List.count_eq_one_of_mem hnodup (List.mem_toFinset.1 hi)]
    exact odd_one
  refine ⟨hkept.1, hkept.2, ?_⟩
  rw [h.selected_toggleAll hb horder, hselected, Ascending.toFinset_toggleEach List.Pairwise.nil,
    Finset.filter_true_of_mem hodd, List.toFinset_nil]
  exact bot_symmDiff order.toFinset

end Node

/-! ### Checklists -/

lemma Stop.optionCount_withMedia (s : Stop) (media : Media) :
    (s.withMedia media).node.optionCount = s.node.optionCount := rfl

namespace Document

variable {d : Document} {p : Presentation} {name parameter : String} {e : Element} {s : Stop}

lemma optionCount_checklist (d : Document) (p : Presentation) (decoded : NodeName) (e : Element) :
    (taskStop d p .checklist decoded e).node.optionCount = (taskNamesOf e).length := by
  have hoptions : (taskStop d p .checklist decoded e).node.options? =
      some (((taskNamesOf e).map optionLabel).map p.say) := rfl
  rw [Node.optionCount, hoptions, Option.getD_some, List.length_map, List.length_map]

namespace DeclaresChecklist

lemma taskType?_eq (h : d.DeclaresChecklist name parameter e) :
    (NodeName.decode name).taskType? = some .checklist := by
  obtain ⟨identifier, rest, hname, hidentifier⟩ := h.components
  rw [NodeName.taskType?, NodeName.typeIdentifier, hname]
  exact TaskType.ofIdentifier?_checklist hidentifier

lemma threshold_eq (h : d.DeclaresChecklist name parameter e) :
    (NodeName.decode name).threshold = (Text.count? (Text.trim parameter)).getD 0 := by
  obtain ⟨identifier, rest, hname, -⟩ := h.components
  rw [NodeName.threshold, h.taskType?_eq, NodeName.parameter?, hname]
  rfl

/-- A checklist can be built, with one box for each of the tasks of the element. -/
lemma exists_stop? (h : d.DeclaresChecklist name parameter e) (p : Presentation) :
    ∃ s, d.stop? p name = some s ∧ s.task = some .checklist ∧
      s.threshold = (NodeName.decode name).threshold ∧
      s.node.optionCount = (taskNamesOf e).length := by
  have hstop : d.stop? p name = some ((taskStop d p .checklist (NodeName.decode name) e).withMedia
      (p.media (NodeName.decode name))) := by
    simp only [stop?, h.find?, Option.map_some, bareStop, h.taskType?_eq]
  refine ⟨_, hstop, rfl, by rw [Stop.withMedia, taskStop], ?_⟩
  rw [Stop.optionCount_withMedia, optionCount_checklist]

/-- The key tells whether the required number of boxes is ticked.  Nothing is said of numbers that
are too great for a count, since they require nothing. -/
lemma verdict (h : d.DeclaresChecklist name parameter e) (hstop : d.stop? p name = some s)
    {ticks : Finset Nat} {n : Node} (hn : s.node.Ticked ticks n) (settings : Settings) :
    Verdict (∀ number, IsNumeralOf (Text.trim parameter) number → number < countBound →
      number ≤ ticks.card) (Stop.key { s with node := n } settings) := by
  obtain ⟨s', hstop', htask, hthreshold, -⟩ := h.exists_stop? p
  rw [hstop] at hstop'
  obtain rfl := Option.some.inj hstop'
  have hkey : Stop.key { s with node := n } settings = yesNo (s.threshold ≤ n.selectedCount) := by
    rw [Stop.key, htask, transitionKey]
  rw [hkey]
  refine verdict_yesNo ?_
  rw [decide_eq_true_iff, hthreshold, h.threshold_eq, hn.selectedCount_eq (consistent_stop? hstop),
    Text.getD_count?_le]

end DeclaresChecklist

/-- The boxes of a checklist can be ticked in any order, and the key tells whether there are as
many of them as its name says, if the name says how many and the number is small enough to be a
count.  In all other cases the key is `Yes`. -/
theorem checklist_key (h : d.DeclaresChecklist name parameter e) (p : Presentation) :
    ∃ s, d.stop? p name = some s ∧
      (∀ order : List Nat, order.Nodup → (∀ i ∈ order, i < (taskNamesOf e).length) →
        s.node.Ticked order.toFinset (s.node.toggleAll order)) ∧
      ∀ ticks n settings, s.node.Ticked ticks n →
        (∀ number, IsNumeralOf (Text.trim parameter) number →
          Verdict (number < countBound → number ≤ ticks.card)
            (Stop.key { s with node := n } settings)) ∧
        ((∀ number, ¬IsNumeralOf (Text.trim parameter) number) →
          Stop.key { s with node := n } settings = "Yes") := by
  obtain ⟨s, hstop, htask, -, hcount⟩ := h.exists_stop? p
  refine ⟨s, hstop, fun order hnodup horder => ?_, fun ticks n settings hn => ?_⟩
  · obtain ⟨options, hb⟩ := (asks_stop? hstop).checks htask
    obtain ⟨ticked, hb⟩ := Node.exists_checks hb
    exact (consistent_stop? hstop).ticked_toggleAll hb (selected_stop? hstop) hnodup
      (hcount ▸ horder)
  · have hverdict := h.verdict hstop hn settings
    refine ⟨fun number hnumber => hverdict.congr ⟨fun hall => hall number hnumber, ?_⟩, ?_⟩
    · -- a numeral writes one number only
      intro hreached other hother
      rwa [← hnumber.unique hother]
    · intro hnone
      exact hverdict.eq_yes_iff.2 fun number hnumber => absurd hnumber (hnone number)

end Document

/-! ### A kitchen -/

namespace Kitchen

open Errand (element)

/-- The name of a checklist of which two boxes must be ticked. -/
def shelf : String := "CheckList~ +2 ~What is there?"

/-- The name of a checklist that requires more boxes than can be counted. -/
def cellar : String := "checkList~18446744073709551616~What else?"

/-- The element that declares the checklist of a name. -/
def declared (name : String) : Element :=
  element "task-node" [("name", name)]
    [element "task" [("name", "Bread")] [], element "task" [("name", "Cheese")] [],
      element "task" [("name", "Wine")] []]

/-- The two checklists of the kitchen. -/
def document : Document where
  root := element "process-definition" [] [declared shelf, declared cellar]
  root_name := rfl

/-- How the kitchen is presented. -/
def presentation : Presentation := Errand.tree.presentation Errand.midnight "English"

lemma declaresChecklist_shelf : document.DeclaresChecklist shelf " +2 " (declared shelf) :=
  ⟨⟨"CheckList", ["What is there?"], rfl, by decide +kernel⟩, rfl⟩

lemma declaresChecklist_cellar :
    document.DeclaresChecklist cellar "18446744073709551616" (declared cellar) :=
  ⟨⟨"checkList", ["What else?"], rfl, rfl⟩, rfl⟩

end Kitchen

namespace Document

/-- Bread and wine are enough, cheese alone is not. -/
theorem checklist_key_kitchen :
    ∃ s, Kitchen.document.stop? Kitchen.presentation Kitchen.shelf = some s ∧
      Stop.key { s with node := s.node.toggleAll [0, 2] } Settings.default = "Yes" ∧
      Stop.key { s with node := s.node.toggleAll [1] } Settings.default = "No" := by
  obtain ⟨s, hstop, hticked, hkey⟩ :=
    checklist_key Kitchen.declaresChecklist_shelf Kitchen.presentation
  have hnumber : IsNumeralOf (Text.trim " +2 ") 2 := Text.isNumeralOf_iff.2 (by decide)
  refine ⟨s, hstop, ?_, ?_⟩
  · have hverdict :=
      (hkey _ _ Settings.default (hticked [0, 2] (by decide) (by decide))).1 2 hnumber
    exact hverdict.eq_yes_iff.2 fun _ => by decide
  · have hverdict := (hkey _ _ Settings.default (hticked [1] (by decide) (by decide))).1 2 hnumber
    exact hverdict.eq_no (by decide)

/-- With nothing ticked, a number that is too great for a count is taken for reached. -/
theorem not_forall_checklist_key :
    ¬ ∀ (d : Document) (p : Presentation) (name parameter : String) (e : Element) (s : Stop)
      (ticks : Finset Nat) (n : Node) (settings : Settings) (number : Nat),
      d.DeclaresChecklist name parameter e → d.stop? p name = some s → s.node.Ticked ticks n →
      IsNumeralOf (Text.trim parameter) number →
      Verdict (number ≤ ticks.card) (Stop.key { s with node := n } settings) := by
  intro h
  obtain ⟨s, hstop, -⟩ := Kitchen.declaresChecklist_cellar.exists_stop? Kitchen.presentation
  have hnumber : IsNumeralOf (Text.trim "18446744073709551616") countBound :=
    Text.isNumeralOf_iff.2 (by decide)
  have hn : s.node.Ticked ∅ s.node :=
    ⟨rfl, legal_stop? hstop, by rw [selected_stop? hstop, List.toFinset_nil]⟩
  have hverdict := Kitchen.declaresChecklist_cellar.verdict hstop hn Settings.default
  have hyes := hverdict.eq_yes_iff.2 fun number hother hbound => absurd hbound
    (hnumber.unique hother ▸ lt_irrefl countBound)
  have hno := (h _ _ _ _ _ _ _ _ Settings.default _ Kitchen.declaresChecklist_cellar hstop hn
    hnumber).eq_no (by decide)
  exact absurd (hyes.symm.trans hno) (by decide)

end Document

end Walkthrough
