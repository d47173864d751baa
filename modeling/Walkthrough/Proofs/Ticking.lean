import Mathlib.Data.List.Sort
import Walkthrough.Proofs.Thresholds

/-!
# Ticking boxes

The boxes of a checklist are toggled one at a time.  A call for a box that is not there is refused
and changes nothing; all others change whether their box is ticked and nothing else.  So the boxes
that are ticked in the end are those that were toggled an odd number of times, and the node that a
sequence of calls leaves behind depends on these numbers alone: neither the order of the calls nor
the refused ones matter, to what is put on record as little as to the way on.
-/

namespace Walkthrough

variable {count : Nat} {indices indices' : List Nat}

/-- The indices below `count` that a list has an odd number of times, in ascending order. -/
def oddOnes (count : Nat) (indices : List Nat) : List Nat :=
  (List.range count).filter fun i => Odd (indices.count i)

lemma mem_oddOnes {i : Nat} : i ∈ oddOnes count indices ↔ i < count ∧ Odd (indices.count i) := by
  rw [oddOnes, List.mem_filter, List.mem_range, decide_eq_true_iff]

lemma pairwise_oddOnes (count : Nat) (indices : List Nat) :
    (oddOnes count indices).Pairwise (· < ·) :=
  List.pairwise_lt_range.sublist List.filter_sublist

lemma oddOnes_eq_iff : oddOnes count indices = oddOnes count indices' ↔
    ∀ i < count, (Odd (indices.count i) ↔ Odd (indices'.count i)) := by
  constructor
  · intro h i hi
    have hmem : i ∈ oddOnes count indices ↔ i ∈ oddOnes count indices' := by rw [h]
    rw [mem_oddOnes, mem_oddOnes] at hmem
    tauto
  · intro h
    refine (pairwise_oddOnes count indices).eq_of_mem_iff (pairwise_oddOnes count indices') ?_
    intro i
    rw [mem_oddOnes, mem_oddOnes]
    exact and_congr_right (h i)

lemma count_filter_lt {i : Nat} (hi : i < count) (indices : List Nat) :
    (indices.filter (· < count)).count i = indices.count i :=
  List.count_filter (by simpa using hi)

lemma oddOnes_filter (count : Nat) (indices : List Nat) :
    oddOnes count (indices.filter (· < count)) = oddOnes count indices := by
  rw [oddOnes_eq_iff]
  intro i hi
  rw [count_filter_lt hi]

/-- From the empty list, what is toggled an odd number of times is there in the end. -/
lemma toggleEach_nil (h : ∀ i ∈ indices, i < count) :
    Ascending.toggleEach [] indices = oddOnes count indices := by
  refine (Ascending.pairwise_toggleEach List.Pairwise.nil indices).eq_of_mem_iff
    (pairwise_oddOnes count indices) ?_
  intro i
  have hodd : Odd (indices.count i) → i < count := by
    intro hodd
    exact h i (List.count_pos_iff.1 (Nat.pos_of_ne_zero fun hzero => by simp [hzero] at hodd))
  rw [Ascending.mem_toggleEach List.Pairwise.nil, mem_oddOnes, ← Nat.not_odd_iff_even]
  simp only [List.not_mem_nil, false_iff, not_not]
  tauto

namespace Node

variable {n : Node} {front back : List Block} {options : List String}

/-- The boxes of a node that starts with none ticked. -/
lemma Offers.toggleAll_unticked (h : n.Offers front (.checks options []) back)
    (indices : List Nat) : n.toggleAll indices =
      n.withBlock front (.checks options (oddOnes options.length indices)) back := by
  have hbelow : ∀ i ∈ indices.filter (· < options.length), i < options.length := by
    intro i hi
    simpa using (List.mem_filter.1 hi).2
  rw [h.toggleAll_eq_filter, toggleEach_nil hbelow, oddOnes_filter]

lemma Offers.selected_toggleAll (h : n.Offers front (.checks options []) back)
    (indices : List Nat) : (n.toggleAll indices).selected = oddOnes options.length indices := by
  rw [h.toggleAll_unticked, (h.withBlock _).selected_eq, Block.selected]

lemma Offers.toggleAll_eq_iff (h : n.Offers front (.checks options []) back) :
    n.toggleAll indices = n.toggleAll indices' ↔
      ∀ i < options.length, (Odd (indices.count i) ↔ Odd (indices'.count i)) := by
  rw [← oddOnes_eq_iff]
  constructor
  · intro hsame
    rw [← h.selected_toggleAll, hsame, h.selected_toggleAll]
  · intro hsame
    rw [h.toggleAll_unticked, hsame, ← h.toggleAll_unticked]

lemma Offers.isSome_toggle? {ticked : List Nat} (h : n.Offers front (.checks options ticked) back)
    (index : Nat) : (n.toggle? index).isSome ↔ index < options.length := by
  rw [h.toggle?_eq]
  split_ifs with hindex
  · exact iff_of_true rfl hindex
  · exact iff_of_false Bool.false_ne_true hindex

end Node

/-! ### Checklists -/

namespace Stop

/-- What the boxes of a checklist come to when some are toggled in turn, be they there or not. -/
structure TicksByParity (s : Stop) (indices : List Nat) : Prop where
  /-- A call is followed just if the box is there. -/
  followed : ∀ before index after, indices = before ++ index :: after →
    (((s.node.toggleAll before).toggle? index).isSome ↔ index < s.node.optionCount)
  selected : (s.node.toggleAll indices).selected = oddOnes s.node.optionCount indices
  /-- Nothing but the ticks is put on record. -/
  answer : (s.node.toggleAll indices).answer =
    ⟨some (oddOnes s.node.optionCount indices), none, none⟩
  key : ∀ settings, Verdict (s.threshold ≤ (oddOnes s.node.optionCount indices).length)
    (Stop.key { s with node := s.node.toggleAll indices } settings)
  /-- The node depends only on how often each box that is there is toggled, and on that only by
  parity. -/
  same : ∀ indices', s.node.toggleAll indices' = s.node.toggleAll indices ↔
    ∀ i < s.node.optionCount, (Odd (indices'.count i) ↔ Odd (indices.count i))
  anyOrder : ∀ indices', indices'.Perm indices →
    s.node.toggleAll indices' = s.node.toggleAll indices
  offered : s.node.toggleAll (indices.filter (· < s.node.optionCount)) =
    s.node.toggleAll indices
  clear : (s.node.toggleAll indices).clear = s.node

end Stop

namespace Document

variable {d : Document} {p : Presentation} {name : String} {s : Stop}

/-- A checklist shows a text and offers boxes, none of which is ticked. -/
lemma exists_blocks_checklist (hstop : d.stop? p name = some s) (htask : s.task = some .checklist) :
    ∃ text options, s.node.blocks = [.text text, .checks options []] := by
  obtain ⟨kind, e, -, rfl⟩ := stop?_eq_some hstop
  cases kind with
  | final => cases htask
  | decision => cases htask
  | task =>
    simp only [Stop.withMedia, bareStop] at htask ⊢
    split at htask
    · obtain rfl := Option.some.inj htask
      exact ⟨_, _, rfl⟩
    · cases htask

/-- Ticking is a matter of parity at every checklist that is built, for every sequence of calls. -/
theorem ticksByParity (hstop : d.stop? p name = some s) (htask : s.task = some .checklist)
    (indices : List Nat) : s.TicksByParity indices := by
  obtain ⟨text, options, hblocks⟩ := exists_blocks_checklist hstop htask
  have hoffers : s.node.Offers [.text text] (.checks options []) [] :=
    ⟨hblocks, by simp [Block.options?], by simp⟩
  have hcount : s.node.optionCount = options.length := hoffers.optionCount_eq rfl
  have hselected := hoffers.selected_toggleAll indices
  constructor
  case followed =>
    intro before index after _
    rw [hcount, hoffers.toggleAll_unticked, (hoffers.withBlock _).isSome_toggle?]
  case selected => rw [hcount, hselected]
  case answer =>
    rw [hcount, Node.answer, hselected, hoffers.toggleAll_unticked]
    rfl
  case key =>
    intro settings
    have hkey : Stop.key { s with node := s.node.toggleAll indices } settings =
        yesNo (s.threshold ≤ (s.node.toggleAll indices).selectedCount) := by
      rw [Stop.key, htask, transitionKey]
    rw [hkey, Node.selectedCount, hselected, hcount]
    exact verdict_yesNo decide_eq_true_iff
  case same =>
    intro indices'
    rw [hcount, hoffers.toggleAll_eq_iff]
  case anyOrder =>
    intro indices' hperm
    rw [hoffers.toggleAll_eq_iff]
    intro i _
    rw [hperm.count_eq]
  case offered =>
    rw [hcount, hoffers.toggleAll_eq_iff]
    intro i hi
    rw [count_filter_lt hi]
  case clear =>
    rw [hoffers.toggleAll_unticked, Node.withBlock, Node.clear]
    simp only [List.singleton_append, List.map_cons, List.map_nil, Block.clear]
    rw [← hblocks]

/-- Three boxes: the first is toggled three times, the second once and the third twice, and one that
is not there once. -/
theorem ticksByParity_kitchen :
    ∃ s, Kitchen.document.stop? Kitchen.presentation Kitchen.shelf = some s ∧
      (s.node.toggleAll [2, 7, 0, 2, 1, 0, 0]).selected = [0, 1] ∧
      s.node.toggleAll [0, 0, 0, 1, 2, 2] = s.node.toggleAll [2, 7, 0, 2, 1, 0, 0] := by
  obtain ⟨s, hstop, htask, -, hcount⟩ :=
    Kitchen.declaresChecklist_shelf.exists_stop? Kitchen.presentation
  have hthree : s.node.optionCount = 3 := hcount
  have hticks := ticksByParity hstop htask [2, 7, 0, 2, 1, 0, 0]
  refine ⟨s, hstop, ?_, ?_⟩
  · rw [hticks.selected, hthree]
    decide
  · rw [hticks.same, hthree]
    decide

end Document

end Walkthrough
