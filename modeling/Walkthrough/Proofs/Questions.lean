import Mathlib.Data.List.Basic
import Walkthrough.Proofs.Muting
import Walkthrough.Proofs.Route

/-!
# What a stop asks

The task type of a stop says which blocks its node has: a link or a quiz has options of which one
can be chosen, a checklist has boxes, and a type that asks for a text has an input.  The answers do
not matter for this, so it is stated of the node without its answers and holds of every walk that is
sound.  How many options there are, and how many boxes must be ticked, is the same in all languages
and at all times.
-/

namespace Walkthrough

open Markup (Element)

/-! ### Nodes -/

namespace Node

variable {n : Node} {options : List String}

/-- How many items the node lists or offers. -/
def optionCount (n : Node) : Nat := (n.options?.getD []).length

lemma optionCount_unanswered (n : Node) : n.unanswered.optionCount = n.optionCount := by
  rw [optionCount, optionCount, options?_unanswered]

lemma optionCount_muted (n : Node) : n.muted.optionCount = n.optionCount :=
  n.length_options?_muted

/-- A block without its answer is found again with an answer. -/
lemma exists_of_mem_unanswered {b : Block} (h : b ∈ n.unanswered.blocks) :
    ∃ c ∈ n.blocks, c.unanswered = b := List.mem_map.1 h

lemma exists_choice (h : Block.choice options none ∈ n.unanswered.blocks) :
    ∃ chosen, Block.choice options chosen ∈ n.blocks := by
  obtain ⟨c, hc, hsame⟩ := exists_of_mem_unanswered h
  cases c <;> simp only [Block.unanswered, reduceCtorEq] at hsame
  case choice options' chosen =>
    obtain ⟨rfl, -⟩ := Block.choice.inj hsame
    exact ⟨chosen, hc⟩

lemma exists_checks (h : Block.checks options [] ∈ n.unanswered.blocks) :
    ∃ ticked, Block.checks options ticked ∈ n.blocks := by
  obtain ⟨c, hc, hsame⟩ := exists_of_mem_unanswered h
  cases c <;> simp only [Block.unanswered, reduceCtorEq] at hsame
  case checks options' ticked =>
    obtain ⟨rfl, -⟩ := Block.checks.inj hsame
    exact ⟨ticked, hc⟩

lemma exists_input {mode : LineMode} {unit : Option String} {numeric : Bool}
    (h : Block.input "" mode unit numeric ∈ n.unanswered.blocks) :
    ∃ typed, Block.input typed mode unit numeric ∈ n.blocks := by
  obtain ⟨c, hc, hsame⟩ := exists_of_mem_unanswered h
  cases c <;> simp only [Block.unanswered, reduceCtorEq] at hsame
  case input typed mode' unit' numeric' =>
    obtain ⟨-, rfl, rfl, rfl⟩ := Block.input.inj hsame
    exact ⟨typed, hc⟩

lemma hasSelection_of_choice {chosen : Option Nat} (h : Block.choice options chosen ∈ n.blocks) :
    n.hasSelection = true := List.any_eq_true.2 ⟨_, h, rfl⟩

lemma hasSelection_of_checks {ticked : List Nat} (h : Block.checks options ticked ∈ n.blocks) :
    n.hasSelection = true := List.any_eq_true.2 ⟨_, h, rfl⟩

section Input

variable {typed : String} {mode : LineMode} {unit : Option String} {numeric : Bool}

lemma isSome_typedText? (h : Block.input typed mode unit numeric ∈ n.blocks) :
    n.typedText?.isSome = true := List.findSome?_isSome_iff.2 ⟨_, h, rfl⟩

lemma isNumeric_of_input (h : Block.input typed mode unit true ∈ n.blocks) :
    n.isNumeric = true := List.any_eq_true.2 ⟨_, h, rfl⟩

end Input

lemma isNumeric_unanswered (n : Node) : n.unanswered.isNumeric = n.isNumeric := by
  rw [isNumeric, isNumeric, unanswered, List.any_map]
  congr 1
  funext b
  cases b <;> rfl

end Node

/-! ### Stops -/

namespace TaskType

/-- Whether a node of the type asks for exactly one of its options. -/
def asksChoice : TaskType → Bool
  | link | radioButtons | radioButtonsWithAnswer => true
  | _ => false

end TaskType

namespace Stop

/-- An unanswered stop has the blocks that its task type asks for. -/
structure Asks (s : Stop) : Prop where
  choice : ∀ task, s.task = some task → task.asksChoice = true →
    ∃ options, Block.choice options none ∈ s.node.blocks
  checks : s.task = some .checklist → ∃ options, Block.checks options [] ∈ s.node.blocks
  input : ∀ task, s.task = some task → task.hasTextInput = true →
    ∃ mode unit numeric, Block.input "" mode unit numeric ∈ s.node.blocks
  numeric : s.task = some .textFieldNumerical →
    ∃ mode unit, Block.input "" mode unit true ∈ s.node.blocks

/-- A stop without a known type asks for nothing. -/
lemma asks_of_task_eq_none {s : Stop} (h : s.task = none) : s.Asks := by
  constructor <;> simp [h]

/-- What a stop asks, as far as that can be seen in all languages: its kind and task type, how many
boxes must be ticked, and how many options there are. -/
def question (s : Stop) : NodeKind × Option TaskType × Nat × Nat :=
  (s.kind, s.task, s.threshold, s.node.optionCount)

lemma question_muted (s : Stop) : s.muted.question = s.question := by
  simp only [question, muted, Node.optionCount_muted]

lemma question_unanswered (s : Stop) : s.unanswered.question = s.question := by
  simp only [question, unanswered, Node.optionCount_unanswered]

end Stop

namespace Document

variable {d : Document} {p q : Presentation} {name : String} {s : Stop}

lemma asks_taskStop (d : Document) (p : Presentation) (task : TaskType) (decoded : NodeName)
    (e : Element) : (taskStop d p task decoded e).unanswered.Asks := by
  constructor
  · rintro task' ⟨⟩ hchoice
    cases task <;> simp only [TaskType.asksChoice, Bool.false_eq_true] at hchoice
    all_goals exact ⟨_, List.mem_cons_of_mem _ List.mem_cons_self⟩
  · rintro ⟨⟩
    exact ⟨_, List.mem_cons_of_mem _ List.mem_cons_self⟩
  · rintro task' ⟨⟩ hinput
    cases task <;> simp only [TaskType.hasTextInput, Bool.false_eq_true] at hinput
    all_goals exact ⟨_, _, _, List.mem_cons_of_mem _ List.mem_cons_self⟩
  · rintro ⟨⟩
    exact ⟨_, _, List.mem_cons_of_mem _ List.mem_cons_self⟩

lemma asks_decisionStop (p : Presentation) (decoded : NodeName) (e : Element) :
    (decisionStop p decoded e).unanswered.Asks := by
  constructor
  · rintro task - -
    exact ⟨_, List.mem_cons_of_mem _ List.mem_cons_self⟩
  · rintro ⟨⟩
  · rintro task ⟨⟩ hinput
    cases hinput
  · rintro ⟨⟩

lemma asks_bareStop (decoded : NodeName) (kind : NodeKind) (e : Element) :
    (d.bareStop p decoded kind e).unanswered.Asks :=
  bareStop_induct (r := fun s _ => s.unanswered.Asks) d p p decoded e
    (Stop.asks_of_task_eq_none rfl) (asks_decisionStop p decoded e)
    (fun task => asks_taskStop d p task decoded e) (Stop.asks_of_task_eq_none rfl) kind

lemma asks_stop? (h : d.stop? p name = some s) : s.unanswered.Asks := by
  obtain ⟨kind, e, -, rfl⟩ := stop?_eq_some h
  have hbare : (d.bareStop p (NodeName.decode name) kind e).unanswered.Asks :=
    asks_bareStop _ kind e
  exact ⟨hbare.choice, hbare.checks, hbare.input, hbare.numeric⟩

/-- What is asked is the same in all presentations. -/
lemma question_stop? :
    (d.stop? p name).map Stop.question = (d.stop? q name).map Stop.question := by
  have hmuted : Stop.question ∘ Stop.muted = Stop.question := funext Stop.question_muted
  have hunanswered : Stop.question ∘ Stop.unanswered = Stop.question :=
    funext Stop.question_unanswered
  -- wording and media are left out first, and then the time
  calc (d.stop? p name).map Stop.question
      = ((d.stop? p name).map Stop.muted).map Stop.question := by rw [Option.map_map, hmuted]
    _ = ((d.stop? (q.setClock p.now) name).map Stop.muted).map Stop.question :=
        congrArg (Option.map Stop.question) (muted_stop? rfl)
    _ = ((d.stop? (q.setClock p.now) name).map Stop.unanswered).map Stop.question := by
        rw [Option.map_map, Option.map_map, hmuted, hunanswered]
    _ = (d.stop? q name).map Stop.question := by
        rw [unanswered_stop?_setClock, Option.map_map, hunanswered]

end Document

/-! ### Walks -/

namespace Walk

variable {w : Walk}

lemma Sound.asks (h : w.Sound) : w.stop.unanswered.Asks := by
  obtain ⟨fresh, hfresh, hsame⟩ := Option.map_eq_some_iff.1 h.fresh
  rw [← hsame]
  exact Document.asks_stop? hfresh

/-- The current stop asks what is asked there in every language and at all times. -/
lemma Sound.exists_question (h : w.Sound) (now : Moment) (language : String) :
    ∃ stop, w.tree.stop? now language w.here = some stop ∧ stop.question = w.stop.question := by
  obtain ⟨fresh, hfresh, hsame⟩ := Option.map_eq_some_iff.1 h.fresh
  have hquestion : (w.tree.stop? now language w.here).map Stop.question =
      some fresh.question := by
    rw [Tree.stop?, Document.question_stop? (q := w.tree.presentation w.now w.language)]
    exact congrArg (Option.map Stop.question) hfresh
  obtain ⟨stop, hstop, hstop'⟩ := Option.map_eq_some_iff.1 hquestion
  refine ⟨stop, hstop, ?_⟩
  rw [hstop', ← Stop.question_unanswered, hsame, Stop.question_unanswered]

end Walk

end Walkthrough
