import Mathlib.Data.List.Basic
import Walkthrough.Proofs.Playing

/-!
# Stops without words

A stop is muted when its texts, labels, units and media are left out of it, but for their number.
What can be answered, under which key the stop is left and how a line is understood is all the same
at a muted stop, and a stop that is built differs from one built in another presentation only in
what muting leaves out.

The statements come in two forms.  What is read off a node is equal before and after muting, and
what makes a new node, if anything, commutes with muting.
-/

namespace Walkthrough

open Markup (Element)

lemma changeFirst?_map {α : Type} {f : α → Option α} {g : α → α}
    (h : ∀ x, (f x).map g = f (g x)) (l : List α) :
    (changeFirst? f l).map (List.map g) = changeFirst? f (l.map g) := by
  induction l with
  | nil => rfl
  | cons x xs ih =>
    rw [List.map_cons, changeFirst?, changeFirst?, ← h x]
    cases f x with
    | some y => rfl
    | none =>
      simp only [Option.map_none]
      rw [← ih, Option.map_map, Option.map_map]
      rfl

/-! ### Blocks -/

namespace Block

/-- The block without words. -/
def muted : Block → Block
  | text _ => text ""
  | image name _ => image name none
  | list items => list (items.map fun _ => "")
  | choice options chosen => choice (options.map fun _ => "") chosen
  | checks options ticked => checks (options.map fun _ => "") ticked
  | input typed mode _ numeric => input typed mode none numeric
  | date value => date value

/-- A way of answering a block that does not depend on words. -/
def Wordless (f : Block → Option Block) : Prop := ∀ b, (f b).map muted = f b.muted

lemma wordless_select? (index : Nat) : Wordless (select? index) := by
  intro b
  cases b with
  | choice options chosen =>
    simp only [select?, muted, List.length_map]
    split <;> rfl
  | _ => rfl

lemma wordless_toggle? (index : Nat) : Wordless (toggle? index) := by
  intro b
  cases b with
  | checks options ticked =>
    simp only [toggle?, muted, List.length_map]
    split <;> rfl
  | _ => rfl

lemma wordless_write? (typed : String) : Wordless (write? typed) := by
  intro b
  cases b <;> rfl

lemma wordless_setDate? (value : Moment) : Wordless (setDate? value) := by
  intro b
  cases b <;> rfl

lemma clear_muted (b : Block) : b.muted.clear = b.clear.muted := by
  cases b <;> rfl

lemma selected_muted (b : Block) : b.muted.selected = b.selected := by
  cases b <;> rfl

lemma isSelection_muted (b : Block) : b.muted.isSelection = b.isSelection := by
  cases b <;> rfl

lemma typedText?_muted (b : Block) : b.muted.typedText? = b.typedText? := by
  cases b <;> rfl

lemma date?_muted (b : Block) : b.muted.date? = b.date? := by
  cases b <;> rfl

lemma options?_muted (b : Block) : b.muted.options? = b.options?.map (List.map fun _ => "") := by
  cases b <;> rfl

end Block

/-! ### Nodes -/

namespace Node

/-- The node without words and media. -/
def muted (n : Node) : Node := { n with blocks := n.blocks.map Block.muted, media := Media.none }

variable (n : Node)

lemma muted_change? {f : Block → Option Block} (hf : Block.Wordless f) :
    (n.change? f).map muted = n.muted.change? f := by
  rw [change?, change?, muted, ← changeFirst?_map hf, Option.map_map, Option.map_map]
  rfl

lemma muted_clear : n.clear.muted = n.muted.clear := by
  simp only [muted, clear, List.map_map]
  congr 1
  exact List.map_congr_left fun b _ => b.clear_muted.symm

lemma muted_toggleAll (indices : List Nat) :
    (n.toggleAll indices).muted = n.muted.toggleAll indices := by
  induction indices generalizing n with
  | nil => rfl
  | cons index indices ih =>
    rw [toggleAll, toggleAll, List.foldl_cons, List.foldl_cons, ← toggleAll, ← toggleAll, ih,
      toggle?, toggle?, ← n.muted_change? (Block.wordless_toggle? index), Option.getD_map]

/-! #### What is read off a node -/

lemma selected_muted : n.muted.selected = n.selected := by
  rw [selected, selected, muted, List.flatMap_map]
  exact List.flatMap_congr fun b _ => b.selected_muted

lemma selectedCount_muted : n.muted.selectedCount = n.selectedCount := by
  rw [selectedCount, selectedCount, selected_muted]

lemma selectedKey?_muted : n.muted.selectedKey? = n.selectedKey? := by
  rw [selectedKey?, selectedKey?, selected_muted, muted]

lemma hasSelection_muted : n.muted.hasSelection = n.hasSelection := by
  rw [hasSelection, hasSelection, muted, List.any_map]
  congr 1
  funext b
  exact b.isSelection_muted

lemma typedText?_muted : n.muted.typedText? = n.typedText? := by
  rw [typedText?, typedText?, muted, List.findSome?_map]
  congr 1
  funext b
  exact b.typedText?_muted

lemma date?_muted : n.muted.date? = n.date? := by
  rw [date?, date?, muted, List.findSome?_map]
  congr 1
  funext b
  exact b.date?_muted

lemma answer_muted : n.muted.answer = n.answer := by
  simp only [answer, hasSelection_muted, selected_muted, typedText?_muted, date?_muted]

lemma isNumeric_muted : n.muted.isNumeric = n.isNumeric := by
  rw [isNumeric, isNumeric, muted, List.any_map]
  congr 1
  funext b
  cases b <;> rfl

lemma length_options?_muted :
    (n.muted.options?.getD []).length = (n.options?.getD []).length := by
  have hoptions : n.muted.options? = n.options?.map (List.map fun _ => "") := by
    rw [options?, options?, muted, List.findSome?_map, List.map_findSome?]
    congr 1
    funext b
    exact b.options?_muted
  rw [hoptions]
  cases n.options? with
  | none => rfl
  | some options => exact List.length_map _

end Node

/-! ### Replies -/

/-- The reply with its node muted. -/
def Reply.muted : Reply → Reply
  | answer n => answer n.muted
  | tick n => tick n.muted
  | r => r

namespace Node

variable (zone : Zone) (n : Node) (line : String)

lemma tickReply_muted : n.muted.tickReply line = (n.tickReply line).muted := by
  rw [tickReply, tickReply, length_options?_muted]
  cases (optionNumbers line).mapM (readOption (n.options?.getD []).length) with
  | ok indices => exact congrArg Reply.tick (n.muted_toggleAll indices).symm
  | error r => rfl

lemma chooseReply_muted : n.muted.chooseReply line = (n.chooseReply line).muted := by
  have hchoice : (optionIndex? line).bind (fun index => n.muted.select? index) =
      ((optionIndex? line).bind fun index => n.select? index).map muted := by
    rw [Option.map_bind]
    congr 1
    funext index
    exact (n.muted_change? (Block.wordless_select? index)).symm
  rw [chooseReply, chooseReply, hchoice]
  cases (optionIndex? line).bind fun index => n.select? index <;> rfl

lemma writeReply_muted : n.muted.writeReply line = (n.writeReply line).muted := by
  rw [writeReply, writeReply, isNumeric_muted, write?, write?,
    ← n.muted_change? (Block.wordless_write? line), Option.getD_map]
  split <;> rfl

lemma dateReply_muted : n.muted.dateReply zone line = (n.dateReply zone line).muted := by
  rw [dateReply, dateReply]
  cases Moment.ofTyped? zone line with
  | some date =>
    simp only [setDate?, ← n.muted_change? (Block.wordless_setDate? date), Option.getD_map]
    rfl
  | none => rfl

end Node

namespace Stop

/-- The stop without words and media. -/
def muted (s : Stop) : Stop := { s with node := s.node.muted }

variable (zone : Zone) (s : Stop)

lemma muted_eq_muted {s s' : Stop} : s.muted = s'.muted ↔
    s.node.muted = s'.node.muted ∧ s.exits = s'.exits ∧ s.kind = s'.kind ∧ s.task = s'.task ∧
      s.threshold = s'.threshold := by
  rw [muted, muted, Stop.mk.injEq]

lemma muted_withMedia (media : Media) : (s.withMedia media).muted = s.muted := rfl

lemma answerReply_muted (line : String) :
    s.muted.answerReply zone line = (s.answerReply zone line).muted := by
  simp only [answerReply, muted, Node.hasSelection_muted, Node.typedText?_muted,
    Node.tickReply_muted, Node.chooseReply_muted, Node.writeReply_muted, Node.dateReply_muted]
  split_ifs <;> rfl

lemma reply_muted (line : String) : s.muted.reply zone line = (s.reply zone line).muted := by
  rw [reply_eq, reply_eq, answerReply_muted]
  split_ifs <;> rfl

lemma awaitsChoice_muted : s.muted.awaitsChoice = s.awaitsChoice := by
  simp only [awaitsChoice, muted, Node.hasSelection_muted, Node.selectedCount_muted]

lemma transitionKey_muted (task : Option TaskType) (n : Node) (threshold : Nat)
    (settings : Settings) :
    transitionKey task n.muted threshold settings = transitionKey task n threshold settings := by
  have hoption : rightOption n.muted = rightOption n := by
    simp only [rightOption, n.selected_muted]
    rfl
  have htext : rightText n.muted settings = rightText n settings := by
    simp only [rightText, n.typedText?_muted]
    rfl
  simp only [transitionKey, n.selectedCount_muted, n.selectedKey?_muted, hoption, htext]

lemma key_muted (settings : Settings) : s.muted.key settings = s.key settings :=
  transitionKey_muted s.task s.node s.threshold settings

end Stop

/-! ### Built stops -/

namespace Presentation

variable {p q : Presentation}

lemma map_blank {labels labels' : List String} (h : labels.length = labels'.length) :
    (labels.map fun _ => "") = labels'.map fun _ => "" := by
  rw [List.map_const', List.map_const', h]

lemma muted_choiceBlock (labels : List String) :
    (p.choiceBlock labels).muted = .choice (labels.map fun _ => "") none :=
  congrArg (Block.choice · none) (map_blank (List.length_map _))

lemma muted_checks (labels : List String) :
    (Block.checks (labels.map p.say) []).muted = .checks (labels.map fun _ => "") [] :=
  congrArg (Block.checks · []) (map_blank (List.length_map _))

lemma muted_numbered (labels : List String) :
    (Block.list (numbered (labels.map p.say))).muted = .list (labels.map fun _ => "") := by
  refine congrArg Block.list (map_blank ?_)
  rw [numbered, List.length_map, List.length_zipIdx, List.length_map]

end Presentation

namespace Document

open Presentation (muted_choiceBlock muted_checks muted_numbered)

variable {d : Document} {p q : Presentation} {name : String}

lemma muted_taskNode (h : p.now = q.now) (task : TaskType) (decoded : NodeName)
    (labels keys : List String) :
    (taskNode p task decoded labels keys).muted = (taskNode q task decoded labels keys).muted := by
  cases task with
  | link | radioButtons | radioButtonsWithAnswer =>
    simp only [taskNode, Node.muted, Node.ofBlocks, List.map_cons, muted_choiceBlock]
    rfl
  | checklist =>
    simp only [taskNode, Node.muted, Node.ofBlocks, List.map_cons, muted_checks]
    rfl
  | classification =>
    simp only [taskNode, Node.muted, Node.ofBlocks, List.map_cons, muted_numbered]
    rfl
  | timestampDisplay =>
    simp only [taskNode, Node.muted, Node.ofBlocks, List.map_cons, h]
    rfl
  | _ => rfl

lemma muted_decisionStop (decoded : NodeName) (e : Element) :
    (decisionStop p decoded e).muted = (decisionStop q decoded e).muted := by
  simp only [decisionStop, Stop.muted, Node.muted, Node.ofBlocks, List.map_cons, muted_choiceBlock]
  rfl

lemma muted_bareStop (h : p.now = q.now) (decoded : NodeName) (kind : NodeKind) (e : Element) :
    (d.bareStop p decoded kind e).muted = (d.bareStop q decoded kind e).muted := by
  refine bareStop_induct (r := fun s s' => s.muted = s'.muted) d p q decoded e rfl
    (muted_decisionStop decoded e) ?_ rfl kind
  intro task
  simp only [taskStop, Stop.muted]
  rw [muted_taskNode h]

/-- Presentations of one time differ in nothing but words and media. -/
lemma muted_stop? (h : p.now = q.now) :
    (d.stop? p name).map Stop.muted = (d.stop? q name).map Stop.muted := by
  refine map_stop?_congr fun decoded kind e => ?_
  rw [Stop.muted_withMedia, Stop.muted_withMedia, muted_bareStop h]

end Document

end Walkthrough
