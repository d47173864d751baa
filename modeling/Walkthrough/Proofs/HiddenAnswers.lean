import Mathlib.Data.List.Basic
import Walkthrough.Proofs.NameComponents
import Walkthrough.Proofs.Reached
import Walkthrough.Session.View

/-!
# Hidden answers

Quizzes and text fields with an answer are named after the answer that they expect, which stands at
the end of the name.  Whoever plays must not see it.  The name is read in two ways: the components
before the last say what the node is, and the last one is the text, of which only the part before
the answer is shown.  So two names that differ in their answers alone are built into stops that
differ in nothing but the expected answer, and nothing that is shown of a stop looks at that.
-/

namespace Walkthrough

open Markup (Element)

/-! ### The text of a question -/

/-- Whether an answer can be hidden at the end of a name: it starts no further component there, and
no further answer. -/
structure Hideable (answer : String) : Prop where
  no_tilde : '~' ∉ answer.toList
  no_mark : Text.contains answer "Answer=" = false

instance (answer : String) : Decidable (Hideable answer) :=
  decidable_of_iff ('~' ∉ answer.toList ∧ Text.contains answer "Answer=" = false)
    ⟨fun h => ⟨h.1, h.2⟩, fun h => ⟨h.no_tilde, h.no_mark⟩⟩

/-- The text of a question as it is shown, without the blanks and at signs at its end. -/
def askedText (text : String) : String :=
  let front := Text.dropEndWhile (· == '@') (Text.dropEndWhile Text.isBlank text.toList)
  String.ofList (Text.dropEndWhile Text.isBlank front)

/-- An answer is cut off the text where the word for it stands last, wherever else it stands. -/
lemma splitAnswer_append (text : String) {answer : String} (h : Hideable answer) :
    splitAnswer (text ++ ("Answer=" ++ answer)) = (askedText text, some answer) := by
  have hcut : Text.cutLast? "Answer=" (text ++ ("Answer=" ++ answer)) = some (text, answer) :=
    Text.cutLast?_append (by decide : "Answer=".toList = 'A' :: "nswer=".toList) (by decide)
      h.no_mark text
  rw [splitAnswer, hcut]
  rfl

/-- A name that hides an answer reads, apart from that, like the name without it. -/
lemma NodeName.decode_hidden (name : String) {answer : String} (h : Hideable answer) :
    (decode (name ++ ("Answer=" ++ answer))).front = (decode name).front ∧
      splitAnswer (decode (name ++ ("Answer=" ++ answer))).text =
        (askedText (decode name).text, some answer) := by
  have htilde : '~' ∉ ("Answer=" ++ answer).toList := by
    rw [String.toList_append, List.mem_append, not_or]
    exact ⟨by decide, h.no_tilde⟩
  obtain ⟨hfront, htext⟩ := decode_append name htilde
  exact ⟨hfront, htext ▸ splitAnswer_append _ h⟩

/-! ### Stops that differ in their answers -/

/-- Whether the names of nodes of the type hide an answer. -/
def TaskType.hidesAnswer : TaskType → Bool
  | radioButtonsWithAnswer | textFieldWithAnswer | textAreaWithAnswer => true
  | _ => false

/-- The stop without the answer that it expects. -/
def Stop.concealed (s : Stop) : Stop := { s with node := { s.node with expected := none } }

lemma Stop.concealed_eq_concealed {s s' : Stop} (h : s.concealed = s'.concealed) :
    s.node.blocks = s'.node.blocks ∧ s.node.optionKeys = s'.node.optionKeys ∧
      s.node.media = s'.node.media ∧ s.exits = s'.exits ∧ s.kind = s'.kind ∧ s.task = s'.task ∧
      s.threshold = s'.threshold := by
  simpa only [concealed, Stop.mk.injEq, Node.mk.injEq, true_and, and_assoc] using h

section Build

variable {d d' : Document} {p : Presentation} {task : TaskType} {m n : NodeName} {e e' : Element}

lemma NodeName.threshold_eq_zero (h : n.taskType? = some task) (htask : task ≠ .checklist) :
    n.threshold = 0 := by
  rw [threshold, h]
  split
  · next heq _ => exact absurd (Option.some.inj heq) htask
  · rfl

lemma concealed_taskStop (htask : task.hidesAnswer = true) (hm : m.taskType? = some task)
    (hn : n.taskType? = some task) (hshown : (splitAnswer m.text).1 = (splitAnswer n.text).1)
    (hchildren : e.children = e'.children) :
    (taskStop d p task m e).concealed = (taskStop d' p task n e').concealed := by
  have hne : task ≠ .checklist := by
    rintro rfl
    cases htask
  have hthreshold : m.threshold = n.threshold := by
    rw [NodeName.threshold_eq_zero hm hne, NodeName.threshold_eq_zero hn hne]
  have htransitions : transitionsOf e = transitionsOf e' := by
    rw [transitionsOf, transitionsOf, Element.childrenNamed, Element.childrenNamed, hchildren]
  have hnames : taskNamesOf e = taskNamesOf e' := by
    rw [taskNamesOf, taskNamesOf, Element.childrenNamed, Element.childrenNamed, hchildren]
  cases task <;> simp only [TaskType.hidesAnswer, Bool.false_eq_true] at htask
  all_goals
    simp [taskStop, taskNode, Stop.concealed, Node.ofBlocks, hshown, htransitions, hnames,
      hthreshold]

lemma concealed_stop? {name name' : String} {s s' : Stop} (htask : task.hidesAnswer = true)
    (hm : (NodeName.decode name).taskType? = some task)
    (hfront : (NodeName.decode name).front = (NodeName.decode name').front)
    (hshown : (splitAnswer (NodeName.decode name).text).1 =
      (splitAnswer (NodeName.decode name').text).1)
    (hfind : d.find? name = some (.task, e)) (hfind' : d'.find? name' = some (.task, e'))
    (hchildren : e.children = e'.children) (hs : d.stop? p name = some s)
    (hs' : d'.stop? p name' = some s') : s.concealed = s'.concealed := by
  have hn : (NodeName.decode name').taskType? = some task := NodeName.taskType?_congr hfront ▸ hm
  have hmedia : p.media (NodeName.decode name) = p.media (NodeName.decode name') := by
    simp only [Presentation.media, NodeName.backgroundImage?, NodeName.backgroundAudio?,
      NodeName.narration?, NodeName.marker?_congr hfront]
  have hbare : (taskStop d p task (NodeName.decode name) e).concealed =
      (taskStop d' p task (NodeName.decode name') e').concealed :=
    concealed_taskStop htask hm hn hshown hchildren
  rw [Document.stop?, hfind, Option.map_some, Option.some.injEq] at hs
  rw [Document.stop?, hfind', Option.map_some, Option.some.injEq] at hs'
  rw [← hs, ← hs']
  simp only [Document.bareStop, hm, hn, hmedia]
  exact congrArg (Stop.withMedia · _) hbare

end Build

/-! ### What is shown -/

namespace Walk

variable {v w : Walk}

/-- What is shown of a walk does not depend on the expected answer. -/
lemma view_congr (hstop : v.stop.concealed = w.stop.concealed) (hglossary : v.glossary = w.glossary)
    (colored : Bool) : v.view colored = w.view colored := by
  obtain ⟨hblocks, -, -, -, hkind, htask, hthreshold⟩ := Stop.concealed_eq_concealed hstop
  have hend : v.atEnd = w.atEnd := by rw [atEnd, atEnd, hkind]
  rw [view, view, thresholdLines, thresholdLines, hintLines, hintLines, Node.texts, Node.texts,
    hblocks, htask, hthreshold, hglossary, hend]

end Walk

namespace Document

variable {d d' : Document} {task : TaskType} {name a a' : String} {e e' : Element}

/-- Nodes that ask for an answer are built alike, whatever answer their names hide: from the same
children, in the same words and with the same media, they have the same blocks, option keys, files
and ways out, so that the same is shown of them. -/
theorem stop?_hidden_answer (p : Presentation)
    (htask : (NodeName.decode name).taskType? = some task) (hhides : task.hidesAnswer = true)
    (ha : Hideable a) (ha' : Hideable a')
    (hfind : d.find? (name ++ ("Answer=" ++ a)) = some (.task, e))
    (hfind' : d'.find? (name ++ ("Answer=" ++ a')) = some (.task, e'))
    (hchildren : e.children = e'.children) :
    ∃ s s', d.stop? p (name ++ ("Answer=" ++ a)) = some s ∧
      d'.stop? p (name ++ ("Answer=" ++ a')) = some s' ∧
      s.node.blocks = s'.node.blocks ∧
      s.node.optionKeys = s'.node.optionKeys ∧
      s.node.media = s'.node.media ∧
      s.exits = s'.exits ∧
      ∀ v w : Walk, v.stop = s → w.stop = s' → v.glossary = w.glossary →
        ∀ colored, v.view colored = w.view colored := by
  obtain ⟨hfront, hshown⟩ := NodeName.decode_hidden name ha
  obtain ⟨hfront', hshown'⟩ := NodeName.decode_hidden name ha'
  have hsome : (d.stop? p (name ++ ("Answer=" ++ a))).isSome = true := by
    rw [isSome_stop?, contains, hfind, Option.isSome_some]
  have hsome' : (d'.stop? p (name ++ ("Answer=" ++ a'))).isSome = true := by
    rw [isSome_stop?, contains, hfind', Option.isSome_some]
  obtain ⟨s, hs⟩ := Option.isSome_iff_exists.1 hsome
  obtain ⟨s', hs'⟩ := Option.isSome_iff_exists.1 hsome'
  have hhidden := (NodeName.taskType?_congr hfront).trans htask
  have hconcealed : s.concealed = s'.concealed :=
    concealed_stop? hhides hhidden (hfront.trans hfront'.symm) (by rw [hshown, hshown']) hfind
      hfind' hchildren hs hs'
  obtain ⟨hblocks, hkeys, hmedia, hexits, -⟩ := Stop.concealed_eq_concealed hconcealed
  exact ⟨s, s', hs, hs', hblocks, hkeys, hmedia, hexits,
    fun v w hv hw hglossary => Walk.view_congr (by rw [hv, hw, hconcealed]) hglossary⟩

end Document

/-! ### A quiz -/

namespace Quiz

/-- A question about an answer, which its text seems to give away. -/
def question : String := "radioButtonsWithAnswer~@bg=sky~Is Answer=4 right? @ "

/-- The question as it is declared with an answer. -/
def declaration (answer : String) : Element :=
  Errand.element "task-node" [("name", question ++ ("Answer=" ++ answer))]
    [Errand.element "task" [("name", "Yes~1")] [], Errand.element "task" [("name", "No~2")] [],
      Errand.element "transition" [("name", "Yes"), ("to", "Done")] []]

/-- The question is asked twice, and the second time no option is right. -/
def document : Document where
  root := Errand.element "process-definition" [] [declaration "0", declaration "5|6"]
  root_name := rfl

variable {p : Presentation} {answer : String} {s : Stop}

lemma taskType?_question : (NodeName.decode question).taskType? = some .radioButtonsWithAnswer := by
  decide +kernel

lemma find?_document (h : answer ∈ ["0", "5|6"]) :
    document.find? (question ++ ("Answer=" ++ answer)) = some (.task, declaration answer) := by
  simp only [List.mem_cons, List.not_mem_nil, or_false] at h
  rcases h with rfl | rfl <;> rfl

/-- The answer is expected though it is not shown. -/
lemma expected_stop? (h : answer ∈ ["0", "5|6"]) (hanswer : Hideable answer)
    (hs : document.stop? p (question ++ ("Answer=" ++ answer)) = some s) :
    s.node.expected = some (.option (Text.count? (Text.trim answer))) := by
  obtain ⟨hfront, hshown⟩ := NodeName.decode_hidden question hanswer
  have htask := (NodeName.taskType?_congr hfront).trans taskType?_question
  rw [Document.stop?, find?_document h, Option.map_some, Option.some.injEq] at hs
  rw [← hs]
  simp only [Document.bareStop, htask, Stop.withMedia, taskStop, taskNode, hshown, Option.bind_some]

end Quiz

theorem Document.stop?_hidden_answer_quiz :
    ∃ s s',
      Quiz.document.stop? (Errand.loudTree.presentation Errand.midnight "English")
        (Quiz.question ++ ("Answer=" ++ "0")) = some s ∧
      Quiz.document.stop? (Errand.loudTree.presentation Errand.midnight "English")
        (Quiz.question ++ ("Answer=" ++ "5|6")) = some s' ∧
      s.node.blocks = s'.node.blocks ∧
      s.node.expected = some (.option (some 0)) ∧ s'.node.expected = some (.option none) := by
  have hright : Hideable "0" := by decide
  have hwrong : Hideable "5|6" := by decide
  have hfind := Quiz.find?_document (List.mem_cons_self : "0" ∈ ["0", "5|6"])
  have hfind' := Quiz.find?_document (List.mem_cons_of_mem _ (List.mem_singleton_self "5|6"))
  have hchildren : (Quiz.declaration "0").children = (Quiz.declaration "5|6").children := rfl
  obtain ⟨s, s', hs, hs', hblocks, -⟩ := Document.stop?_hidden_answer
    (Errand.loudTree.presentation Errand.midnight "English") Quiz.taskType?_question rfl hright
    hwrong hfind hfind' hchildren
  refine ⟨s, s', hs, hs', hblocks, ?_, ?_⟩
  · rw [Quiz.expected_stop? (by simp) hright hs]
    rfl
  · rw [Quiz.expected_stop? (by simp) hwrong hs']
    rfl

end Walkthrough
