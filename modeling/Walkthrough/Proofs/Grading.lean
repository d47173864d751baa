import Mathlib.Data.List.Basic
import Walkthrough.Proofs.FullAnswers
import Walkthrough.Proofs.HiddenAnswers
import Walkthrough.Proofs.Numerals

/-!
# Grading

A quiz is graded by its name alone.  The name hides an answer at its end: for a text, that answer
lists the alternatives that are accepted, and for a choice it is the number of the right option.
What a name hides is said here without cutting it up, and the key under which a quiz is left is
traced back to that.  The expected answer is no part of what is answered, so it is the same at every
walk that has reached the quiz, in whatever language and after whatever was chosen or typed.
-/

namespace Walkthrough

open Text (IsNumeralOf IsPiece countBound)

/-! ### What a name hides -/

/-- Whether a name hides an answer.  The answer stands at the end of the name behind the word for
it, and neither a tilde nor that word stands in the answer; so the answer belongs to the last
component, and the word is the last one there. -/
structure HidesAnswer (name answer : String) : Prop where
  hideable : Hideable answer
  exists_front : ∃ front, name = front ++ ("Answer=" ++ answer)

lemma splitAnswer_snd (text : String) :
    (splitAnswer text).2 = (Text.cutLast? "Answer=" text).map Prod.snd := by
  rw [splitAnswer]
  cases Text.cutLast? "Answer=" text <;> rfl

/-- The answer that is cut off the text of a name is the one that the name hides. -/
lemma splitAnswer_eq_some {name answer : String} :
    (splitAnswer (NodeName.decode name).text).2 = some answer ↔ HidesAnswer name answer := by
  constructor
  · intro h
    obtain ⟨hfree, front, hname⟩ := NodeName.exists_front name
    rw [splitAnswer_snd] at h
    obtain ⟨⟨shown, _⟩, hcut, rfl⟩ := Option.map_eq_some_iff.1 h
    obtain ⟨htext, hmark⟩ := Text.cutLast?_eq_some (by decide) hcut
    rw [htext] at hfree hname
    simp only [String.toList_append, List.mem_append, not_or] at hfree
    exact ⟨⟨hfree.2.2, hmark⟩, front ++ shown, by rw [hname, String.append_assoc]⟩
  · rintro ⟨hanswer, front, rfl⟩
    rw [(NodeName.decode_hidden front hanswer).2]

lemma HidesAnswer.unique {name answer answer' : String} (h : HidesAnswer name answer)
    (h' : HidesAnswer name answer') : answer = answer' := by
  rw [← splitAnswer_eq_some] at h h'
  exact Option.some.inj (h.symm.trans h')

/-! ### Which answers are right -/

/-- Whether two texts count as the same answer: blanks around them are left out if the settings say
so, and then letter case does not matter if the settings say so. -/
def SameAnswer (settings : Settings) (a b : String) : Prop :=
  match settings.trimAnswers, settings.matching with
  | false, .caseSensitive => a = b
  | true, .caseSensitive => Text.trim a = Text.trim b
  | false, .caseInsensitive => Text.lower a = Text.lower b
  | true, .caseInsensitive => Text.lower (Text.trim a) = Text.lower (Text.trim b)

/-- Whether a text is accepted at the node of a name: it counts as the same as one of the
alternatives between the bars of the answer that the name hides. -/
def Accepts (settings : Settings) (name typed : String) : Prop :=
  ∃ answer alternative, HidesAnswer name answer ∧
    IsPiece (· == '|') answer.toList alternative.toList ∧ SameAnswer settings alternative typed

/-- Whether the answer that a name hides is the number of an option.  Options are numbered from
zero here. -/
def HidesNumber (name : String) (index : Nat) : Prop :=
  ∃ answer, HidesAnswer name answer ∧ IsNumeralOf (Text.trim answer) index

lemma HidesNumber.unique {name : String} {i j : Nat} (h : HidesNumber name i)
    (h' : HidesNumber name j) : i = j := by
  obtain ⟨answer, hanswer, hi⟩ := h
  obtain ⟨answer', hanswer', hj⟩ := h'
  obtain rfl := hanswer.unique hanswer'
  exact hi.unique hj

lemma sameAnswer_iff {settings : Settings} {a b : String} :
    normalizeAnswer settings.matching settings.trimAnswers a =
      normalizeAnswer settings.matching settings.trimAnswers b ↔ SameAnswer settings a b := by
  obtain ⟨matching, trimmed, -, -, -⟩ := settings
  cases matching <;> cases trimmed <;> exact Iff.rfl

/-- The texts that are accepted at the node of a name. -/
def acceptedTexts (name : String) : List String :=
  (((splitAnswer (NodeName.decode name).text).2.map (Text.pieces '|')).getD [])

lemma answerMatches_iff {settings : Settings} {name typed : String} :
    answerMatches settings.matching settings.trimAnswers (acceptedTexts name) typed = true ↔
      Accepts settings name typed := by
  simp only [answerMatches, List.any_eq_true, beq_iff_eq, sameAnswer_iff, acceptedTexts]
  constructor
  · rintro ⟨alternative, hmem, hsame⟩
    cases hanswer : (splitAnswer (NodeName.decode name).text).2 with
    | none => simp [hanswer] at hmem
    | some answer =>
      rw [hanswer] at hmem
      exact ⟨answer, alternative, splitAnswer_eq_some.1 hanswer, Text.mem_pieces.1 hmem, hsame⟩
  · rintro ⟨answer, alternative, hanswer, hpiece, hsame⟩
    rw [splitAnswer_eq_some.2 hanswer]
    exact ⟨alternative, Text.mem_pieces.2 hpiece, hsame⟩

/-- The index of the right option at the node of a name. -/
def rightIndex? (name : String) : Option Nat :=
  (splitAnswer (NodeName.decode name).text).2.bind fun answer => Text.count? (Text.trim answer)

lemma rightIndex?_eq_some {name : String} {i : Nat} :
    rightIndex? name = some i ↔ HidesNumber name i ∧ i < countBound := by
  simp only [rightIndex?, Option.bind_eq_some_iff, splitAnswer_eq_some, Text.count?_eq_some,
    HidesNumber, ← and_assoc, exists_and_right]

/-! ### What a quiz expects -/

/-- A key that tells whether something holds. -/
def Verdict (right : Prop) (key : String) : Prop := right ∧ key = "Yes" ∨ ¬right ∧ key = "No"

lemma verdict_yesNo {right : Prop} {b : Bool} (h : b = true ↔ right) : Verdict right (yesNo b) := by
  cases b with
  | false => exact Or.inr ⟨fun hright => Bool.false_ne_true (h.2 hright), rfl⟩
  | true => exact Or.inl ⟨h.1 rfl, rfl⟩

lemma Verdict.congr {right right' : Prop} {key : String} (h : Verdict right key)
    (hiff : right ↔ right') : Verdict right' key := by
  rwa [Verdict, ← hiff]

lemma Verdict.eq_yes_iff {right : Prop} {key : String} (h : Verdict right key) :
    key = "Yes" ↔ right := by
  rcases h with ⟨hright, rfl⟩ | ⟨hright, rfl⟩
  · exact iff_of_true rfl hright
  · exact iff_of_false (by decide) hright

lemma Verdict.eq_no {right : Prop} {key : String} (h : Verdict right key) (hnot : ¬right) :
    key = "No" := by
  rcases h with ⟨hright, -⟩ | ⟨-, hkey⟩
  · exact absurd hright hnot
  · exact hkey

namespace Document

variable {d : Document} {p : Presentation} {name : String} {s : Stop} {task : TaskType}

/-- A stop whose type is not that of a link or decision is that of a task node of the type. -/
lemma eq_taskStop (h : d.stop? p name = some s) (htask : s.task = some task)
    (hlink : task ≠ .link) :
    (NodeName.decode name).taskType? = some task ∧ ∃ e,
      s = (taskStop d p task (NodeName.decode name) e).withMedia
        (p.media (NodeName.decode name)) := by
  obtain ⟨kind, e, -, rfl⟩ := stop?_eq_some h
  cases kind with
  | final => cases htask
  | decision => exact absurd (Option.some.inj htask).symm hlink
  | task =>
    rw [bareStop] at htask ⊢
    split at htask
    · next type htype =>
      obtain rfl : type = task := Option.some.inj htask
      exact ⟨htype, e, rfl⟩
    · cases htask

lemma expected_text (h : d.stop? p name = some s)
    (htask : s.task = some .textFieldWithAnswer ∨ s.task = some .textAreaWithAnswer) :
    s.node.expected = some (.texts (acceptedTexts name)) := by
  rcases htask with htask | htask
  all_goals
    obtain ⟨-, e, rfl⟩ := eq_taskStop h htask (by decide)
    simp only [Stop.withMedia, taskStop, taskNode, acceptedTexts]

lemma expected_option (h : d.stop? p name = some s)
    (htask : s.task = some .radioButtonsWithAnswer) :
    s.node.expected = some (.option (rightIndex? name)) := by
  obtain ⟨-, e, rfl⟩ := eq_taskStop h htask (by decide)
  simp only [Stop.withMedia, taskStop, taskNode, rightIndex?]

end Document

/-! ### Typing -/

lemma exists_changeFirst? {α : Type} {f : α → Option α} {x : α} {l : List α} (hx : x ∈ l)
    (hf : (f x).isSome) : ∃ l', changeFirst? f l = some l' := by
  induction l with
  | nil => cases hx
  | cons y l ih =>
    rw [changeFirst?]
    cases hy : f y with
    | some z => exact ⟨_, rfl⟩
    | none =>
      rcases List.mem_cons.1 hx with rfl | hx
      · rw [hy] at hf
        cases hf
      · obtain ⟨l', hl'⟩ := ih hx
        exact ⟨y :: l', by rw [hl', Option.map_some]⟩

/-- A text can be typed where there is an input, and changes nothing that is expected. -/
lemma Node.exists_write? {n : Node} {typed : String} {mode : LineMode} {unit : Option String}
    {numeric : Bool} (h : Block.input typed mode unit numeric ∈ n.blocks) (text : String) :
    ∃ n', n.write? text = some n' ∧ n'.typedText? = some text ∧ n'.expected = n.expected := by
  obtain ⟨blocks, hblocks⟩ := exists_changeFirst? (f := Block.write? text) h rfl
  have hwrite : n.write? text = some { n with blocks := blocks } := by
    rw [write?, change?, hblocks, Option.map_some]
  exact ⟨_, hwrite, typedText?_write? hwrite, rfl⟩

/-! ### Quizzes that are reached -/

namespace Walk

variable {t : Tree} {w : Walk}

/-- What is expected of the current stop is expected of the stop that is built there. -/
lemma Sound.exists_expected (h : w.Sound) :
    ∃ fresh, w.tree.document.stop? (w.tree.presentation w.now w.language) w.here = some fresh ∧
      fresh.task = w.stop.task ∧ fresh.node.expected = w.stop.node.expected := by
  obtain ⟨fresh, hfresh, hsame⟩ := Option.map_eq_some_iff.1 h.fresh
  have htask : fresh.unanswered.task = w.stop.unanswered.task := by rw [hsame]
  have hexpected : fresh.unanswered.node.expected = w.stop.unanswered.node.expected := by
    rw [hsame]
  exact ⟨fresh, hfresh, htask, hexpected⟩

/-- Walks at the same node of a tree are asked the same. -/
lemma Sound.question_eq {w' : Walk} (h : w.Sound) (h' : w'.Sound) (htree : w'.tree = w.tree)
    (hhere : w'.here = w.here) : w'.stop.question = w.stop.question := by
  obtain ⟨stop, hstop, hquestion⟩ := h.exists_question w.now w.language
  obtain ⟨stop', hstop', hquestion'⟩ := h'.exists_question w.now w.language
  rw [htree, hhere, hstop] at hstop'
  obtain rfl := Option.some.inj hstop'
  exact hquestion'.symm.trans hquestion

lemma Sound.verdict_write (h : w.Sound)
    (htask : w.stop.task = some .textFieldWithAnswer ∨ w.stop.task = some .textAreaWithAnswer)
    (typed : String) :
    ∃ v, (Action.write typed).perform? w = some v ∧
      Verdict (Accepts w.tree.settings w.here typed) v.key := by
  obtain ⟨mode, unit, numeric, hinput⟩ : ∃ mode unit numeric,
      Block.input "" mode unit numeric ∈ w.stop.node.unanswered.blocks := by
    rcases htask with htask | htask <;> exact h.asks.input _ htask rfl
  obtain ⟨before, hinput⟩ := Node.exists_input hinput
  obtain ⟨n, hwrite, htyped, hexpected⟩ := Node.exists_write? hinput typed
  obtain ⟨fresh, hfresh, hsame, hexpected'⟩ := h.exists_expected
  rw [← hexpected', Document.expected_text hfresh (hsame ▸ htask)] at hexpected
  have hkey : (w.withNode n).key = yesNo (rightText n w.tree.settings) := by
    rw [key, Stop.key, withNode]
    rcases htask with htask | htask <;> rw [htask, transitionKey]
  refine ⟨w.withNode n, ?_, ?_⟩
  · rw [Action.perform?, answer?, hwrite, Option.map_some]
  · rw [hkey]
    refine verdict_yesNo ?_
    rw [rightText, hexpected, htyped]
    exact answerMatches_iff

lemma Sound.verdict_choice (h : w.Sound) (htask : w.stop.task = some .radioButtonsWithAnswer) :
    Verdict (∃ i < countBound, HidesNumber w.here i ∧ w.stop.node.selected = [i]) w.key := by
  obtain ⟨fresh, hfresh, hsame, hexpected⟩ := h.exists_expected
  rw [Document.expected_option hfresh (hsame.trans htask)] at hexpected
  obtain ⟨-, chosen, hselected⟩ := h.exists_option htask rfl
  have hkey : w.key = yesNo (rightOption w.stop.node) := by
    rw [key, Stop.key, htask, transitionKey]
  rw [hkey]
  refine verdict_yesNo ?_
  rw [rightOption, ← hexpected, hselected]
  constructor
  · intro hright
    cases hindex : rightIndex? w.here with
    | none => simp [hindex] at hright
    | some i =>
      obtain ⟨hhides, hbound⟩ := rightIndex?_eq_some.1 hindex
      cases chosen with
      | none => simp [hindex] at hright
      | some j =>
        obtain rfl : j = i := by simpa [hindex] using hright
        exact ⟨j, hbound, hhides, rfl⟩
  · rintro ⟨i, hbound, hhides, hi⟩
    rw [rightIndex?_eq_some.2 ⟨hhides, hbound⟩, hi]
    exact beq_self_eq_true (some i)

/-- In every walk that can be reached, a typed text is graded by the alternatives that the name of
the node hides, and a choice by the number that it hides.  So at most one option is ever right, and
none if there are not so many.  Numbers of options are counts, so it is assumed that there are not
more options than can be counted. -/
theorem Reached.quiz_key (h : Reached t w) :
    (w.stop.task = some .textFieldWithAnswer ∨ w.stop.task = some .textAreaWithAnswer →
      ∀ typed, ∃ v, (Action.write typed).perform? w = some v ∧
        Verdict (Accepts t.settings w.here typed) v.key) ∧
    (w.stop.task = some .radioButtonsWithAnswer → w.stop.node.optionCount ≤ countBound →
      Verdict (∃ i, HidesNumber w.here i ∧ w.stop.node.selected = [i]) w.key ∧
      (∀ i, HidesNumber w.here i → w.stop.node.optionCount ≤ i → w.key = "No") ∧
      ∀ v, Reached t v → v.here = w.here → v.key = "Yes" → w.key = "Yes" →
        v.stop.node.selected = w.stop.node.selected) := by
  have hsound := h.sound
  refine ⟨fun htask typed => h.tree_eq ▸ hsound.verdict_write htask typed, fun htask hcount => ?_⟩
  -- what is selected is offered, so its number can be counted
  have hoffered : ∀ i, w.stop.node.selected = [i] → i < w.stop.node.optionCount := by
    intro i hi
    exact hsound.consistent.lt_of_mem_selected hsound.legal i (hi ▸ List.mem_singleton_self i)
  have hverdict := hsound.verdict_choice htask
  refine ⟨hverdict.congr ⟨?_, ?_⟩, fun i hi hless => hverdict.eq_no ?_, ?_⟩
  · rintro ⟨i, -, hi, hselected⟩
    exact ⟨i, hi, hselected⟩
  · rintro ⟨i, hi, hselected⟩
    exact ⟨i, lt_of_lt_of_le (hoffered i hselected) hcount, hi, hselected⟩
  · rintro ⟨j, -, hj, hselected⟩
    obtain rfl := hi.unique hj
    exact absurd (hoffered i hselected) (Nat.not_lt.2 hless)
  · intro v hv hhere hyes hyes'
    have hasked := hsound.question_eq hv.sound (hv.tree_eq.trans h.tree_eq.symm) hhere
    have htask' : v.stop.task = some .radioButtonsWithAnswer :=
      (congrArg (fun q => q.2.1) hasked).trans htask
    obtain ⟨i, -, hi, hselected⟩ := (hv.sound.verdict_choice htask').eq_yes_iff.1 hyes
    obtain ⟨j, -, hj, hselected'⟩ := hverdict.eq_yes_iff.1 hyes'
    rw [hhere] at hi
    rw [hselected, hselected', hi.unique hj]

end Walk

/-! ### An exam -/

namespace Exam

open Errand (element)

/-- The name of a question about a pet, to which a cat is an answer, or a big dog, or nothing. -/
def pet : String := "textFieldWithAnswer~Name a pet @Answer=cat|Big Dog|"

/-- The name of a question about a color, whose text seems to give another answer away. -/
def color : String := "radioButtonsWithAnswer~Is Answer=0 red? Answer= +01 "

/-- An exam that asks for a pet, and for a color only after a right answer. -/
def document : Document where
  root := element "process-definition" []
    [element "start-state" [] [element "transition" [("to", pet)] []],
      element "task-node" [("name", pet)]
        [element "transition" [("name", "Yes"), ("to", color)] []],
      element "task-node" [("name", color)]
        [element "task" [("name", "Grass")] [], element "task" [("name", "Apple")] []]]
  root_name := rfl

/-- The exam, with letter case left out of account. -/
def tree : Tree :=
  { Errand.tree with
    document := document, settings := { Settings.default with matching := .caseInsensitive } }

/-- The right answers to both questions. -/
def script : List (Moment × Action) :=
  [Action.write " big dog", .advance, .select 1].map fun a => (Errand.midnight, a)

lemma exists_start : ∃ w, Walk.start tree Errand.midnight = .ok w ∧
    (w.here, w.stop.task) = (pet, some .textFieldWithAnswer) ∧
    ((Action.run w script).here, (Action.run w script).stop.task) =
      (color, some .radioButtonsWithAnswer) ∧
    ((Action.run w script).stop.node.optionCount, (Action.run w script).stop.node.selected) =
      (2, [1]) := by
  have hwalk : (Walk.start tree Errand.midnight).toOption.map (fun w =>
      ((w.here, w.stop.task), ((Action.run w script).here, (Action.run w script).stop.task),
        ((Action.run w script).stop.node.optionCount, (Action.run w script).stop.node.selected))) =
        some ((pet, some .textFieldWithAnswer), (color, some .radioButtonsWithAnswer),
          (2, [1])) := by
    decide +kernel
  obtain ⟨w, hw, heq⟩ := Walk.exists_start_of_map hwalk
  simp only [Prod.mk.injEq] at heq ⊢
  exact ⟨w, hw, heq⟩

lemma accepts_dog : Accepts tree.settings pet " big dog" := by
  refine ⟨"cat|Big Dog|", "Big Dog", ⟨by decide, "textFieldWithAnswer~Name a pet @", rfl⟩,
    Text.mem_pieces.1 (by decide +kernel), ?_⟩
  rw [← sameAnswer_iff]
  decide +kernel

lemma not_accepts_small : ¬Accepts tree.settings pet "dog" := by
  rw [← answerMatches_iff]
  decide +kernel

lemma hidesNumber_color : HidesNumber color 1 :=
  ⟨" +01 ", ⟨by decide, "radioButtonsWithAnswer~Is Answer=0 red? ", rfl⟩,
    Text.isNumeralOf_iff.2 (by decide)⟩

end Exam

/-- The big dog is accepted in small letters behind a blank, a dog alone is not, and the second
option is right. -/
theorem Walk.quiz_key_exam :
    ∃ w v, Walk.start Exam.tree Errand.midnight = .ok w ∧
      (∃ w', (Action.write " big dog").perform? w = some w' ∧ w'.key = "Yes") ∧
      (∃ w', (Action.write "dog").perform? w = some w' ∧ w'.key = "No") ∧
      Reached Exam.tree v ∧ v.stop.node.selected = [1] ∧ v.key = "Yes" := by
  obtain ⟨w, hw, hpet, hcolor, hchosen⟩ := Exam.exists_start
  simp only [Prod.mk.injEq] at hpet hcolor hchosen
  have hv := (Reached.start hw).run Exam.script
  obtain ⟨htyped, -⟩ := (Reached.start hw).quiz_key
  obtain ⟨-, hoption⟩ := hv.quiz_key
  have hgraded := htyped (Or.inl hpet.2)
  rw [hpet.1] at hgraded
  obtain ⟨w₁, hw₁, hright⟩ := hgraded " big dog"
  obtain ⟨w₂, hw₂, hwrong⟩ := hgraded "dog"
  obtain ⟨hverdict, -⟩ := hoption hcolor.2 (hchosen.1 ▸ by decide)
  rw [hcolor.1] at hverdict
  exact ⟨w, _, hw, ⟨w₁, hw₁, hright.eq_yes_iff.2 Exam.accepts_dog⟩,
    ⟨w₂, hw₂, hwrong.eq_no Exam.not_accepts_small⟩, hv, hchosen.2,
    hverdict.eq_yes_iff.2 ⟨1, Exam.hidesNumber_color, hchosen.2⟩⟩

end Walkthrough
