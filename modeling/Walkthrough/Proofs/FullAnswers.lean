import Mathlib.Data.List.Forall2
import Walkthrough.Proofs.CurrentStop
import Walkthrough.Proofs.Cutting
import Walkthrough.Proofs.Ledger
import Walkthrough.Proofs.Questions
import Walkthrough.Proofs.Trimming

/-!
# Sessions put full answers on record

Between the lines of a session a node may hold a part of an answer, or none.  But a session only
puts a walk on record when the answer is a full one: one of the options where one is to be chosen,
ticks that decide about the key on a checklist, and a text that was typed at one line, or none at
all, where a text is asked for.  The invariant is about the text of the current node alone, since
what can be chosen and ticked is legal in every walk.  A line is read against it when it is typed,
and each time the walk moves the text is empty again.
-/

namespace Walkthrough

/-! ### What can be typed -/

namespace Text

/-- A text that can be typed at one line: it has no line break, no blanks around it, and is no
command.  The empty text is one of them, for an input that was left out. -/
structure Entered (s : String) : Prop where
  no_break : '\n' ∉ s.toList
  trimmed : Trimmed isBlank s.toList
  ne_quit : s ≠ "q"
  ne_back : s ≠ "b"

lemma entered_empty : Entered "" := by
  refine ⟨by simp, ⟨by simp, by simp⟩, by decide, by decide⟩

lemma entered_trim {line : String} (hline : '\n' ∉ line.toList) (hquit : trim line ≠ "q")
    (hback : trim line ≠ "b") : Entered (trim line) := by
  have htrim : (trim line).toList = stripWhile isBlank line.toList := String.toList_ofList
  refine ⟨fun hbreak => hline ?_, ?_, hquit, hback⟩
  · rw [htrim] at hbreak
    exact mem_of_mem_stripWhile hbreak
  · rw [htrim]
    exact trimmed_stripWhile isBlank line.toList

end Text

lemma not_mem_of_mem_textLines {s line : String} (h : line ∈ textLines s) :
    '\n' ∉ line.toList := by
  have hpieces : line ∈ Text.pieces '\n' s := by
    rw [textLines] at h
    split at h
    · exact (List.dropLast_sublist _).subset h
    · exact h
  obtain ⟨piece, hpiece, rfl⟩ := List.mem_map.1 hpieces
  rw [String.toList_ofList]
  intro hbreak
  simpa using Text.eq_false_of_mem_piecesOf hpiece _ hbreak

/-! ### Texts of nodes -/

namespace Node

variable {n n' : Node}

/-- A text that the node holds can be typed, and it is a numeral or empty if the node asks for a
number. -/
structure Composed (n : Node) : Prop where
  entered : ∀ typed, n.typedText? = some typed → Text.Entered typed
  numeral : n.isNumeric = true →
    ∀ typed, n.typedText? = some typed → typed = "" ∨ Text.isDecimal typed = true

lemma composed_of_empty (h : ∀ typed, n.typedText? = some typed → typed = "") : n.Composed :=
  ⟨fun typed htyped => h typed htyped ▸ Text.entered_empty, fun _ typed htyped =>
    Or.inl (h typed htyped)⟩

lemma Composed.of_eq (h : n.Composed) (htext : n'.typedText? = n.typedText?)
    (hsame : n'.unanswered = n.unanswered) : n'.Composed := by
  have hnumeric : n'.isNumeric = n.isNumeric := by
    rw [← n'.isNumeric_unanswered, hsame, n.isNumeric_unanswered]
  exact ⟨htext ▸ h.entered, fun hn => htext ▸ h.numeral (hnumeric ▸ hn)⟩

/-- A way of answering that leaves the texts of blocks alone leaves that of the node alone. -/
lemma typedText?_change? {f : Block → Option Block}
    (hf : ∀ {b b'}, f b = some b' → b'.typedText? = b.typedText?) (h : n.change? f = some n') :
    n'.typedText? = n.typedText? := by
  obtain ⟨blocks, hblocks, rfl⟩ := Option.map_eq_some_iff.1 h
  obtain ⟨front, b, b', back, hn, hb, rfl⟩ := changeFirst?_eq_some hblocks
  simp only [typedText?, hn, List.findSome?_append, List.findSome?_cons, hf hb]

lemma typedText?_select? {index : Nat} (h : n.select? index = some n') :
    n'.typedText? = n.typedText? := by
  refine typedText?_change? (fun {b b'} hb => ?_) h
  cases b <;> simp only [Block.select?, Option.ite_none_right_eq_some, reduceCtorEq,
    Option.some.injEq] at hb
  obtain ⟨-, rfl⟩ := hb
  rfl

lemma typedText?_toggle? {index : Nat} (h : n.toggle? index = some n') :
    n'.typedText? = n.typedText? := by
  refine typedText?_change? (fun {b b'} hb => ?_) h
  cases b <;> simp only [Block.toggle?, Option.ite_none_right_eq_some, reduceCtorEq,
    Option.some.injEq] at hb
  obtain ⟨-, rfl⟩ := hb
  rfl

lemma typedText?_setDate? {value : Moment} (h : n.setDate? value = some n') :
    n'.typedText? = n.typedText? := by
  refine typedText?_change? (fun {b b'} hb => ?_) h
  cases b <;> simp only [Block.setDate?, reduceCtorEq, Option.some.injEq] at hb
  subst hb
  rfl

lemma findSome?_typedText?_write? {typed : String} {blocks blocks' : List Block}
    (h : changeFirst? (Block.write? typed) blocks = some blocks') :
    blocks'.findSome? Block.typedText? = some typed := by
  induction blocks generalizing blocks' with
  | nil => exact absurd h (by simp [changeFirst?])
  | cons b blocks ih =>
    rw [changeFirst?] at h
    cases b with
    | input text mode unit numeric =>
      obtain rfl := Option.some.inj h
      rfl
    | _ =>
      obtain ⟨later, hlater, rfl⟩ := Option.map_eq_some_iff.1 h
      change later.findSome? Block.typedText? = some typed
      exact ih hlater

/-- What is typed into a node is what the node then holds. -/
lemma typedText?_write? {typed : String} (h : n.write? typed = some n') :
    n'.typedText? = some typed := by
  obtain ⟨blocks, hblocks, rfl⟩ := Option.map_eq_some_iff.1 h
  exact findSome?_typedText?_write? hblocks

lemma Composed.toggleAll (h : n.Composed) (indices : List Nat) :
    (n.toggleAll indices).Composed :=
  toggleAll_induct h (fun htoggle hn => hn.of_eq (typedText?_toggle? htoggle)
    (unanswered_change? (Block.answers_toggle? _) htoggle)) indices

/-- A line that is taken for an answer leaves a node composed. -/
lemma Composed.writeReply (h : n.Composed) {line : String} (hline : Text.Entered line)
    (hreply : n.writeReply line = .answer n') : n'.Composed := by
  rw [Node.writeReply] at hreply
  split at hreply
  · cases hreply
  · next hnumeral =>
    obtain rfl := Reply.answer.inj hreply
    cases hwrite : n.write? line with
    | none => exact h
    | some n' =>
      have htyped := typedText?_write? hwrite
      have hsame : n'.unanswered = n.unanswered :=
        unanswered_change? (Block.answers_write? line) hwrite
      have hnumeric : n'.isNumeric = n.isNumeric := by
        rw [← n'.isNumeric_unanswered, hsame, n.isNumeric_unanswered]
      refine ⟨fun typed htyped' => ?_, fun hn typed htyped' => Or.inr ?_⟩
      all_goals
        rw [Option.getD_some, htyped] at htyped'
        obtain rfl := Option.some.inj htyped'
      · exact hline
      · rw [Option.getD_some, hnumeric] at hn
        simpa [hn] using hnumeral

end Node

namespace Stop

variable {zone : Zone} {s : Stop} {line : String} {n : Node}

/-- The answer that a line stands for is composed if the node was. -/
lemma composed_of_answer (h : s.node.Composed) (hline : '\n' ∉ line.toList)
    (hreply : s.reply zone (Text.trim line) = .answer n) : n.Composed := by
  rw [reply_eq] at hreply
  split_ifs at hreply with hquit hback hempty
  have hentered : Text.Entered (Text.trim line) := Text.entered_trim hline hquit hback
  rw [answerReply] at hreply
  -- the node asks for ticks, for a choice, for a text, for a date, or for nothing
  split_ifs at hreply
  · rw [Node.tickReply] at hreply
    split at hreply <;> cases hreply
  · rw [Node.chooseReply] at hreply
    split at hreply
    · next chosen hchosen =>
      obtain rfl := Reply.answer.inj hreply
      obtain ⟨index, -, hselect⟩ := Option.bind_eq_some_iff.1 hchosen
      exact h.of_eq (Node.typedText?_select? hselect)
        (Node.unanswered_change? (Block.answers_select? index) hselect)
    · cases hreply
  · exact h.writeReply hentered hreply
  · rw [Node.dateReply] at hreply
    split at hreply
    · next date hdate =>
      obtain rfl := Reply.answer.inj hreply
      cases hset : s.node.setDate? date with
      | none => exact h
      | some n' =>
        exact h.of_eq (Node.typedText?_setDate? hset)
          (Node.unanswered_change? (Block.answers_setDate? date) hset)
    · cases hreply

lemma composed_of_tick (h : s.node.Composed) (hreply : s.reply zone line = .tick n) :
    n.Composed := by
  cases answered_of_reply_eq_tick hreply with
  | tick indices => exact h.toggleAll indices

end Stop

namespace Document

variable {d : Document} {p : Presentation} {name : String} {s : Stop}

lemma typedText?_taskNode (task : TaskType) (decoded : NodeName) (labels keys : List String) :
    ∀ typed, (taskNode p task decoded labels keys).typedText? = some typed → typed = "" := by
  intro typed h
  cases task <;> cases h <;> rfl

/-- Stops are built without a text in them. -/
lemma composed_stop? (h : d.stop? p name = some s) : s.node.Composed := by
  obtain ⟨kind, e, -, rfl⟩ := stop?_eq_some h
  refine Node.composed_of_empty ?_
  exact bareStop_induct (r := fun s _ => ∀ typed, s.node.typedText? = some typed → typed = "")
    d p p (NodeName.decode name) e (by rintro typed ⟨⟩) (by rintro typed ⟨⟩)
    (fun task => typedText?_taskNode task _ _ _) (by rintro typed ⟨⟩) kind

end Document

/-! ### Full answers -/

namespace Record

/-- Whether the record holds a full answer to a stop.  The stop is no end state.  If it asks for a
choice, one option is chosen, and that is one of those offered.  If it is a checklist, what is
ticked is offered and in ascending order, and the key tells whether it is enough.  If it asks for a
text, one is given that can be typed, and a numeral or nothing if it asks for a number. -/
structure Answers (r : Record) (s : Stop) : Prop where
  task : r.task = s.task
  not_final : s.kind ≠ .final
  choice : ∀ task, r.task = some task → task.asksChoice = true →
    ∃ index, r.answer.selected = some [index] ∧ index < s.node.optionCount
  ticks : r.task = some .checklist → ∃ ticked, r.answer.selected = some ticked ∧
    ticked.Pairwise (· < ·) ∧ (∀ i ∈ ticked, i < s.node.optionCount) ∧
    (r.key = "Yes" ↔ s.threshold ≤ ticked.length)
  text : ∀ task, r.task = some task → task.hasTextInput = true →
    ∃ typed, r.answer.text = some typed ∧ Text.Entered typed
  number : r.task = some .textFieldNumerical →
    ∃ typed, r.answer.text = some typed ∧ (typed = "" ∨ Text.isDecimal typed = true)

/-- Whether the record is a full answer at a node, in whatever language and at whatever time the
node is read. -/
def AnswersAt (t : Tree) (r : Record) (name : String) : Prop :=
  ∀ now language, ∃ stop, t.stop? now language name = some stop ∧ r.Answers stop

/-- An answer to a stop is one to every stop that asks the same. -/
lemma Answers.of_question {r : Record} {s s' : Stop} (h : r.Answers s)
    (hsame : s'.question = s.question) : r.Answers s' := by
  simp only [Stop.question, Prod.mk.injEq] at hsame
  obtain ⟨hkind, htask, hthreshold, hcount⟩ := hsame
  refine ⟨htask ▸ h.task, hkind ▸ h.not_final, ?_, ?_, h.text, h.number⟩
  · rw [hcount]
    exact h.choice
  · rw [hcount, hthreshold]
    exact h.ticks

end Record

namespace Walk

variable {t : Tree} {w w' : Walk} {line : String}

lemma yesNo_eq_yes {right : Bool} : yesNo right = "Yes" ↔ right = true := by
  cases right <;> decide

lemma ready_of_proceed (h : w.proceed = (w', none)) : w.stop.awaitsChoice = false := by
  rw [proceed] at h
  cases hawaits : w.stop.awaitsChoice with
  | false => rfl
  | true => simp [hawaits] at h

/-- Where one of the options is asked for, at most one of them is chosen. -/
lemma Sound.exists_option (h : w.Sound) {task : TaskType} (htask : w.stop.task = some task)
    (hchoice : task.asksChoice = true) :
    w.stop.node.hasSelection = true ∧
      ∃ chosen : Option Nat, w.stop.node.selected = chosen.toList := by
  obtain ⟨options, hoptions⟩ := h.asks.choice task htask hchoice
  obtain ⟨chosen, hchosen⟩ := Node.exists_choice hoptions
  have hmost : w.stop.node.selected.length ≤ 1 := h.consistent.selectedCount_le_one hchosen
  refine ⟨Node.hasSelection_of_choice hchosen, w.stop.node.selected.head?, ?_⟩
  match w.stop.node.selected, hmost with
  | [], _ => rfl
  | [_], _ => rfl

/-- If one option is to be chosen and no choice is awaited, one is chosen. -/
lemma Sound.exists_chosen (h : w.Sound) (hready : w.stop.awaitsChoice = false) {task : TaskType}
    (htask : w.stop.task = some task) (hchoice : task.asksChoice = true) :
    ∃ index, w.stop.node.selected = [index] ∧ w.stop.node.hasSelection = true := by
  obtain ⟨hselection, chosen, hselected⟩ := h.exists_option htask hchoice
  cases chosen with
  | some index => exact ⟨index, hselected, hselection⟩
  | none =>
    have hne : (w.stop.task != some .checklist) = true := by
      rw [htask]
      cases task <;> first | rfl | cases hchoice
    simp [Stop.awaitsChoice, hne, hselection, Node.selectedCount, hselected] at hready

/-- A walk that awaits no choice and can move on holds a full answer. -/
lemma Sound.answers_record (h : w.Sound) (hcomposed : w.stop.node.Composed)
    (hready : w.stop.awaitsChoice = false) (hnext : w.next? = some w') :
    w.record.Answers w.stop := by
  have hasks := h.asks
  refine ⟨rfl, fun hfinal => ?_, fun task htask hchoice => ?_, fun htask => ?_,
    fun task htask hinput => ?_, fun htask => ?_⟩
  · -- nothing leads on from an end state
    obtain ⟨name, stop, hname, -, -⟩ := next?_eq_some.1 hnext
    have hend : w.atEnd = true := beq_iff_eq.2 hfinal
    rw [nextName?, Stop.next?, h.exits_of_atEnd hend] at hname
    cases hname
  · obtain ⟨index, hindex, hselection⟩ := h.exists_chosen hready htask hchoice
    have hmem : index ∈ w.stop.node.selected := by simp [hindex]
    refine ⟨index, ?_, h.consistent.lt_of_mem_selected h.legal index hmem⟩
    simp only [record, Node.answer, hselection, if_true, hindex]
  · obtain ⟨options, hoptions⟩ := hasks.checks htask
    obtain ⟨ticked, hticked⟩ := Node.exists_checks hoptions
    have hselection : w.stop.node.hasSelection = true := Node.hasSelection_of_checks hticked
    refine ⟨w.stop.node.selected, ?_, h.consistent.ascending_selected h.legal,
      h.consistent.lt_of_mem_selected h.legal, ?_⟩
    · simp only [record, Node.answer, hselection, if_true]
    · have htask' : w.stop.task = some .checklist := htask
      have hkey : w.record.key = yesNo (w.stop.threshold ≤ w.stop.node.selected.length) := by
        simp only [record, key, Stop.key, transitionKey, htask']
        rfl
      rw [hkey, yesNo_eq_yes, decide_eq_true_eq]
  · obtain ⟨mode, unit, numeric, hblock⟩ := hasks.input task htask hinput
    obtain ⟨typed, htyped⟩ := Node.exists_input hblock
    obtain ⟨text, htext⟩ := Option.isSome_iff_exists.1 (Node.isSome_typedText? htyped)
    exact ⟨text, htext, hcomposed.entered text htext⟩
  · obtain ⟨mode, unit, hblock⟩ := hasks.numeric htask
    obtain ⟨typed, htyped⟩ := Node.exists_input hblock
    obtain ⟨text, htext⟩ := Option.isSome_iff_exists.1 (Node.isSome_typedText? htyped)
    exact ⟨text, htext, hcomposed.numeral (Node.isNumeric_of_input htyped) text htext⟩

lemma Reached.answersAt_record (h : Reached t w) (hcomposed : w.stop.node.Composed)
    (hready : w.stop.awaitsChoice = false) (hnext : w.next? = some w') :
    w.record.AnswersAt t w.here := by
  intro now language
  obtain ⟨stop, hstop, hquestion⟩ := h.sound.exists_question now language
  rw [h.tree_eq] at hstop
  exact ⟨stop, hstop, (h.sound.answers_record hcomposed hready hnext).of_question hquestion⟩

/-! ### One line -/

/-- What a line puts on record.  It is nothing unless the history gets longer, and then a full
answer at the node that is left. -/
inductive Recording (t : Tree) (w w' : Walk) : Prop
  | nothing (records : w'.records = w.records)
      (history : w'.history.length ≤ w.history.length)
  | answer (r : Record) (records : w'.records = w.records ++ [r])
      (history : w.history.length < w'.history.length) (full : r.AnswersAt t w.here)

lemma composed_advance (h : w.next? = some w') : w'.stop.node.Composed := by
  obtain ⟨name, stop, -, hstop, rfl⟩ := next?_eq_some.1 h
  exact Document.composed_stop? hstop

lemma composed_goBack (h : w.previous? = some w') : w'.stop.node.Composed := by
  obtain ⟨name, past, stop, -, hstop, rfl⟩ := previous?_eq_some.1 h
  exact Document.composed_stop? hstop

lemma Reached.recording_proceed (h : Reached t w) (hcomposed : w.stop.node.Composed) :
    w.proceed.1.stop.node.Composed ∧ Recording t w w.proceed.1 := by
  rcases proceed_cases w with ⟨refusal, hstay⟩ | ⟨further, hnext, hmove⟩
  · rw [hstay]
    exact ⟨hcomposed, .nothing rfl le_rfl⟩
  · have hready := ready_of_proceed hmove
    have hfull : w.save.record.AnswersAt t w.save.here :=
      h.save.answersAt_record hcomposed hready hnext
    rw [hmove]
    refine ⟨composed_advance hnext, .answer w.record (records_advance hnext) ?_ hfull⟩
    have hsave : w.save.history = w.history := rfl
    rw [history_advance hnext, hsave, List.length_append, List.length_singleton]
    exact Nat.lt_succ_self _

lemma Reached.recording_enter? (h : Reached t w) (hcomposed : w.stop.node.Composed)
    (hline : '\n' ∉ line.toList) {refusal : Option Refusal}
    (he : w.enter? zone line = some (w', refusal)) :
    w'.stop.node.Composed ∧ Recording t w w' := by
  rw [enter?] at he
  -- the line quits, goes back, moves on, answers the node, ticks boxes, or is refused
  split at he
  · cases he
  · split at he
    · next earlier hearlier =>
      cases he
      refine ⟨composed_goBack hearlier, .nothing (records_goBack hearlier) ?_⟩
      rw [history_goBack hearlier, List.length_append]
      exact Nat.le_add_right _ _
    · cases he
      exact ⟨hcomposed, .nothing rfl le_rfl⟩
  · have hproceed := h.recording_proceed hcomposed
    rw [Option.some.inj he] at hproceed
    exact hproceed
  · next n hreply =>
    -- the answer is filled in first; it is no part of the records and of the history
    have hn : n.Composed := Stop.composed_of_answer hcomposed hline hreply
    obtain ⟨hcomposed', hrecording⟩ := (h.answer hreply).recording_proceed hn
    rw [Option.some.inj he] at hcomposed' hrecording
    refine ⟨hcomposed', ?_⟩
    cases hrecording with
    | nothing records history => exact .nothing records history
    | answer r records history full => exact .answer r records history full
  · next n hreply =>
    cases he
    exact ⟨Stop.composed_of_tick hcomposed hreply, .nothing rfl le_rfl⟩
  · cases he
    exact ⟨hcomposed, .nothing rfl le_rfl⟩

end Walk

/-! ### Sessions -/

namespace Session

/-- The walk after sessions that are played one after another. -/
def playAll (zone : Zone) (colored : Bool) (w : Walk) (sessions : List (List (Moment × String))) :
    Walk :=
  sessions.foldl (fun w lines => (playAt zone colored w lines).walk) w

/-- The turns of sessions that are played one after another. -/
def allTurns (zone : Zone) (colored : Bool) (w : Walk) :
    List (List (Moment × String)) → List (Walk × Walk)
  | [] => []
  | lines :: rest =>
    turns zone w lines ++ allTurns zone colored (playAt zone colored w lines).walk rest

end Session

namespace Walk

open Session (onward turns playAll allTurns)

variable {t : Tree} {w : Walk}

/-- The records of a session are full answers at the nodes that its turns onward leave. -/
lemma Reached.full_playAt (h : Reached t w) (hcomposed : w.stop.node.Composed) (zone : Zone)
    (colored : Bool) (lines : List (Moment × String))
    (hlines : ∀ line ∈ lines, '\n' ∉ line.2.toList) :
    (Session.playAt zone colored w lines).walk.stop.node.Composed ∧
      ∃ added, (Session.playAt zone colored w lines).walk.records = w.records ++ added ∧
        List.Forall₂ (fun r turn => r.AnswersAt t turn.1.here) added
          (onward (turns zone w lines)) := by
  induction lines generalizing w with
  | nil =>
    rw [Session.playAt, turns]
    split_ifs <;> exact ⟨hcomposed, [], (List.append_nil _).symm, .nil⟩
  | cons line rest ih =>
    obtain ⟨now, line⟩ := line
    rw [List.forall_mem_cons] at hlines
    rw [Session.playAt, turns]
    split_ifs
    · exact ⟨hcomposed, [], (List.append_nil _).symm, .nil⟩
    · cases hline : (w.setClock now).enter? zone line with
      | none => exact ⟨hcomposed, [], (List.append_nil _).symm, .nil⟩
      | some turn =>
        obtain ⟨w', refusal⟩ := turn
        obtain ⟨hcomposed', hrecording⟩ :=
          (h.wait now).recording_enter? hcomposed hlines.1 hline
        obtain ⟨hlast, added, hadded, hfull⟩ :=
          ih ((h.wait now).enter hline) hcomposed' hlines.2
        refine ⟨hlast, ?_⟩
        cases hrecording with
        | nothing records history =>
          have hshort : w'.history.length ≤ w.history.length := history
          have honward : onward ((w, w') :: turns zone w' rest) = onward (turns zone w' rest) :=
            List.filter_cons_of_neg (by simpa using hshort)
          rw [records] at hadded
          simp only [honward]
          exact ⟨added, hadded, hfull⟩
        | answer r records history full =>
          have hlong : w.history.length < w'.history.length := history
          have honward : onward ((w, w') :: turns zone w' rest) =
              (w, w') :: onward (turns zone w' rest) :=
            List.filter_cons_of_pos (by simpa using hlong)
          rw [records, List.append_assoc, List.singleton_append] at hadded
          simp only [honward]
          exact ⟨r :: added, hadded, .cons full hfull⟩

lemma Reached.full_playAll (h : Reached t w) (hcomposed : w.stop.node.Composed) (zone : Zone)
    (colored : Bool) (sessions : List (List (Moment × String)))
    (hlines : ∀ lines ∈ sessions, ∀ line ∈ lines, '\n' ∉ line.2.toList) :
    ∃ added, (playAll zone colored w sessions).records = w.records ++ added ∧
      List.Forall₂ (fun r turn => r.AnswersAt t turn.1.here) added
        (onward (allTurns zone colored w sessions)) := by
  induction sessions generalizing w with
  | nil => exact ⟨[], (List.append_nil _).symm, .nil⟩
  | cons lines rest ih =>
    rw [List.forall_mem_cons] at hlines
    obtain ⟨hcomposed', first, hfirst, hfull⟩ := h.full_playAt hcomposed zone colored lines hlines.1
    obtain ⟨later, hlater, hfull'⟩ := ih (h.playAt zone colored lines) hcomposed' hlines.2
    refine ⟨first ++ later, ?_, ?_⟩
    · rw [← List.append_assoc, ← hfirst]
      exact hlater
    · rw [allTurns, onward, List.filter_append]
      exact List.rel_append hfull hfull'

/-- Whatever is entered in sessions on a walk that has just started, each record that they make is
a full answer at the node that was left when it was made. -/
theorem full_records_playAll {now : Moment} (h : Walk.start t now = .ok w) (zone : Zone)
    (colored : Bool) (sessions : List (List (Moment × String)))
    (hlines : ∀ lines ∈ sessions, ∃ text, lines.map Prod.snd = textLines text) :
    List.Forall₂ (fun r turn => r.AnswersAt t turn.1.here) (playAll zone colored w sessions).records
      (onward (allTurns zone colored w sessions)) := by
  have hbreaks : ∀ lines ∈ sessions, ∀ line ∈ lines, '\n' ∉ line.2.toList := by
    intro lines hmem line hline
    obtain ⟨text, htext⟩ := hlines lines hmem
    exact not_mem_of_mem_textLines (htext ▸ List.mem_map_of_mem hline)
  have hcomposed : w.stop.node.Composed := by
    obtain ⟨name, stop, -, hstop, rfl⟩ := start_eq_ok h
    exact Document.composed_stop? hstop
  obtain ⟨added, hadded, hfull⟩ :=
    (Reached.start h).full_playAll hcomposed zone colored sessions hbreaks
  have hrecords : w.records = [] := by
    obtain ⟨name, stop, -, -, rfl⟩ := start_eq_ok h
    rfl
  rw [hrecords, List.nil_append] at hadded
  rw [hadded]
  exact hfull

end Walk

/-! ### A small survey -/

namespace Survey

open Errand (element midnight)

/-- A survey that asks for a color, for pets and for an age. -/
def document : Document where
  root := element "process-definition" []
    [element "start-state" [] [element "transition" [("to", "radioButtons~Color?")] []],
      element "task-node" [("name", "radioButtons~Color?")]
        [element "task" [("name", "red")] [], element "task" [("name", "blue")] [],
          element "transition" [("to", "checkList~1~Pets?")] []],
      element "task-node" [("name", "checkList~1~Pets?")]
        [element "task" [("name", "cat")] [], element "task" [("name", "dog")] [],
          element "transition" [("name", "Yes"), ("to", "textFieldNumerical~Age?")] [],
          element "transition" [("name", "No"), ("to", "Done")] []],
      element "task-node" [("name", "textFieldNumerical~Age?")]
        [element "transition" [("to", "Done")] []],
      element "end-state" [("name", "Done")] []]
  root_name := rfl

/-- The tree over the survey, without translations. -/
def tree : Tree :=
  { Errand.tree with document := document, phrases := Phrasebook.none "English" }

lemma exists_start : ∃ w, Walk.start tree midnight = .ok w := ⟨_, rfl⟩

/-- Two sessions.  At each of the three nodes something is entered first that is refused or taken
back. -/
def sessions : List (List (Moment × String)) :=
  ["7\n2\n1,2 1\n\nold\n", " 4e1 \n"].map fun text =>
    (textLines text).map fun line => (midnight, line)

end Survey

namespace Walk

theorem full_records_playAll_survey :
    ∃ w, Walk.start Survey.tree Errand.midnight = .ok w ∧
      (Session.playAll .universal false w Survey.sessions).records.map
          (fun r => (r.key, r.answer)) =
        [("Any", ⟨some [1], none, none⟩), ("Yes", ⟨some [1], none, none⟩),
          ("Any", ⟨none, some "4e1", none⟩)] ∧
      List.Forall₂ (fun r turn => r.AnswersAt Survey.tree turn.1.here)
        (Session.playAll .universal false w Survey.sessions).records
        (Session.onward (Session.allTurns .universal false w Survey.sessions)) := by
  obtain ⟨w, hw⟩ := Survey.exists_start
  refine ⟨w, hw, ?_, full_records_playAll hw .universal false Survey.sessions ?_⟩
  · obtain rfl := Except.ok.inj hw
    decide +kernel
  · intro lines hlines
    obtain ⟨text, -, rfl⟩ := List.mem_map.1 hlines
    refine ⟨text, ?_⟩
    rw [List.map_map]
    exact List.map_id _

end Walk

end Walkthrough
