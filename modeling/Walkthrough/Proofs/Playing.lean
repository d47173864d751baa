import Mathlib.Data.List.Basic
import Walkthrough.Proofs.Reached
import Walkthrough.Session.Basic

/-!
# What lines do to a walk

A line that is entered acts on the walk by the same actions that everyone else has, so a session
stays among the walks that can be reached.  A walk is only put on record when it can move on, since
whether it can is found out beforehand by the same look at the document.
-/

namespace Walkthrough

namespace Walk

variable {t : Tree} {w w' : Walk}

/-! ### Moving on -/

lemma isSome_next? (w : Walk) : w.next?.isSome = w.canAdvance := by
  rw [next?_eq, canAdvance]
  cases w.nextName? with
  | none => rfl
  | some name =>
    rw [Option.bind_some, Option.isSome_map, Option.any_some]
    exact Document.isSome_stop?

/-- A walk that is to go on either stays as it was, for a reason that is told, or is put on record
and goes on. -/
lemma proceed_cases (w : Walk) :
    (∃ refusal, w.proceed = (w, some refusal)) ∨
      ∃ further, w.save.next? = some further ∧ w.proceed = (further, none) := by
  rw [proceed]
  cases hawaits : w.stop.awaitsChoice with
  | true => exact Or.inl ⟨.choiceMissing, rfl⟩
  | false =>
    cases hadvance : w.canAdvance with
    | false => exact Or.inl ⟨.noWay, rfl⟩
    | true =>
      have hsave : w.save.canAdvance = true := hadvance
      rw [← isSome_next?] at hsave
      obtain ⟨further, hfurther⟩ := Option.isSome_iff_exists.1 hsave
      right
      refine ⟨further, hfurther, ?_⟩
      rw [hfurther]
      rfl

/-- A walk is never put on record and then left where it is. -/
lemma proceed_ne (w : Walk) : w.proceed ≠ (w.save, some .noWay) := by
  intro h
  rcases proceed_cases w with ⟨refusal, hstay⟩ | ⟨further, -, hmove⟩
  · rw [hstay, Prod.mk.injEq] at h
    have hlength := congrArg (fun w : Walk => w.records.length) h.1
    simp only [save, List.length_append, List.length_singleton] at hlength
    omega
  · rw [hmove, Prod.mk.injEq] at h
    cases h.2

end Walk

/-! ### Answers -/

/-- What every tick preserves is preserved when options are ticked in turn. -/
lemma Node.toggleAll_induct {P : Node → Prop} {n : Node} (h : P n)
    (step : ∀ {m m' : Node} {index : Nat}, m.toggle? index = some m' → P m → P m')
    (indices : List Nat) : P (n.toggleAll indices) := by
  induction indices generalizing n with
  | nil => exact h
  | cons index indices ih =>
    have hstep : P ((n.toggle? index).getD n) := by
      cases htoggle : n.toggle? index with
      | none => exact h
      | some n' => exact step htoggle h
    exact ih hstep

namespace Stop

variable {zone : Zone} {s : Stop} {line : String} {n : Node}

/-- What a line that is no command can amount to. -/
inductive Answered (s : Stop) (line : String) : Reply → Prop
  | tick (indices : List Nat) : Answered s line (.tick (s.node.toggleAll indices))
  | choose (index : Nat) {chosen : Node} (h : s.node.select? index = some chosen) :
      Answered s line (.answer chosen)
  | write : Answered s line (.answer ((s.node.write? line).getD s.node))
  | date (value : Moment) : Answered s line (.answer ((s.node.setDate? value).getD s.node))
  | refuse (r : Refusal) : Answered s line (.refuse r)

lemma answered_answerReply (zone : Zone) (s : Stop) (line : String) :
    s.Answered line (s.answerReply zone line) := by
  rw [answerReply]
  -- the node asks for ticks, for a choice, for a text, for a date, or for nothing
  split_ifs
  · rw [Node.tickReply]
    split
    · exact Answered.tick _
    · exact Answered.refuse _
  · rw [Node.chooseReply]
    split
    · next chosen hchosen =>
      obtain ⟨index, -, hselect⟩ := Option.bind_eq_some_iff.1 hchosen
      exact Answered.choose index hselect
    · exact Answered.refuse _
  · rw [Node.writeReply]
    split
    · exact Answered.refuse _
    · exact Answered.write
  · rw [Node.dateReply]
    split
    · exact Answered.date _
    · exact Answered.refuse _
  · exact Answered.refuse _

/-- Three lines are commands; every other line is an answer. -/
lemma reply_eq (zone : Zone) (s : Stop) (line : String) :
    s.reply zone line =
      if line = "q" then .quit else if line = "b" then .back else if line = "" then .onward
      else s.answerReply zone line := by
  unfold reply
  split
  · rfl
  · rfl
  · rfl
  · next hquit hback honward => rw [if_neg hquit, if_neg hback, if_neg honward]

lemma reply_eq_quit (h : s.reply zone line = .quit) : line = "q" := by
  rw [reply_eq] at h
  split_ifs at h with hquit
  · exact hquit
  · have hanswered := s.answered_answerReply zone line
    rw [h] at hanswered
    cases hanswered

lemma answered_of_reply_eq_tick (h : s.reply zone line = .tick n) : s.Answered line (.tick n) := by
  rw [reply_eq] at h
  split_ifs at h
  exact h ▸ s.answered_answerReply zone line

lemma answered_of_reply_eq_answer (h : s.reply zone line = .answer n) :
    s.Answered line (.answer n) := by
  rw [reply_eq] at h
  split_ifs at h
  exact h ▸ s.answered_answerReply zone line

end Stop

namespace Walk

variable {zone : Zone} {t : Tree} {w w' : Walk} {line : String} {n : Node}

/-! ### Lines as actions -/

lemma getD_answer? (f : Node → Option Node) (w : Walk) :
    (w.answer? f).getD w = w.withNode ((f w.stop.node).getD w.stop.node) := by
  rw [answer?]
  cases f w.stop.node <;> rfl

lemma Reached.toggleAll (h : Reached t w) (indices : List Nat) :
    Reached t (w.withNode (w.stop.node.toggleAll indices)) := by
  induction indices generalizing w with
  | nil => exact h
  | cons index indices ih =>
    have hact := h.act (.toggle index)
    rw [Action.perform, Action.perform?, getD_answer?] at hact
    exact ih hact

lemma Reached.tick (h : Reached t w) (hreply : w.stop.reply zone line = .tick n) :
    Reached t (w.withNode n) := by
  cases Stop.answered_of_reply_eq_tick hreply with
  | tick indices => exact h.toggleAll indices

lemma Reached.answer (h : Reached t w) (hreply : w.stop.reply zone line = .answer n) :
    Reached t (w.withNode n) := by
  cases Stop.answered_of_reply_eq_answer hreply with
  | choose index hselect =>
    have hact := h.act (.select index)
    rw [Action.perform, Action.perform?, getD_answer?, hselect] at hact
    exact hact
  | write =>
    have hact := h.act (.write line)
    rw [Action.perform, Action.perform?, getD_answer?] at hact
    exact hact
  | date value =>
    have hact := h.act (.setDate value)
    rw [Action.perform, Action.perform?, getD_answer?] at hact
    exact hact

lemma Reached.save (h : Reached t w) : Reached t w.save := h.act .save

lemma Reached.proceed (h : Reached t w) : Reached t w.proceed.1 := by
  rcases proceed_cases w with ⟨refusal, hstay⟩ | ⟨further, hnext, hmove⟩
  · rw [hstay]
    exact h
  · have hact := h.save.act .advance
    rw [Action.perform, Action.perform?, hnext] at hact
    rw [hmove]
    exact hact

lemma Reached.enter (h : Reached t w) {refusal : Option Refusal}
    (he : w.enter? zone line = some (w', refusal)) : Reached t w' := by
  rw [enter?] at he
  -- the line quits, goes back, moves on, answers the node, ticks boxes, or is refused
  split at he
  · cases he
  · split at he
    · next earlier hearlier =>
      cases he
      have hact := h.act .goBack
      rw [Action.perform, Action.perform?, hearlier] at hact
      exact hact
    · cases he
      exact h
  · have hproceed := h.proceed
    rw [Option.some.inj he] at hproceed
    exact hproceed
  · next n hreply =>
    have hproceed := (h.answer hreply).proceed
    rw [Option.some.inj he] at hproceed
    exact hproceed
  · next n hreply =>
    cases he
    exact h.tick hreply
  · cases he
    exact h

/-- A session stays among the walks that can be reached. -/
lemma Reached.playAt (h : Reached t w) (zone : Zone) (colored : Bool)
    (lines : List (Moment × String)) : Reached t (Session.playAt zone colored w lines).walk := by
  fun_induction Session.playAt zone colored w lines with
  | case1 w hend => exact h
  | case2 w hend => exact h
  | case3 w now line rest hend => exact h
  | case4 w now line rest hend hquit => exact h
  | case5 w now line rest hend w' refusal hline later ih => exact ih ((h.wait now).enter hline)

end Walk

end Walkthrough
