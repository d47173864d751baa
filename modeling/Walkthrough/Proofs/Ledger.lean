import Walkthrough.Proofs.Playing
import Walkthrough.Proofs.Route

/-!
# The ledger of a session

A session takes its lines in turns, and a turn leaves the walk where it is, moves it onward or
moves it back.  What it did is read off the walks before and after it: onward the history gets
longer, and back it gets shorter.  Every turn onward adds one record, and no other turn touches the
records.  So the records that a session adds are the ledger of its moves onward, and unless the
session went back, its part of the history can be retraced from their keys.
-/

namespace Walkthrough

/-- Whether a record bears out a move: it has the task type of the node that is left, and its key
is one that leads from there to the node that is reached, in all languages and at all times. -/
def Record.BearsOut (t : Tree) (r : Record) (a b : String) : Prop :=
  ∀ now language, ∃ stop, t.stop? now language a = some stop ∧ r.task = stop.task ∧
    stop.exits.get? r.key = some b

/-- The nodes that are passed if one leaves a node under the first key, the node that this leads to
under the second key, and so on; nothing if a key leads nowhere. -/
def Tree.retrace? (t : Tree) (now : Moment) (language : String) :
    String → List String → Option (List String)
  | _, [] => some []
  | name, key :: keys => do
    let stop ← t.stop? now language name
    let next ← stop.exits.get? key
    let names ← t.retrace? now language next keys
    return next :: names

lemma Record.BearsOut.retrace?_cons {t : Tree} {r : Record} {a b : String}
    (h : r.BearsOut t a b) (now : Moment) (language : String) (keys : List String) :
    t.retrace? now language a (r.key :: keys) =
      (t.retrace? now language b keys).map (b :: ·) := by
  obtain ⟨stop, hstop, -, hget⟩ := h now language
  simp only [Tree.retrace?, hstop, hget, Option.bind_eq_bind, Option.bind_some]
  cases t.retrace? now language b keys <;> rfl

namespace Session

/-- The turns of a session: for each line that is taken, the walk before it and the walk after
it. -/
def turns (zone : Zone) (w : Walk) : List (Moment × String) → List (Walk × Walk)
  | [] => []
  | (now, line) :: rest =>
    if w.atEnd then []
    else
      match (w.setClock now).enter? zone line with
      | none => []
      | some (w', _) => (w, w') :: turns zone w' rest

/-- The turns that move the walk onward. -/
def onward (turns : List (Walk × Walk)) : List (Walk × Walk) :=
  turns.filter fun turn => turn.1.history.length < turn.2.history.length

/-- The turns that move the walk back. -/
def backward (turns : List (Walk × Walk)) : List (Walk × Walk) :=
  turns.filter fun turn => turn.2.history.length < turn.1.history.length

end Session

namespace Walk

open Session (onward backward)

variable {zone : Zone} {t : Tree} {v w w' : Walk} {line : String} {turns : List (Walk × Walk)}

/-! ### One turn -/

lemma records_advance (h : w.next? = some w') : w'.records = w.records := by
  obtain ⟨name, stop, -, -, rfl⟩ := next?_eq_some.1 h
  rfl

lemma records_goBack (h : w.previous? = some w') : w'.records = w.records := by
  obtain ⟨name, past, stop, -, -, rfl⟩ := previous?_eq_some.1 h
  rfl

lemma Sound.bearsOut_record (h : w.Sound) (hnext : w.next? = some w') :
    w.record.BearsOut w.tree w.here w'.here := by
  obtain ⟨name, stop, hname, -, rfl⟩ := next?_eq_some.1 hnext
  intro now language
  obtain ⟨stop, hstop, hexits, -, htask⟩ := h.exists_stop? now language
  exact ⟨stop, hstop, htask.symm, hexits ▸ hname⟩

/-- Whether two walks came the same way, with the same records. -/
structure SameWay (v w : Walk) : Prop where
  history : v.history = w.history
  records : v.records = w.records

lemma SameWay.here (h : SameWay v w) : v.here = w.here := by
  have hlast := v.getLast?_history
  rw [h.history, getLast?_history] at hlast
  exact (Option.some.inj hlast).symm

/-- What a turn can do.  It leaves the way of the walk as it is, or answers the node, puts it on
record and moves onward, or moves back. -/
inductive Turn (t : Tree) (w w' : Walk) : Prop
  | stay (same : SameWay w' w)
  | onward (left : Walk) (reached : Reached t left) (same : SameWay left w)
      (move : left.save.next? = some w')
  | backward (left : Walk) (same : SameWay left w) (move : left.previous? = some w')

lemma Turn.of_sameWay (h : Turn t v w') (hvw : SameWay v w) : Turn t w w' := by
  have trans {u : Walk} (huv : SameWay u v) : SameWay u w :=
    ⟨huv.history.trans hvw.history, huv.records.trans hvw.records⟩
  cases h with
  | stay same => exact .stay (trans same)
  | onward left reached same move => exact .onward left reached (trans same) move
  | backward left same move => exact .backward left (trans same) move

lemma Reached.turn_proceed (h : Reached t w) : Turn t w w.proceed.1 := by
  rcases proceed_cases w with ⟨refusal, hstay⟩ | ⟨further, hnext, hmove⟩
  · rw [hstay]
    exact .stay ⟨rfl, rfl⟩
  · rw [hmove]
    exact .onward w h ⟨rfl, rfl⟩ hnext

lemma Reached.turn_enter? (h : Reached t w) {refusal : Option Refusal}
    (he : w.enter? zone line = some (w', refusal)) : Turn t w w' := by
  rw [enter?] at he
  -- the line quits, goes back, moves on, answers the node, ticks boxes, or is refused
  split at he
  · cases he
  · split at he
    · next earlier hearlier =>
      cases he
      exact .backward w ⟨rfl, rfl⟩ hearlier
    · cases he
      exact .stay ⟨rfl, rfl⟩
  · have hturn := h.turn_proceed
    rw [Option.some.inj he] at hturn
    exact hturn
  · next n hreply =>
    -- the turn is one of the walk that holds the answer
    have hturn := (h.answer hreply).turn_proceed
    rw [Option.some.inj he] at hturn
    exact hturn.of_sameWay ⟨rfl, rfl⟩
  · cases he
    exact .stay ⟨rfl, rfl⟩
  · cases he
    exact .stay ⟨rfl, rfl⟩

/-! ### What a turn does to the books -/

section Move

variable {left : Walk}

lemma SameWay.history_onward (same : SameWay left w) (move : left.save.next? = some w') :
    w'.history = w.history ++ [w'.here] := by
  have hsave : left.save.history = left.history := rfl
  rw [history_advance move, hsave, same.history]

lemma SameWay.records_onward (same : SameWay left w) (move : left.save.next? = some w') :
    w'.records = w.records ++ [left.record] := by
  rw [records_advance move, save, same.records]

lemma SameWay.bearsOut_onward (reached : Reached t left) (same : SameWay left w)
    (move : left.save.next? = some w') : left.record.BearsOut t w.here w'.here := by
  have hbears := reached.save.sound.bearsOut_record move
  rw [reached.save.tree_eq] at hbears
  exact same.here ▸ hbears

lemma SameWay.history_backward (same : SameWay left w) (move : left.previous? = some w') :
    w.history = w'.history ++ [w.here] := by
  rw [← same.history, history_goBack move, same.here]

lemma SameWay.records_backward (same : SameWay left w) (move : left.previous? = some w') :
    w'.records = w.records := by
  rw [records_goBack move, same.records]

end Move

/-! ### All turns -/

/-- Turns that lead from one walk to another. -/
inductive Turns (t : Tree) : Walk → List (Walk × Walk) → Walk → Prop
  | nil (w : Walk) : Turns t w [] w
  | cons {w w' v : Walk} {rest : List (Walk × Walk)} (hturn : Turn t w w')
      (hrest : Turns t w' rest v) : Turns t w ((w, w') :: rest) v

lemma Reached.turns_playAt (h : Reached t w) (zone : Zone) (colored : Bool)
    (lines : List (Moment × String)) :
    Turns t w (Session.turns zone w lines) (Session.playAt zone colored w lines).walk := by
  induction lines generalizing w with
  | nil =>
    rw [Session.turns, Session.playAt]
    split_ifs <;> exact .nil w
  | cons line rest ih =>
    obtain ⟨now, line⟩ := line
    rw [Session.turns, Session.playAt]
    split_ifs
    · exact .nil w
    · cases hline : (w.setClock now).enter? zone line with
      | none => exact .nil w
      | some turn =>
        obtain ⟨w', refusal⟩ := turn
        -- the clock is no part of the way
        have hturn : Turn t (w.setClock now) w' := (h.wait now).turn_enter? hline
        exact .cons (hturn.of_sameWay ⟨rfl, rfl⟩) (ih ((h.wait now).enter hline))

/-! ### Counting turns -/

section Count

variable {rest : List (Walk × Walk)} {name : String}

lemma count_stay (h : w'.history = w.history) :
    onward ((w, w') :: rest) = onward rest ∧ backward ((w, w') :: rest) = backward rest := by
  constructor
  · exact List.filter_cons_of_neg (by simp [h])
  · exact List.filter_cons_of_neg (by simp [h])

lemma count_onward (h : w'.history = w.history ++ [name]) :
    onward ((w, w') :: rest) = (w, w') :: onward rest ∧
      backward ((w, w') :: rest) = backward rest := by
  constructor
  · exact List.filter_cons_of_pos (by simp [h])
  · exact List.filter_cons_of_neg (by simp [h])

lemma count_backward (h : w.history = w'.history ++ [name]) :
    onward ((w, w') :: rest) = onward rest ∧
      backward ((w, w') :: rest) = (w, w') :: backward rest := by
  constructor
  · exact List.filter_cons_of_neg (by simp [h])
  · exact List.filter_cons_of_pos (by simp [h])

end Count

/-- The history grows by the turns onward less the turns back. -/
lemma Turns.length_history (h : Turns t w turns v) :
    v.history.length + (backward turns).length = w.history.length + (onward turns).length := by
  induction h with
  | nil => rfl
  | cons hturn _ ih =>
    cases hturn with
    | stay same =>
      obtain ⟨honward, hbackward⟩ := count_stay same.history
      rw [honward, hbackward, ih, same.history]
    | onward left reached same move =>
      have hhistory := same.history_onward move
      obtain ⟨honward, hbackward⟩ := count_onward hhistory
      rw [honward, hbackward, ih, hhistory, List.length_append, List.length_singleton,
        List.length_cons]
      omega
    | backward left same move =>
      have hhistory := same.history_backward move
      obtain ⟨honward, hbackward⟩ := count_backward hhistory
      rw [honward, hbackward, hhistory, List.length_append, List.length_singleton,
        List.length_cons]
      omega

/-- The records grow by one record for each turn onward, which bears it out. -/
lemma Turns.exists_records (h : Turns t w turns v) :
    ∃ added, v.records = w.records ++ added ∧
      List.Forall₂ (fun r turn => r.BearsOut t turn.1.here turn.2.here) added (onward turns) := by
  induction h with
  | nil w => exact ⟨[], (List.append_nil _).symm, .nil⟩
  | cons hturn _ ih =>
    obtain ⟨added, hadded, hbear⟩ := ih
    cases hturn with
    | stay same =>
      obtain ⟨honward, -⟩ := count_stay same.history
      rw [same.records] at hadded
      rw [honward]
      exact ⟨added, hadded, hbear⟩
    | onward left reached same move =>
      obtain ⟨honward, -⟩ := count_onward (same.history_onward move)
      rw [same.records_onward move, List.append_assoc, List.singleton_append] at hadded
      rw [honward]
      exact ⟨left.record :: added, hadded, .cons (same.bearsOut_onward reached move) hbear⟩
    | backward left same move =>
      obtain ⟨honward, -⟩ := count_backward (same.history_backward move)
      rw [same.records_backward move] at hadded
      rw [honward]
      exact ⟨added, hadded, hbear⟩

/-- Unless a turn goes back, the nodes that the turns pass are retraced from the keys of records
that bear out the turns onward. -/
lemma Turns.retrace (h : Turns t w turns v) (hbackward : backward turns = [])
    {added : List Record} (hadded :
      List.Forall₂ (fun r turn => r.BearsOut t turn.1.here turn.2.here) added (onward turns))
    (now : Moment) (language : String) :
    ∃ names, v.history = w.history ++ names ∧
      t.retrace? now language w.here (added.map Record.key) = some names := by
  induction h generalizing added with
  | nil w =>
    obtain rfl := List.forall₂_nil_right_iff.1 hadded
    exact ⟨[], (List.append_nil _).symm, rfl⟩
  | @cons w w' v rest hturn _ ih =>
    cases hturn with
    | stay same =>
      obtain ⟨honward, hback⟩ := count_stay same.history
      rw [hback] at hbackward
      rw [honward] at hadded
      have hretrace := ih hbackward hadded
      rw [same.history, same.here] at hretrace
      exact hretrace
    | onward left reached same move =>
      have hhistory := same.history_onward move
      obtain ⟨honward, hback⟩ := count_onward hhistory
      rw [hback] at hbackward
      rw [honward] at hadded
      obtain ⟨r, later, hbears, hlater, rfl⟩ := List.forall₂_cons_right_iff.1 hadded
      obtain ⟨names, hnames, hretrace⟩ := ih hbackward hlater
      refine ⟨w'.here :: names, ?_, ?_⟩
      · rw [hnames, hhistory, List.append_assoc, List.singleton_append]
      · rw [List.map_cons, hbears.retrace?_cons, hretrace, Option.map_some]
    | backward left same move =>
      -- a turn back that is not counted cannot be
      obtain ⟨-, hback⟩ := count_backward (same.history_backward move)
      rw [hback] at hbackward
      cases hbackward

/-! ### How a session ends -/

lemma outcome_playAt (zone : Zone) (colored : Bool) (w : Walk) (lines : List (Moment × String)) :
    (Session.playAt zone colored w lines).outcome = .finished ↔
      (Session.playAt zone colored w lines).walk.atEnd = true := by
  fun_induction Session.playAt zone colored w lines with
  | case1 w hend => simp only [hend]
  | case2 w hend => simp only [hend, reduceCtorEq, Bool.false_eq_true]
  | case3 w now line rest hend => simp only [hend]
  | case4 w now line rest hend hquit => simp only [hend, reduceCtorEq, Bool.false_eq_true]
  | case5 w now line rest hend w' refusal hline later ih => exact ih

lemma trim_eq_of_enter?_eq_none (h : w.enter? zone line = none) : Text.trim line = "q" := by
  rw [enter?] at h
  split at h
  · next hreply => exact Stop.reply_eq_quit hreply
  · split at h <;> cases h
  · cases h
  · cases h
  · cases h
  · cases h

/-- A session that does not reach the end has taken every line, or comes to one that quits. -/
lemma quit_playAt (zone : Zone) (colored : Bool) (w : Walk) (lines : List (Moment × String))
    (h : (Session.playAt zone colored w lines).outcome = .quit) :
    (Session.turns zone w lines).length = lines.length ∨
      ∃ now line, lines[(Session.turns zone w lines).length]? = some (now, line) ∧
        Text.trim line = "q" := by
  induction lines generalizing w with
  | nil => exact Or.inl rfl
  | cons line rest ih =>
    obtain ⟨now, line⟩ := line
    rw [Session.playAt] at h
    rw [Session.turns]
    cases hend : w.atEnd with
    | true =>
      rw [hend] at h
      cases h
    | false =>
      rw [hend] at h
      cases hline : (w.setClock now).enter? zone line with
      | none => exact Or.inr ⟨now, line, rfl, trim_eq_of_enter?_eq_none hline⟩
      | some turn =>
        rw [hline] at h
        exact (ih turn.1 h).imp (congrArg (· + 1)) id

/-- The ledger of a session.  It adds one record for each turn onward and leaves the earlier ones
as they are, and the history grows by the turns onward less the turns back; no walk is put on
record and then stays.  Each record bears out its turn, so that without a turn back the new part of
the history is retraced from the new keys.  The session finishes just if it comes to an end state,
and it only quits at a line that says so or for want of lines. -/
theorem Reached.records_playAt (h : Reached t w) (zone : Zone) (colored : Bool)
    (lines : List (Moment × String)) :
    let session := Session.playAt zone colored w lines
    let turns := Session.turns zone w lines
    ∃ added, session.walk.records = w.records ++ added ∧
      added.length = (onward turns).length ∧
      session.walk.history.length + (backward turns).length =
        w.history.length + (onward turns).length ∧
      Turns t w turns session.walk ∧
      (∀ u : Walk, u.proceed ≠ (u.save, some .noWay)) ∧
      List.Forall₂ (fun r turn => r.BearsOut t turn.1.here turn.2.here) added (onward turns) ∧
      (backward turns = [] → ∀ now language, ∃ names,
        session.walk.history = w.history ++ names ∧
          t.retrace? now language w.here (added.map Record.key) = some names) ∧
      (session.outcome = .finished ↔ session.walk.atEnd = true) ∧
      (session.outcome = .quit → turns.length = lines.length ∨
        ∃ now line, lines[turns.length]? = some (now, line) ∧ Text.trim line = "q") := by
  intro session turns
  have hturns : Turns t w turns session.walk := h.turns_playAt zone colored lines
  obtain ⟨added, hadded, hbear⟩ := hturns.exists_records
  exact ⟨added, hadded, hbear.length_eq, hturns.length_history, hturns,
    proceed_ne, hbear, fun hback => hturns.retrace hback hbear, outcome_playAt zone colored w lines,
    quit_playAt zone colored w lines⟩

theorem records_playAt_errand :
    ∃ w, Walk.start Errand.tree Errand.midnight = .ok w ∧
      (Session.play false w (textLines "1\n\n 7\n2 \nq\n")).outcome = .finished ∧
      ∃ names, (Session.play false w (textLines "1\n\n 7\n2 \nq\n")).walk.history =
          w.history ++ names ∧
        Errand.tree.retrace? Errand.midnight "Tagalog" w.here ["Shop", "Any", "Home"] =
          some names := by
  obtain ⟨w, hw⟩ := Errand.exists_start
  obtain ⟨added, hadded, -, -, -, -, -, hretrace, hfinished, -⟩ :=
    (Reached.start hw).records_playAt .universal false
      ((textLines "1\n\n 7\n2 \nq\n").map fun line => (w.now, line))
  refine ⟨w, hw, hfinished.2 ?_, ?_⟩
  · obtain rfl := Except.ok.inj hw
    rfl
  · have hkeys : added.map Record.key = ["Shop", "Any", "Home"] := by
      obtain rfl := Except.ok.inj hw
      exact (congrArg (List.map Record.key) hadded).symm
    rw [← hkeys]
    refine hretrace ?_ Errand.midnight "Tagalog"
    obtain rfl := Except.ok.inj hw
    rfl

end Walk

end Walkthrough
