import Mathlib.Data.List.Basic
import Walkthrough.Proofs.Route

/-!
# Going back

A walk can go back from every node but its first one, since the nodes by which it came are nodes of
the document.  The stop that it comes back to is built afresh, so what was answered there is gone,
and so is everything that was answered at the node that is left; only the language and the records
are kept.  In particular, to go on and then to come back, whatever is done in between without
leaving the node, changes neither the history nor, in the same language, the stop at its end.
-/

namespace Walkthrough

/-! ### Stops that are built -/

namespace Document

variable {d : Document} {p : Presentation} {name : String} {s : Stop}

lemma unanswered_taskNode {task : TaskType} (h : task ≠ .timestampDisplay) (decoded : NodeName)
    (labels keys : List String) :
    (taskNode p task decoded labels keys).unanswered = taskNode p task decoded labels keys := by
  cases task with
  | timestampDisplay => exact absurd rfl h
  | _ => rfl

lemma unanswered_bareStop (decoded : NodeName) (kind : NodeKind) (e : Markup.Element)
    (h : (d.bareStop p decoded kind e).task ≠ some .timestampDisplay) :
    (d.bareStop p decoded kind e).unanswered = d.bareStop p decoded kind e := by
  revert h
  refine bareStop_induct
    (r := fun s _ => s.task ≠ some .timestampDisplay → s.unanswered = s) d p p decoded e
    (fun _ => rfl) (fun _ => rfl) (fun task htask => ?_) (fun _ => rfl) kind
  have hne : task ≠ .timestampDisplay := fun heq => htask (congrArg some heq)
  simp only [taskStop, Stop.unanswered]
  rw [unanswered_taskNode hne]

/-- Only a time that is shown is filled in when a stop is built. -/
lemma unanswered_stop? (h : d.stop? p name = some s) (htask : s.task ≠ some .timestampDisplay) :
    s.unanswered = s := by
  obtain ⟨kind, e, -, rfl⟩ := stop?_eq_some h
  simp only [Stop.withMedia] at htask
  rw [Stop.unanswered_withMedia, unanswered_bareStop _ kind e htask]

end Document

/-! ### Staying at a node -/

/-- Whether an action is an attempt to leave the node. -/
def Action.isMove : Action → Bool
  | advance | goBack => true
  | _ => false

namespace Walk

variable {t : Tree} {u v w : Walk} {a : Action} {script : List (Moment × Action)}

/-- Whether a script leaves a walk at its node: it may answer the node, put it on record, change the
language and try to move, but no move is done. -/
def Stays : Walk → List (Moment × Action) → Prop
  | _, [] => True
  | w, (now, a) :: script =>
    (a.isMove = true → a.perform? (w.setClock now) = none) ∧
      Stays (a.perform (w.setClock now)) script

/-- Whether two walks are at the same node of a tree and came there in the same way. -/
structure SamePlace (v w : Walk) : Prop where
  tree : v.tree = w.tree
  past : v.past = w.past
  here : v.here = w.here

lemma samePlace_answer? (f : Node → Option Node) (w : Walk) :
    SamePlace ((w.answer? f).getD w) w := by
  rw [answer?]
  cases f w.stop.node <;> exact ⟨rfl, rfl, rfl⟩

lemma samePlace_perform (h : a.isMove = true → a.perform? w = none) :
    SamePlace (a.perform w) w := by
  rw [Action.perform]
  cases a with
  | select index => exact samePlace_answer? _ w
  | toggle index => exact samePlace_answer? _ w
  | write text => exact samePlace_answer? _ w
  | setDate value => exact samePlace_answer? _ w
  | advance | goBack =>
    rw [h rfl]
    exact ⟨rfl, rfl, rfl⟩
  | clear | speak | save => exact ⟨rfl, rfl, rfl⟩

lemma Stays.samePlace (h : Stays w script) : SamePlace (Action.run w script) w := by
  induction script generalizing w with
  | nil => exact ⟨rfl, rfl, rfl⟩
  | cons step script ih =>
    obtain ⟨now, a⟩ := step
    obtain ⟨hstep, hrest⟩ := h
    obtain ⟨htree, hpast, hhere⟩ := samePlace_perform hstep
    obtain ⟨htree', hpast', hhere'⟩ := ih hrest
    exact ⟨htree'.trans htree, hpast'.trans hpast, hhere'.trans hhere⟩

/-! ### Going back -/

/-- Whether the second walk is the first one after it went back one node, to a stop that is built
afresh. -/
structure WentBack (w v : Walk) : Prop where
  history : v.history = w.history.dropLast
  fresh : w.tree.stop? w.now w.language v.here = some v.stop
  unanswered : v.stop.task ≠ some .timestampDisplay → v.stop.unanswered = v.stop
  tree : v.tree = w.tree
  language : v.language = w.language
  glossary : v.glossary = w.glossary
  records : v.records = w.records

lemma wentBack (h : w.previous? = some v) : WentBack w v := by
  have hhistory := history_goBack h
  obtain ⟨name, past, stop, -, hstop, rfl⟩ := previous?_eq_some.1 h
  refine ⟨?_, hstop, Document.unanswered_stop? hstop, rfl, rfl, rfl, rfl⟩
  rw [hhistory, List.dropLast_concat]

lemma length_history (w : Walk) : w.history.length = w.past.length + 1 := by
  rw [history, List.length_append, List.length_reverse, List.length_singleton]

/-- A walk goes back to the latest node it left if that is one of the document. -/
lemma exists_previous? {name : String} {past : List String} (hpast : w.past = name :: past)
    (hname : w.tree.document.contains name = true) :
    ∃ stop, w.build? name = some stop ∧
      w.previous? = some { w with past := past, here := name, stop := stop } := by
  have hsome : (w.build? name).isSome := by
    rw [build?, Tree.stop?, Document.isSome_stop?]
    exact hname
  obtain ⟨stop, hstop⟩ := Option.isSome_iff_exists.1 hsome
  exact ⟨stop, hstop, previous?_eq_some.2 ⟨name, past, stop, hpast, hstop, rfl⟩⟩

/-- The only reason for which a walk cannot go back is that it is at its first node. -/
lemma OnRoute.previous?_eq_none_iff (h : OnRoute w.tree w) :
    w.previous? = none ↔ w.history.length = 1 := by
  rw [length_history]
  cases hpast : w.past with
  | nil => simp [previous?, hpast]
  | cons name past =>
    have hname : name ∈ w.history := by simp [history, hpast]
    obtain ⟨stop, -, hback⟩ := exists_previous? hpast (h.known name hname)
    simp [hback]

/-! ### Coming back -/

/-- What is built at the current node in the current language is the current stop, but for the
answers and the time. -/
lemma Sound.unanswered_eq {stop : Stop} {now : Moment} (h : w.Sound)
    (hstop : w.tree.stop? now w.language w.here = some stop) :
    stop.unanswered = w.stop.unanswered := by
  have hfresh : (w.tree.stop? now w.language w.here).map Stop.unanswered =
      some w.stop.unanswered := (h.setClock now).fresh
  rw [hstop] at hfresh
  exact Option.some.inj hfresh

lemma Sound.stop_eq {stop : Stop} {now : Moment} (h : w.Sound)
    (hstop : w.tree.stop? now w.language w.here = some stop)
    (htask : w.stop.task ≠ some .timestampDisplay) (hw : w.stop.unanswered = w.stop) :
    stop = w.stop := by
  -- the type of a task is no answer, so it is the same at both stops
  have hsame := h.unanswered_eq hstop
  have hkept : stop.unanswered.task = w.stop.unanswered.task := by rw [hsame]
  have htask' : stop.task ≠ some .timestampDisplay := by rwa [show stop.task = _ from hkept]
  calc stop = stop.unanswered := (Document.unanswered_stop? hstop htask').symm
    _ = w.stop.unanswered := hsame
    _ = w.stop := hw

/-- A walk that moved on and stayed there comes back to where it was, with the stop there built
afresh. -/
lemma Sound.exists_return {further : Walk} (h : w.Sound) (hnext : w.next? = some further)
    (hstays : Stays further script) (now : Moment) :
    ∃ back, ((Action.run further script).setClock now).previous? = some back ∧
      back.history = w.history ∧ back.here = w.here ∧
      w.tree.stop? now (Action.run further script).language w.here = some back.stop := by
  -- the walk that is left came from the node of the walk that moved on, and knows nothing else
  obtain ⟨htree, hpast, -⟩ := hstays.samePlace
  obtain ⟨name, stop, -, -, rfl⟩ := next?_eq_some.1 hnext
  generalize Action.run _ script = left at htree hpast
  have hhere : (left.setClock now).tree.document.contains w.here = true := by
    rw [show (left.setClock now).tree = w.tree from htree]
    exact h.contains
  obtain ⟨stop, hstop, hback⟩ := exists_previous? (w := left.setClock now) hpast hhere
  refine ⟨_, hback, rfl, rfl, ?_⟩
  rw [← show left.tree = w.tree from htree]
  exact hstop

/-- A walk that can be reached can always go back, except from its first node, where it stays as it
is.  It takes the last node off its history and builds the stop at the one before afresh, in the
current language, and changes nothing else.  So to move on and then back, however the node was
answered in between and whatever language was chosen there, restores the history; and if the
language is the same, the stop is the one before, but for its answers and the time that it shows. -/
theorem Reached.perform_goBack (h : Reached t w) :
    (Action.goBack.perform? w = none ↔ w.history.length = 1) ∧
    (w.history.length = 1 → Action.goBack.perform w = w) ∧
    (w.history.length ≠ 1 → WentBack w (Action.goBack.perform w)) ∧
    ∀ further script now, Action.advance.perform? w = some further → Stays further script →
      let left := (Action.run further script).setClock now
      ∃ back, Action.goBack.perform? left = some back ∧ WentBack left back ∧
        back.history = w.history ∧ back.here = w.here ∧
        (left.language = w.language →
          back.stop.unanswered = w.stop.unanswered ∧
          (w.stop.task ≠ some .timestampDisplay → w.stop.unanswered = w.stop →
            back.stop = w.stop)) := by
  have hnone : Action.goBack.perform? w = none ↔ w.history.length = 1 := by
    have hroute := h.onRoute
    rw [← h.tree_eq] at hroute
    exact hroute.previous?_eq_none_iff
  refine ⟨hnone, fun hone => ?_, fun hlong => ?_, fun further script now hnext hstays => ?_⟩
  · rw [Action.perform, hnone.2 hone, Option.getD_none]
  · obtain ⟨v, hv⟩ := Option.ne_none_iff_exists'.1 (mt hnone.1 hlong)
    rw [Action.perform, hv, Option.getD_some]
    exact wentBack hv
  · intro left
    obtain ⟨back, hback, hhistory, hhere, hstop⟩ := h.sound.exists_return hnext hstays now
    refine ⟨back, hback, wentBack hback, hhistory, hhere, fun hlanguage => ?_⟩
    rw [show (Action.run further script).language = w.language from hlanguage] at hstop
    exact ⟨h.sound.unanswered_eq hstop, h.sound.stop_eq hstop⟩

end Walk

namespace Errand

/-- What is done at home: there is no way on from there. -/
def visit : List (Moment × Action) :=
  [Action.advance, .save, .speak "Tagalog"].map fun a => (midnight, a)

lemma exists_visit :
    ∃ w further, Walk.start tree midnight = .ok w ∧ w.history.length = 1 ∧
      Action.advance.perform? ((Action.select 1).perform w) = some further ∧
      further.Stays visit ∧ (Action.run further visit).language = "Tagalog" ∧
      ((Action.select 1).perform w).history = ["Where to?"] := by
  refine ⟨_, _, rfl, rfl, rfl, ?_, rfl, rfl⟩
  refine ⟨fun _ => rfl, ?_⟩
  refine ⟨nofun, ?_⟩
  exact ⟨nofun, trivial⟩

end Errand

/-- One looks in at home, has that put on record and comes back. -/
theorem Walk.perform_goBack_errand :
    ∃ w further back, Walk.start Errand.tree Errand.midnight = .ok w ∧
      Action.goBack.perform w = w ∧
      Action.advance.perform? ((Action.select 1).perform w) = some further ∧
      Action.goBack.perform? ((Action.run further Errand.visit).setClock Errand.midnight) =
        some back ∧
      back.history = ["Where to?"] ∧ back.language = "Tagalog" := by
  obtain ⟨w, further, hw, hlength, hnext, hstays, hlanguage, hhistory⟩ := Errand.exists_visit
  have hstart := Reached.start hw
  obtain ⟨-, hfirst, -, -⟩ := hstart.perform_goBack
  obtain ⟨-, -, -, hreturn⟩ := (hstart.act (.select 1)).perform_goBack
  obtain ⟨back, hback, hwent, hrestored, -, -⟩ :=
    hreturn further Errand.visit Errand.midnight hnext hstays
  exact ⟨w, further, back, hw, hfirst hlength, hnext, hback, hrestored.trans hhistory,
    hwent.language.trans hlanguage⟩

end Walkthrough
