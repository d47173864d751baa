import Mathlib.Data.List.Chain
import Walkthrough.Proofs.Reached

/-!
# The route of a walk

The history of a walk is a route through its document: it starts where the document says, every
node on it is one of the document, and each node has a transition to the next one.  Moves only add
an end to the route or take its end away, so the law is kept by looking at the end alone.  The
transition there is one of the current stop, which is sound and hence has the transitions of its
node, in whatever language they were read.
-/

namespace Walkthrough

/-- Whether a transition leads from one node to another, in all languages and at all times. -/
def Tree.LeadsTo (t : Tree) (a b : String) : Prop :=
  ∃ key, ∀ now language, ∃ stop, t.stop? now language a = some stop ∧
    stop.exits.get? key = some b

lemma Tree.LeadsTo.not_final {t : Tree} {a b : String} (h : t.LeadsTo a b) (now : Moment) :
    t.document.isFinal a = false := by
  obtain ⟨key, hkey⟩ := h
  obtain ⟨stop, hstop, hget⟩ := hkey now t.firstLanguage
  rw [Document.isFinal_eq hstop, beq_eq_false_iff_ne]
  intro hkind
  rw [Document.exits_eq_empty hstop hkind] at hget
  cases hget

namespace Walk

variable {t : Tree} {w w' : Walk}

/-! ### The end of the route -/

lemma history_advance (h : w.next? = some w') : w'.history = w.history ++ [w'.here] := by
  obtain ⟨name, stop, -, -, rfl⟩ := next?_eq_some.1 h
  simp only [history, List.reverse_cons]

lemma history_goBack (h : w.previous? = some w') : w.history = w'.history ++ [w.here] := by
  obtain ⟨name, past, stop, hpast, -, rfl⟩ := previous?_eq_some.1 h
  simp only [history, hpast, List.reverse_cons]

lemma getLast?_history (w : Walk) : w.history.getLast? = some w.here := by
  rw [history, List.getLast?_append]
  rfl

lemma history_ne_nil (w : Walk) : w.history ≠ [] := by
  simp [history]

/-- The node of the current stop leads where the current stop leads, in every presentation. -/
lemma Sound.exists_stop? (h : w.Sound) (now : Moment) (language : String) :
    ∃ stop, w.tree.stop? now language w.here = some stop ∧ stop.exits = w.stop.exits ∧
      stop.kind = w.stop.kind ∧ stop.task = w.stop.task := by
  obtain ⟨fresh, hfresh, hsame⟩ := Option.map_eq_some_iff.1 h.fresh
  obtain ⟨stop, hstop, hframe⟩ :=
    Document.exists_stop? hfresh (w.tree.presentation now language)
  -- the answers are no part of the frame
  rw [← Stop.frame_unanswered fresh, hsame, Stop.frame_unanswered] at hframe
  obtain ⟨hexits, hkind, htask, -⟩ := Stop.frame_eq_frame hframe
  exact ⟨stop, hstop, hexits, hkind, htask⟩

lemma Sound.leadsTo (h : w.Sound) (hnext : w.next? = some w') :
    w.tree.LeadsTo w.here w'.here := by
  obtain ⟨name, stop, hname, -, rfl⟩ := next?_eq_some.1 hnext
  refine ⟨w.key, fun now language => ?_⟩
  obtain ⟨stop, hstop, hexits, -, -⟩ := h.exists_stop? now language
  exact ⟨stop, hstop, hexits ▸ hname⟩

lemma Sound.atEnd_eq (h : w.Sound) : w.atEnd = w.tree.document.isFinal w.here := by
  obtain ⟨stop, hstop, -, hkind, -⟩ := h.exists_stop? w.now w.language
  rw [Document.isFinal_eq hstop, hkind, atEnd]

lemma Sound.exits_of_atEnd (h : w.Sound) (hend : w.atEnd = true) :
    w.stop.exits = Table.empty := by
  obtain ⟨stop, hstop, hexits, hkind, -⟩ := h.exists_stop? w.now w.language
  rw [← hexits]
  exact Document.exits_eq_empty hstop (hkind.trans (eq_of_beq hend))

/-! ### The whole route -/

/-- The history of the walk is a route through the tree. -/
structure OnRoute (t : Tree) (w : Walk) : Prop where
  head : w.history.head? = t.document.start?
  known : ∀ name ∈ w.history, t.document.contains name = true
  chain : w.history.IsChain t.LeadsTo

lemma OnRoute.of_history (h : OnRoute t w) (heq : w'.history = w.history) : OnRoute t w' :=
  ⟨heq ▸ h.head, heq ▸ h.known, heq ▸ h.chain⟩

lemma OnRoute.advance (h : OnRoute t w) (hw : w.Sound) (hw' : w'.Sound) (htree : w.tree = t)
    (htree' : w'.tree = t) (hnext : w.next? = some w') : OnRoute t w' := by
  have hhistory := history_advance hnext
  refine ⟨?_, ?_, ?_⟩
  · rw [hhistory, List.head?_append, h.head.symm, Option.or_of_isSome]
    exact List.isSome_head?.2 w.history_ne_nil
  · intro name hname
    rw [hhistory, List.mem_append, List.mem_singleton] at hname
    rcases hname with hname | rfl
    · exact h.known name hname
    · exact htree' ▸ hw'.contains
  · -- the only new link is the one from the walk that is left
    rw [hhistory]
    refine h.chain.append (List.isChain_singleton _) fun a ha b hb => ?_
    rw [getLast?_history, Option.mem_some_iff] at ha
    rw [List.head?_singleton, Option.mem_some_iff] at hb
    rw [← ha, ← hb, ← htree]
    exact hw.leadsTo hnext

lemma OnRoute.goBack (h : OnRoute t w) (hback : w.previous? = some w') : OnRoute t w' := by
  have hhistory := history_goBack hback
  refine ⟨?_, ?_, ?_⟩
  · rw [← h.head, hhistory, List.head?_append, Option.or_of_isSome]
    exact List.isSome_head?.2 w'.history_ne_nil
  · intro name hname
    exact h.known name (hhistory ▸ List.mem_append_left _ hname)
  · exact (hhistory ▸ h.chain).left_of_append

lemma Reached.onRoute (h : Reached t w) : OnRoute t w := by
  induction h using Reached.induct with
  | start h =>
    obtain ⟨name, stop, hname, hstop, rfl⟩ := start_eq_ok h
    refine ⟨hname.symm, ?_, List.isChain_singleton _⟩
    intro name' hname'
    obtain rfl := List.mem_singleton.1 hname'
    exact Document.contains_of_stop? hstop
  | wait now _ ih => exact ih.of_history rfl
  | step h h' ih hstep =>
    cases hstep with
    | advance hnext => exact ih.advance h.sound h'.sound h.tree_eq h'.tree_eq hnext
    | goBack hback => exact ih.goBack hback
    | _ => exact ih.of_history rfl

lemma OnRoute.not_final (h : OnRoute t w) :
    ∀ name ∈ w.history.dropLast, t.document.isFinal name = false := by
  intro name hname
  obtain ⟨i, hi, rfl⟩ := List.getElem_of_mem hname
  rw [List.length_dropLast] at hi
  rw [List.getElem_dropLast]
  exact (List.isChain_iff_getElem.1 h.chain i (by omega)).not_final w.now

/-- Whatever is done to a walk, its history is a route from the start of the document along
transitions.  So end states are only found at its end, and nothing leads on from there. -/
theorem history_run {now : Moment} (h : Walk.start t now = .ok w)
    (script : List (Moment × Action)) :
    (Action.run w script).history ≠ [] ∧
    (Action.run w script).history.head? = t.document.start? ∧
    (∀ name ∈ (Action.run w script).history, t.document.contains name = true) ∧
    (Action.run w script).history.IsChain t.LeadsTo ∧
    (∀ name ∈ (Action.run w script).history.dropLast, t.document.isFinal name = false) ∧
    (Action.run w script).atEnd = t.document.isFinal (Action.run w script).here ∧
    ((Action.run w script).atEnd = true →
      ∀ n : Node, ((Action.run w script).withNode n).next? = none) := by
  have hv : Reached t (Action.run w script) := (Reached.start h).run script
  generalize Action.run w script = v at hv
  refine ⟨v.history_ne_nil, hv.onRoute.head, hv.onRoute.known, hv.onRoute.chain,
    hv.onRoute.not_final, ?_, ?_⟩
  · rw [hv.sound.atEnd_eq, hv.tree_eq]
  · intro hend n
    have hnone : (v.withNode n).nextName? = none := by
      rw [nextName?, Stop.next?, withNode, hv.sound.exits_of_atEnd hend]
      rfl
    rw [next?, hnone]
    rfl

theorem history_run_errand :
    ∃ w, Walk.start Errand.tree Errand.midnight = .ok w ∧
      (Action.run w Errand.trip).history =
        ["Where to?", "textDisplay~Closed", "Where to?", "Home"] ∧
      (Action.run w Errand.trip).history.IsChain Errand.tree.LeadsTo ∧
      ∀ n : Node, ((Action.run w Errand.trip).withNode n).next? = none := by
  obtain ⟨w, hw⟩ := Errand.exists_start
  obtain ⟨-, -, -, hchain, -, -, hend⟩ := history_run hw Errand.trip
  refine ⟨w, hw, ?_, hchain, hend ?_⟩
  · obtain rfl := Except.ok.inj hw
    rfl
  · obtain rfl := Except.ok.inj hw
    rfl

end Walk

end Walkthrough
