import Mathlib.Data.List.Basic
import Walkthrough.Proofs.Playing
import Walkthrough.Proofs.Route

/-!
# Moving on

A player who wants to know whether a walk can move on asks for the name of the next node and looks
that up in the document; the move itself builds a stop.  These are two ways through the library,
and they agree: a move is refused just if it was not announced, it arrives where it was announced
to arrive, and it changes nothing but the place.
-/

namespace Walkthrough

namespace Walk

variable {t : Tree} {w w' : Walk}

/-- A walk moves on to an end state just if that is announced. -/
lemma atEnd_advance (h : w.next? = some w') : w'.atEnd = w.leadsToEnd := by
  obtain ⟨name, stop, hname, hstop, rfl⟩ := next?_eq_some.1 h
  have hfinal : w.tree.document.isFinal name = (stop.kind == .final) := Document.isFinal_eq hstop
  rw [leadsToEnd, hname, Option.any_some, hfinal, atEnd]

/-- What is announced of a move is what it does.  It is done just if the next node is available.
If so, the name of that node is put at the end of the history, the stop there is built afresh in
the current language, it is an end state just if this was announced, and the language, the hints
and the records stay.  If not, all of the walk stays as it is. -/
theorem Reached.perform_advance (h : Reached t w) :
    let v := Action.advance.perform w
    (Action.advance.perform? w).isSome = w.canAdvance ∧
    (w.canAdvance = true → ∃ name,
      w.nextName? = some name ∧
      v.history = w.history ++ [name] ∧
      t.stop? w.now w.language name = some v.stop ∧
      v.atEnd = w.leadsToEnd ∧
      v.language = w.language ∧
      v.glossary = w.glossary ∧
      v.records = w.records) ∧
    (w.canAdvance = false → v = w) := by
  intro v
  refine ⟨w.isSome_next?, fun hcan => ?_, fun hcan => ?_⟩
  · rw [← isSome_next?] at hcan
    obtain ⟨w', hw'⟩ := Option.isSome_iff_exists.1 hcan
    obtain ⟨name, stop, hname, hstop, hmoved⟩ := next?_eq_some.1 hw'
    have hv : v = w' := by
      change w.next?.getD w = w'
      rw [hw', Option.getD_some]
    rw [hv]
    refine ⟨name, hname, ?_, ?_, atEnd_advance hw', ?_, ?_, ?_⟩
    · rw [history_advance hw', hmoved]
    · rw [← h.tree_eq, hmoved]
      exact hstop
    all_goals rw [hmoved]
  · rw [← isSome_next?, Option.isSome_eq_false_iff, Option.isNone_iff_eq_none] at hcan
    change w.next?.getD w = w
    rw [hcan, Option.getD_none]

theorem perform_advance_errand :
    ∃ w, Walk.start Errand.tree Errand.midnight = .ok w ∧
      Action.advance.perform w = w ∧
      ∃ name, ((Action.select 1).perform w).nextName? = some name ∧
        (Action.advance.perform ((Action.select 1).perform w)).history = ["Where to?", name] ∧
        (Action.advance.perform ((Action.select 1).perform w)).atEnd = true := by
  obtain ⟨w, hw⟩ := Errand.exists_start
  have hstart := Reached.start hw
  -- nothing leads on before a way is chosen
  obtain ⟨-, -, hrefused⟩ := hstart.perform_advance
  obtain ⟨-, hdone, -⟩ := (hstart.act (.select 1)).perform_advance
  obtain ⟨name, hname, hhistory, -, hend, -⟩ := hdone (by obtain rfl := Except.ok.inj hw; rfl)
  refine ⟨w, hw, hrefused ?_, name, hname, hhistory.trans ?_, hend.trans ?_⟩
  all_goals
    obtain rfl := Except.ok.inj hw
    rfl

end Walk

end Walkthrough
