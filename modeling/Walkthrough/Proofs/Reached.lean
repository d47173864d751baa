import Mathlib.Data.List.Basic
import Walkthrough.Proofs.Building
import Walkthrough.Walk.Action

/-!
# The walks that can be reached

A walk is reached if it is started and then acted on, in whatever order and at whatever times.  All
that an action can make of a walk is listed once, in `Step`, and laws of reached walks are proved by
cases on it.  The first such law is that the current stop is sound: apart from the answers it is
what would be built there now, and its answers are legal.
-/

namespace Walkthrough

open Markup (Element)

namespace Walk

/-- The walks over a tree that are started and then acted on. -/
inductive Reached (t : Tree) : Walk → Prop
  | start {now : Moment} {w : Walk} (h : Walk.start t now = .ok w) : Reached t w
  /-- The clock goes on. -/
  | wait {w : Walk} (h : Reached t w) (now : Moment) : Reached t (w.setClock now)
  | act {w : Walk} (h : Reached t w) (a : Action) : Reached t (a.perform w)

variable {t : Tree} {w w' : Walk}

lemma Reached.run (h : Reached t w) (script : List (Moment × Action)) :
    Reached t (Action.run w script) := by
  induction script generalizing w with
  | nil => exact h
  | cons step script ih => exact ih ((h.wait step.1).act step.2)

/-! ### What moves do -/

lemma start_eq_ok {now : Moment} (h : Walk.start t now = .ok w) :
    ∃ name stop, t.document.start? = some name ∧
      t.stop? now t.firstLanguage name = some stop ∧
      w = ⟨t, now, t.firstLanguage, t.glossary t.firstLanguage, [], name, stop, []⟩ := by
  rw [Walk.start] at h
  split at h
  · cases h
  · next name hname =>
    split at h
    · next v hv =>
      obtain rfl := Except.ok.inj h
      obtain ⟨stop, hstop, rfl⟩ := Option.map_eq_some_iff.1 hv
      exact ⟨name, stop, hname, hstop, rfl⟩
    · cases h

/-- What is read off the walk that starts is read off some walk that does. -/
lemma exists_start_of_map {α : Type} {now : Moment} {f : Walk → α} {x : α}
    (h : (Walk.start t now).toOption.map f = some x) :
    ∃ w, Walk.start t now = .ok w ∧ f w = x := by
  obtain ⟨w, hw, hx⟩ := Option.map_eq_some_iff.1 h
  cases hstart : Walk.start t now with
  | error e =>
    rw [hstart] at hw
    cases hw
  | ok v =>
    rw [hstart] at hw
    obtain rfl := Option.some.inj hw
    exact ⟨v, rfl, hx⟩

lemma next?_eq (w : Walk) :
    w.next? = w.nextName?.bind fun name => (w.build? name).map fun stop =>
      { w with past := w.here :: w.past, here := name, stop := stop } := by
  rw [next?]
  cases w.nextName? with
  | none => rfl
  | some name =>
    simp only [Option.bind_eq_bind, Option.bind_some]
    cases w.build? name <;> rfl

lemma next?_eq_some :
    w.next? = some w' ↔ ∃ name stop, w.nextName? = some name ∧ w.build? name = some stop ∧
      w' = { w with past := w.here :: w.past, here := name, stop := stop } := by
  rw [next?_eq, Option.bind_eq_some_iff]
  constructor
  · rintro ⟨name, hname, hmap⟩
    obtain ⟨stop, hstop, rfl⟩ := Option.map_eq_some_iff.1 hmap
    exact ⟨name, stop, hname, hstop, rfl⟩
  · rintro ⟨name, stop, hname, hstop, rfl⟩
    exact ⟨name, hname, Option.map_eq_some_iff.2 ⟨stop, hstop, rfl⟩⟩

lemma previous?_eq_some :
    w.previous? = some w' ↔ ∃ name past stop, w.past = name :: past ∧
      w.build? name = some stop ∧ w' = { w with past := past, here := name, stop := stop } := by
  rw [previous?]
  constructor
  · intro h
    split at h
    · cases h
    · next name past hpast =>
      obtain ⟨stop, hstop, rfl⟩ := Option.map_eq_some_iff.1 h
      exact ⟨name, past, stop, hpast, hstop, rfl⟩
  · rintro ⟨name, past, stop, hpast, hstop, rfl⟩
    rw [hpast]
    exact Option.map_eq_some_iff.2 ⟨stop, hstop, rfl⟩

lemma speak_eq_getD (w : Walk) (language : String) :
    w.speak language =
      { w with language := language, glossary := w.tree.glossary language,
               stop := ((w.speak language).build? w.here).getD w.stop } := rfl

/-- A walk that speaks a language is at the stop that is built in it. -/
lemma speak_eq {language : String} {stop : Stop}
    (h : (w.speak language).build? w.here = some stop) :
    w.speak language =
      { w with language := language, glossary := w.tree.glossary language, stop := stop } := by
  rw [speak_eq_getD, h, Option.getD_some]

/-! ### What actions do -/

/-- What an action can make of a walk. -/
inductive Step (w : Walk) : Walk → Prop
  | stay : Step w w
  | answer (n : Node) (same : n.unanswered = w.stop.node.unanswered)
      (legal : w.stop.node.Legal → n.Legal) : Step w (w.withNode n)
  | advance {w' : Walk} (h : w.next? = some w') : Step w w'
  | goBack {w' : Walk} (h : w.previous? = some w') : Step w w'
  | speak (language : String) : Step w (w.speak language)
  | save : Step w w.save

/-- An attempt to answer the node either gives it a legal answer or is refused. -/
lemma step_answer? {f : Block → Option Block} (hf : Block.Answers f) (w : Walk) :
    Step w ((w.answer? (Node.change? f)).getD w) := by
  cases h : w.stop.node.change? f with
  | none =>
    rw [answer?, h]
    exact Step.stay
  | some n =>
    rw [answer?, h]
    exact Step.answer n (Node.unanswered_change? hf h) fun hlegal => hlegal.change? hf h

lemma step_perform (w : Walk) (a : Action) : Step w (a.perform w) := by
  cases a with
  | select index => exact step_answer? (Block.answers_select? index) w
  | toggle index => exact step_answer? (Block.answers_toggle? index) w
  | clear => exact Step.answer _ w.stop.node.unanswered_clear fun _ => w.stop.node.legal_clear
  | write text => exact step_answer? (Block.answers_write? text) w
  | setDate value => exact step_answer? (Block.answers_setDate? value) w
  | advance =>
    simp only [Action.perform, Action.perform?]
    cases h : w.next? with
    | none => exact Step.stay
    | some w' => exact Step.advance h
  | goBack =>
    simp only [Action.perform, Action.perform?]
    cases h : w.previous? with
    | none => exact Step.stay
    | some w' => exact Step.goBack h
  | speak language => exact Step.speak language
  | save => exact Step.save

/-- A law of walks holds of every reached walk if it holds at the start, whatever the clock shows,
and is kept by every step. -/
theorem Reached.induct {motive : (w : Walk) → Reached t w → Prop}
    (start : ∀ {now w} (h : Walk.start t now = .ok w), motive w (.start h))
    (wait : ∀ {w} (now : Moment) (h : Reached t w), motive w h → motive _ (h.wait now))
    (step : ∀ {w w'} (h : Reached t w) (h' : Reached t w'), motive w h → Step w w' → motive w' h')
    {w : Walk} (h : Reached t w) : motive w h := by
  induction h with
  | start h => exact start h
  | wait h now ih => exact wait now h ih
  | act h a ih => exact step h _ ih (step_perform _ a)

lemma tree_of_step (h : Step w w') : w'.tree = w.tree := by
  cases h with
  | advance h =>
    obtain ⟨name, stop, -, -, rfl⟩ := next?_eq_some.1 h
    rfl
  | goBack h =>
    obtain ⟨name, past, stop, -, -, rfl⟩ := previous?_eq_some.1 h
    rfl
  | _ => rfl

lemma Reached.tree_eq (h : Reached t w) : w.tree = t := by
  induction h using Reached.induct with
  | start h =>
    obtain ⟨name, stop, -, -, rfl⟩ := start_eq_ok h
    rfl
  | wait now _ ih => exact ih
  | step _ _ ih hstep => exact (tree_of_step hstep).trans ih

/-! ### The current stop -/

/-- The current stop is what is built there, apart from its answers, and these are legal; and the
hints are what is loaded for the current language. -/
structure Sound (w : Walk) : Prop where
  fresh : (w.build? w.here).map Stop.unanswered = some w.stop.unanswered
  legal : w.stop.node.Legal
  loaded : w.glossary = w.tree.glossary w.language

lemma sound_of_build? (h : w.build? w.here = some w.stop)
    (hloaded : w.glossary = w.tree.glossary w.language) : w.Sound := by
  refine ⟨?_, Document.legal_stop? h, hloaded⟩
  rw [h, Option.map_some]

/-- The hints of a sound walk are in the language that it speaks. -/
lemma Sound.language_glossary (h : w.Sound) : w.glossary.language = w.language := by
  rw [h.loaded, w.tree.glossary_language]

lemma Sound.setClock (h : w.Sound) (now : Moment) : (w.setClock now).Sound := by
  refine ⟨Eq.trans ?_ h.fresh, h.legal, h.loaded⟩
  exact Document.unanswered_stop?_setClock (p := w.tree.presentation w.now w.language) now

lemma Sound.contains (h : w.Sound) : w.tree.document.contains w.here = true := by
  obtain ⟨stop, hstop, -⟩ := Option.map_eq_some_iff.1 h.fresh
  exact Document.contains_of_stop? hstop

lemma Sound.speak (h : w.Sound) (language : String) : (w.speak language).Sound := by
  have hsome : ((w.speak language).build? w.here).isSome := by
    rw [build?, Tree.stop?, Document.isSome_stop?]
    exact h.contains
  obtain ⟨stop, hstop⟩ := Option.isSome_iff_exists.1 hsome
  rw [speak_eq hstop]
  exact sound_of_build? hstop rfl

lemma Sound.step (h : w.Sound) (hstep : Step w w') : w'.Sound := by
  cases hstep with
  | stay => exact h
  | answer n same legal =>
    refine ⟨?_, legal h.legal, h.loaded⟩
    have hsame : (w.withNode n).stop.unanswered = w.stop.unanswered := by
      simp only [Stop.unanswered, withNode, same]
    rw [hsame]
    exact h.fresh
  | advance hnext =>
    obtain ⟨name, stop, -, hstop, rfl⟩ := next?_eq_some.1 hnext
    exact sound_of_build? hstop h.loaded
  | goBack hprevious =>
    obtain ⟨name, past, stop, -, hstop, rfl⟩ := previous?_eq_some.1 hprevious
    exact sound_of_build? hstop h.loaded
  | speak language => exact h.speak language
  | save => exact ⟨h.fresh, h.legal, h.loaded⟩

lemma Reached.sound (h : Reached t w) : w.Sound := by
  induction h using Reached.induct with
  | start h =>
    obtain ⟨name, stop, -, hstop, rfl⟩ := start_eq_ok h
    exact sound_of_build? hstop rfl
  | wait now _ ih => exact ih.setClock now
  | step _ _ ih hstep => exact ih.step hstep

end Walk

/-! ### A small tree -/

namespace Errand

/-- An element without text. -/
def element (name : String) (attributes : List (String × String)) (children : List Element) :
    Element :=
  ⟨name, Table.ofList attributes, children, ""⟩

/-- From a crossing one goes home or to a shop, which is closed, so that one comes back to the
crossing. -/
def document : Document where
  root := element "process-definition" []
    [element "start-state" [] [element "transition" [("to", "Where to?")] []],
      element "decision" [("name", "Where to?")]
        [element "transition" [("name", "Shop"), ("to", "textDisplay~Closed")] [],
          element "transition" [("name", "Home"), ("to", "Home")] []],
      element "task-node" [("name", "textDisplay~Closed")]
        [element "transition" [("to", "Where to?")] []],
      element "end-state" [("name", "Home")] []]
  root_name := rfl

/-- The errand in English and in Tagalog. -/
def tree : Tree where
  folder := none
  document := document
  phrases := (Phrasebook.none "English").insert "Tagalog" <| Table.ofList
    [("Where to?", "Saan?"), ("Shop", "Tindahan"), ("Closed", "Sarado")]
  assets := Assets.none
  glossary := Glossary.none
  settings := Settings.default

/-- The errand without a word of Tagalog, by someone who likes it loud and likes JSON. -/
def loudTree : Tree where
  folder := none
  document := document
  phrases := (Phrasebook.none "Tagalog").insert "English" <| Table.ofList
    [("Where to?", "WHERE?"), ("Shop", "SHOP"), ("Home", "SHOP")]
  assets := ⟨fun name => some name, fun name _ => some name⟩
  glossary := Glossary.none
  settings := { Settings.default with
    language := some "English", exportFormat := .json, endText := "HOME" }

/-- The moment at which it starts. -/
def midnight : Moment := Date.midnight ⟨2000, 1, 1, by decide, by decide, by decide⟩

lemma exists_start : ∃ w, Walk.start tree midnight = .ok w := ⟨_, rfl⟩

/-- To the shop in vain, and home. -/
def trip : List (Moment × Action) :=
  [Action.advance, .select 0, .advance, .goBack, .speak "Tagalog", .select 7, .select 0, .advance,
    .save, .advance, .select 1, .advance].map fun a => (midnight, a)

end Errand

end Walkthrough
