import Mathlib.Data.List.Forall2
import Walkthrough.Proofs.Muting
import Walkthrough.Record.Export

/-!
# The wording decides nothing

Two walks over one document are alike if they differ in nothing but what is said and shown: the
phrasebooks, the languages, the media, the hints, the text at the end and the format of the export.
Whatever is done to both of them, they stay alike, and so they lead to the same nodes with the same
records.  This is a simulation in lock step; only the languages that are switched to may differ.
-/

namespace Walkthrough

/-! ### Values that may be missing on both sides -/

section Rel

variable {α β γ δ : Type} {r : α → β → Prop} {o : Option α} {o' : Option β}

lemma rel_of_map_eq {f : α → γ} {g : β → γ} (h : o.map f = o'.map g) :
    Option.Rel (fun a b => f a = g b) o o' := by
  cases o with
  | none =>
    obtain rfl := Option.map_eq_none_iff.1 h.symm
    exact Option.Rel.none
  | some a =>
    obtain ⟨b, rfl, hb⟩ := Option.map_eq_some_iff.1 h.symm
    exact Option.Rel.some hb.symm

lemma rel_map {s : γ → δ → Prop} {f : α → γ} {g : β → δ} (hfg : ∀ a b, r a b → s (f a) (g b))
    (h : Option.Rel r o o') : Option.Rel s (o.map f) (o'.map g) := by
  cases h with
  | some hab => exact Option.Rel.some (hfg _ _ hab)
  | none => exact Option.Rel.none

lemma isSome_eq_of_rel (h : Option.Rel r o o') : o.isSome = o'.isSome := by
  cases h <;> rfl

lemma rel_getD {a : α} {b : β} (h : Option.Rel r o o') (hab : r a b) :
    r (o.getD a) (o'.getD b) := by
  cases h with
  | some h => exact h
  | none => exact hab

end Rel

/-! ### Alike walks -/

/-- Actions that differ at most in the language that they switch to. -/
inductive Action.Similar : Action → Action → Prop
  | same (a : Action) : Similar a a
  | speak (language language' : String) : Similar (.speak language) (.speak language')

/-- Scripts of similar actions at the same times. -/
def Action.SimilarScripts (script script' : List (Moment × Action)) : Prop :=
  List.Forall₂ (fun x y => x.1 = y.1 ∧ x.2.Similar y.2) script script'

namespace Walk

/-- Two walks are alike if they differ in nothing but wording and media. -/
structure Alike (v w : Walk) : Prop where
  document : v.tree.document = w.tree.document
  matching : v.tree.settings.matching = w.tree.settings.matching
  trimAnswers : v.tree.settings.trimAnswers = w.tree.settings.trimAnswers
  now : v.now = w.now
  past : v.past = w.past
  here : v.here = w.here
  stop : v.stop.muted = w.stop.muted
  records : v.records = w.records

namespace Alike

variable {v w v' w' : Walk}

/-! ### What is read off alike walks -/

lemma history_eq (h : Alike v w) : v.history = w.history := by
  rw [history, history, h.past, h.here]

lemma atEnd_eq (h : Alike v w) : v.atEnd = w.atEnd := by
  obtain ⟨-, -, hkind, -⟩ := Stop.muted_eq_muted.1 h.stop
  rw [atEnd, atEnd, hkind]

lemma awaitsChoice_eq (h : Alike v w) : v.stop.awaitsChoice = w.stop.awaitsChoice := by
  rw [← v.stop.awaitsChoice_muted, h.stop, w.stop.awaitsChoice_muted]

lemma key_eq (h : Alike v w) : v.key = w.key := by
  have hsettings (s : Stop) : s.key v.tree.settings = s.key w.tree.settings := by
    simp only [Stop.key, transitionKey, rightText, h.matching, h.trimAnswers]
  rw [key, key, ← Stop.key_muted, h.stop, Stop.key_muted, hsettings]

lemma nextName?_eq (h : Alike v w) : v.nextName? = w.nextName? := by
  obtain ⟨-, hexits, -⟩ := Stop.muted_eq_muted.1 h.stop
  have hkey : v.stop.key v.tree.settings = w.stop.key w.tree.settings := h.key_eq
  rw [nextName?, nextName?, Stop.next?, Stop.next?, hexits, hkey]

lemma canAdvance_eq (h : Alike v w) : v.canAdvance = w.canAdvance := by
  rw [canAdvance, canAdvance, h.nextName?_eq, h.document]

lemma leadsToEnd_eq (h : Alike v w) : v.leadsToEnd = w.leadsToEnd := by
  rw [leadsToEnd, leadsToEnd, h.nextName?_eq, h.document]

lemma canReturn_eq (h : Alike v w) : v.canReturn = w.canReturn := by
  rw [canReturn, canReturn, h.past]

lemma record_eq (h : Alike v w) : v.record = w.record := by
  obtain ⟨hnode, -, -, htask, -⟩ := Stop.muted_eq_muted.1 h.stop
  have hanswer : v.stop.node.answer = w.stop.node.answer := by
    rw [← v.stop.node.answer_muted, hnode, w.stop.node.answer_muted]
  rw [record, record, h.key_eq, htask, hanswer]

/-! ### What is done to alike walks -/

lemma setClock (h : Alike v w) (now : Moment) : Alike (v.setClock now) (w.setClock now) :=
  { h with now := rfl }

lemma withNode (h : Alike v w) {n n' : Node} (hn : n.muted = n'.muted) :
    Alike (v.withNode n) (w.withNode n') := by
  refine { h with stop := Stop.muted_eq_muted.2 ⟨hn, ?_⟩ }
  exact (Stop.muted_eq_muted.1 h.stop).2

lemma save (h : Alike v w) : Alike v.save w.save := by
  refine { h with records := ?_ }
  rw [Walk.save, Walk.save, h.records, h.record_eq]

/-- Stops that alike walks build differ in nothing but words and media, in whatever languages. -/
lemma stop?_rel (h : Alike v w) (language language' name : String) :
    Option.Rel (fun s s' => s.muted = s'.muted) (v.tree.stop? v.now language name)
      (w.tree.stop? w.now language' name) := by
  refine rel_of_map_eq ?_
  rw [Tree.stop?, Tree.stop?, h.document]
  exact Document.muted_stop? h.now

lemma next?_rel (h : Alike v w) : Option.Rel Alike v.next? w.next? := by
  rw [next?_eq, next?_eq, h.nextName?_eq]
  cases w.nextName? with
  | none => exact Option.Rel.none
  | some name =>
    refine rel_map (fun s s' hs => ?_) (h.stop?_rel v.language w.language name)
    exact { h with past := by rw [h.past, h.here], here := rfl, stop := hs }

lemma previous?_rel (h : Alike v w) : Option.Rel Alike v.previous? w.previous? := by
  rw [previous?, previous?, h.past]
  cases w.past with
  | nil => exact Option.Rel.none
  | cons name past =>
    refine rel_map (fun s s' hs => ?_) (h.stop?_rel v.language w.language name)
    exact { h with past := rfl, here := rfl, stop := hs }

lemma speak (h : Alike v w) (language language' : String) :
    Alike (v.speak language) (w.speak language') := by
  have hrel := h.stop?_rel language language' w.here
  refine { h with stop := ?_ }
  simp only [Walk.speak, build?, h.here]
  exact rel_getD (r := fun s s' : Stop => s.muted = s'.muted) hrel h.stop

lemma answer?_rel (h : Alike v w) {f : Block → Option Block} (hf : Block.Wordless f) :
    Option.Rel Alike (v.answer? (Node.change? f)) (w.answer? (Node.change? f)) := by
  obtain ⟨hnode, -⟩ := Stop.muted_eq_muted.1 h.stop
  refine rel_map (fun n n' hn => h.withNode hn) (rel_of_map_eq ?_)
  rw [Node.muted_change? _ hf, Node.muted_change? _ hf, hnode]

/-- Similar actions are both done or both refused, and leave alike walks alike. -/
lemma perform?_rel (h : Alike v w) {a b : Action} (hab : a.Similar b) :
    Option.Rel Alike (a.perform? v) (b.perform? w) := by
  cases hab with
  | speak language language' => exact Option.Rel.some (h.speak language language')
  | same =>
    cases a with
    | select index => exact h.answer?_rel (Block.wordless_select? index)
    | toggle index => exact h.answer?_rel (Block.wordless_toggle? index)
    | clear =>
      obtain ⟨hnode, -⟩ := Stop.muted_eq_muted.1 h.stop
      refine Option.Rel.some (h.withNode ?_)
      rw [Node.muted_clear, Node.muted_clear, hnode]
    | write text => exact h.answer?_rel (Block.wordless_write? text)
    | setDate value => exact h.answer?_rel (Block.wordless_setDate? value)
    | advance => exact h.next?_rel
    | goBack => exact h.previous?_rel
    | speak language => exact Option.Rel.some (h.speak language language)
    | save => exact Option.Rel.some h.save

/-- Scripts that differ at most in the languages that they switch to leave alike walks alike. -/
lemma run (h : Alike v w) {script script' : List (Moment × Action)}
    (hs : Action.SimilarScripts script script') :
    Alike (Action.run v script) (Action.run w script') := by
  induction hs generalizing v w with
  | nil => exact h
  | @cons x y script script' hxy _ ih =>
    obtain ⟨hnow, hsimilar⟩ := hxy
    refine ih (rel_getD ?_ ?_)
    · exact hnow ▸ (h.setClock x.1).perform?_rel hsimilar
    · exact hnow ▸ h.setClock x.1

/-! ### Alike sessions -/

lemma proceed (h : Alike v w) :
    Alike v.proceed.1 w.proceed.1 ∧ v.proceed.2 = w.proceed.2 := by
  rw [Walk.proceed, Walk.proceed, h.awaitsChoice_eq, h.canAdvance_eq]
  split_ifs
  · exact ⟨h, rfl⟩
  · exact ⟨h, rfl⟩
  · have hrel := h.save.next?_rel
    generalize v.save.next? = o, w.save.next? = o' at hrel ⊢
    cases hrel with
    | some hnext => exact ⟨hnext, rfl⟩
    | none => exact ⟨h.save, rfl⟩

lemma enter?_rel (h : Alike v w) (zone : Zone) (line : String) :
    Option.Rel (fun x y => Alike x.1 y.1 ∧ x.2 = y.2) (v.enter? zone line)
      (w.enter? zone line) := by
  have hreply : (v.stop.reply zone (Text.trim line)).muted =
      (w.stop.reply zone (Text.trim line)).muted := by
    rw [← Stop.reply_muted, h.stop, Stop.reply_muted]
  rw [enter?, enter?]
  generalize v.stop.reply zone (Text.trim line) = r, w.stop.reply zone (Text.trim line) = r'
    at hreply ⊢
  -- replies that are alike are of one kind
  cases r <;> cases r' <;> simp only [Reply.muted, reduceCtorEq, Reply.answer.injEq,
    Reply.tick.injEq, Reply.refuse.injEq] at hreply
  case quit.quit => exact Option.Rel.none
  case back.back =>
    have hrel := h.previous?_rel
    generalize v.previous? = o, w.previous? = o' at hrel ⊢
    cases hrel with
    | some hearlier => exact Option.Rel.some ⟨hearlier, rfl⟩
    | none => exact Option.Rel.some ⟨h, rfl⟩
  case onward.onward => exact Option.Rel.some h.proceed
  case answer.answer n n' => exact Option.Rel.some (h.withNode hreply).proceed
  case tick.tick n n' => exact Option.Rel.some ⟨h.withNode hreply, rfl⟩
  case refuse.refuse r r' => exact Option.Rel.some ⟨h, congrArg some hreply⟩

lemma playAt (h : Alike v w) (zone : Zone) (colored colored' : Bool)
    (lines : List (Moment × String)) :
    (Session.playAt zone colored v lines).outcome = (Session.playAt zone colored' w lines).outcome ∧
      Alike (Session.playAt zone colored v lines).walk
        (Session.playAt zone colored' w lines).walk := by
  induction lines generalizing v w with
  | nil =>
    rw [Session.playAt, Session.playAt, h.atEnd_eq]
    split_ifs
    · exact ⟨rfl, h⟩
    · exact ⟨rfl, h⟩
  | cons line rest ih =>
    obtain ⟨now, line⟩ := line
    rw [Session.playAt, Session.playAt, h.atEnd_eq]
    split_ifs
    · exact ⟨rfl, h⟩
    · have hrel := (h.setClock now).enter?_rel zone line
      generalize (v.setClock now).enter? zone line = o, (w.setClock now).enter? zone line = o'
        at hrel ⊢
      cases hrel with
      | some hturn => exact ih hturn.1
      | none => exact ⟨rfl, h⟩

end Alike

/-! ### Walks over trees that differ in wording -/

variable {t t' : Tree}

/-- Over trees that differ in nothing but wording and media, walks start alike. -/
lemma exists_start_alike {now : Moment} {v : Walk} (hdocument : t.document = t'.document)
    (hmatching : t.settings.matching = t'.settings.matching)
    (htrim : t.settings.trimAnswers = t'.settings.trimAnswers) (h : Walk.start t now = .ok v) :
    ∃ w, Walk.start t' now = .ok w ∧ Alike v w := by
  obtain ⟨name, stop, hname, hstop, rfl⟩ := start_eq_ok h
  have hrel : Option.Rel (fun s s' : Stop => s.muted = s'.muted)
      (t.stop? now t.firstLanguage name) (t'.stop? now t'.firstLanguage name) := by
    refine rel_of_map_eq ?_
    rw [Tree.stop?, Tree.stop?, hdocument]
    exact Document.muted_stop? rfl
  rw [hstop] at hrel
  cases hstop' : t'.stop? now t'.firstLanguage name with
  | none =>
    rw [hstop'] at hrel
    cases hrel
  | some stop' =>
    rw [hstop'] at hrel
    cases hrel with
    | some hmuted =>
      refine ⟨⟨t', now, t'.firstLanguage, t'.glossary t'.firstLanguage, [], name, stop', []⟩, ?_,
        ⟨hdocument, hmatching, htrim, rfl, rfl, rfl, hmuted, rfl⟩⟩
      rw [Walk.start, ← hdocument, hname]
      simp only [startAt?, hstop', Option.map_some]

/-- Two walks take the same course: similar actions are done on both or refused by both, all that
can be asked about the way is answered alike, and the same lines, in one zone, lead them both
alike. -/
structure SameCourse (v w : Walk) : Prop where
  perform (now : Moment) {a b : Action} (h : a.Similar b) :
    (a.perform? (v.setClock now)).isSome = (b.perform? (w.setClock now)).isSome
  history : v.history = w.history
  key : v.key = w.key
  nextName? : v.nextName? = w.nextName?
  canAdvance : v.canAdvance = w.canAdvance
  canReturn : v.canReturn = w.canReturn
  awaitsChoice : v.stop.awaitsChoice = w.stop.awaitsChoice
  atEnd : v.atEnd = w.atEnd
  leadsToEnd : v.leadsToEnd = w.leadsToEnd
  records : v.records = w.records
  export_text (format : ExportFormat) :
    Record.exportText format v.records = Record.exportText format w.records
  session_outcome (zone : Zone) (colored colored' : Bool) (lines : List (Moment × String)) :
    (Session.playAt zone colored v lines).outcome = (Session.playAt zone colored' w lines).outcome
  session_history (zone : Zone) (colored colored' : Bool) (lines : List (Moment × String)) :
    (Session.playAt zone colored v lines).walk.history =
      (Session.playAt zone colored' w lines).walk.history
  session_records (zone : Zone) (colored colored' : Bool) (lines : List (Moment × String)) :
    (Session.playAt zone colored v lines).walk.records =
      (Session.playAt zone colored' w lines).walk.records

lemma Alike.sameCourse {v w : Walk} (h : Alike v w) : SameCourse v w where
  perform now _ _ hab := isSome_eq_of_rel ((h.setClock now).perform?_rel hab)
  history := h.history_eq
  key := h.key_eq
  nextName? := h.nextName?_eq
  canAdvance := h.canAdvance_eq
  canReturn := h.canReturn_eq
  awaitsChoice := h.awaitsChoice_eq
  atEnd := h.atEnd_eq
  leadsToEnd := h.leadsToEnd_eq
  records := h.records
  export_text _ := congrArg _ h.records
  session_outcome zone colored colored' lines := (h.playAt zone colored colored' lines).1
  session_history zone colored colored' lines := (h.playAt zone colored colored' lines).2.history_eq
  session_records zone colored colored' lines := (h.playAt zone colored colored' lines).2.records

/-- Neither the wording nor the media nor the languages that are switched to change the course of a
walk.  Over two trees with the same document and the same way of comparing answers, walks both
start, and after the same script they have taken the same course. -/
theorem sameCourse_run {now : Moment} {v : Walk} (hdocument : t.document = t'.document)
    (hmatching : t.settings.matching = t'.settings.matching)
    (htrim : t.settings.trimAnswers = t'.settings.trimAnswers) (h : Walk.start t now = .ok v) :
    ∃ w, Walk.start t' now = .ok w ∧ ∀ script script' : List (Moment × Action),
      Action.SimilarScripts script script' →
        SameCourse (Action.run v script) (Action.run w script') := by
  obtain ⟨w, hw, halike⟩ := exists_start_alike hdocument hmatching htrim h
  exact ⟨w, hw, fun _ _ hscripts => (halike.run hscripts).sameCourse⟩

theorem sameCourse_run_errand :
    ∃ v w, Walk.start Errand.tree Errand.midnight = .ok v ∧
      Walk.start Errand.loudTree Errand.midnight = .ok w ∧
      SameCourse
        (Action.run v [(Errand.midnight, .speak "Tagalog"), (Errand.midnight, .select 1)])
        (Action.run w [(Errand.midnight, .speak "Dutch"), (Errand.midnight, .select 1)]) := by
  obtain ⟨v, hv⟩ := Errand.exists_start
  have hdocument : Errand.tree.document = Errand.loudTree.document := rfl
  obtain ⟨w, hw, hcourse⟩ := sameCourse_run hdocument rfl rfl hv
  refine ⟨v, w, hv, hw, hcourse _ _ ?_⟩
  exact .cons ⟨rfl, .speak "Tagalog" "Dutch"⟩ (.cons ⟨rfl, .same (.select 1)⟩ .nil)

end Walk

end Walkthrough
