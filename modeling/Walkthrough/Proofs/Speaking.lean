import Mathlib.Data.List.Basic
import Walkthrough.Proofs.GoingBack

/-!
# Changing the language

To speak another language is to build the current stop afresh in it, so that of the language spoken
before nothing is left.  It therefore does not matter whether the language is changed before or
after a move: a move builds its stop afresh as well, and where it leads is not a matter of words.
For a move onward this is so as long as the node is unanswered, since a change of language takes the
answer away; the key under which an unanswered node is left is read off the document alone.
-/

namespace Walkthrough

/-! ### The way out of an unanswered stop -/

namespace Document

variable {d : Document} {p q : Presentation} {name : String}

lemma key_withMedia (s : Stop) (media : Media) (settings : Settings) :
    (s.withMedia media).key settings = s.key settings := rfl

lemma key_taskStop (settings : Settings) (task : TaskType) (decoded : NodeName)
    (e : Markup.Element) :
    (taskStop d p task decoded e).key settings = (taskStop d q task decoded e).key settings := by
  cases task <;> rfl

lemma key_bareStop (settings : Settings) (decoded : NodeName) (kind : NodeKind)
    (e : Markup.Element) :
    (d.bareStop p decoded kind e).key settings = (d.bareStop q decoded kind e).key settings :=
  bareStop_induct (r := fun s s' => s.key settings = s'.key settings) d p q decoded e rfl rfl
    (fun task => key_taskStop settings task decoded e) rfl kind

/-- Where a stop leads as long as it is unanswered does not depend on how it is presented. -/
lemma next?_stop? (settings : Settings) :
    (d.stop? p name).map (fun s => s.next? settings) =
      (d.stop? q name).map fun s => s.next? settings := by
  refine map_stop?_congr fun decoded kind e => ?_
  have hframe : (d.bareStop p decoded kind e).frame = (d.bareStop q decoded kind e).frame :=
    frame_bareStop decoded kind e
  obtain ⟨hexits, -⟩ := Stop.frame_eq_frame hframe
  simp only [Stop.next?, key_withMedia]
  rw [key_bareStop (q := q) settings decoded kind e, Stop.withMedia, Stop.withMedia, hexits]

end Document

namespace Walk

variable {t : Tree} {w : Walk} {language : String}

/-! ### Speaking -/

/-- Whether a stop can be built is not a matter of language. -/
lemma isSome_build?_speak (w : Walk) (language name : String) :
    ((w.speak language).build? name).isSome = (w.build? name).isSome := by
  simp only [build?, Tree.stop?, Document.isSome_stop?]
  rfl

lemma speak_of_none (h : (w.speak language).build? w.here = none) :
    w.speak language =
      { w with language := language, glossary := w.tree.glossary language } := by
  rw [speak_eq_getD, h, Option.getD_none]

/-- Of the language that was spoken before nothing is left. -/
lemma speak_speak (w : Walk) (language language' : String) :
    (w.speak language').speak language = w.speak language := by
  have hsame : ((w.speak language').speak language).build? w.here =
      (w.speak language).build? w.here := rfl
  cases hbuild : (w.speak language).build? w.here with
  | some stop =>
    rw [speak_eq hbuild, speak_eq (hsame.trans hbuild)]
    rfl
  | none =>
    -- a node that cannot be built in one language cannot be built in the other
    have hnone : (w.speak language').build? w.here = none := by
      rw [← Option.not_isSome_iff_eq_none, isSome_build?_speak, ← isSome_build?_speak w language,
        hbuild]
      simp
    rw [speak_of_none hbuild, speak_of_none (w := w.speak language') (hsame.trans hbuild),
      speak_of_none hnone]

/-! ### Speaking and moving -/

/-- To arrive at a node and then to speak another language there is to arrive in that language. -/
lemma map_build?_speak (w : Walk) (language name : String) (past : List String) :
    ((w.speak language).build? name).map (fun stop =>
        { w.speak language with past := past, here := name, stop := stop }) =
      ((w.build? name).map fun stop =>
        ({ w with past := past, here := name, stop := stop } : Walk)).map fun v =>
          v.speak language := by
  have hsome := isSome_build?_speak w language name
  rw [Option.map_map]
  cases hbuild : (w.speak language).build? name with
  | some stop =>
    rw [hbuild, Option.isSome_some] at hsome
    obtain ⟨before, hbefore⟩ := Option.isSome_iff_exists.1 hsome.symm
    have harrived : ({ w with past := past, here := name, stop := before } : Walk).speak language =
        { w.speak language with past := past, here := name, stop := stop } :=
      speak_eq (w := { w with past := past, here := name, stop := before }) hbuild
    rw [hbefore, Option.map_some, Option.map_some, Function.comp_apply, harrived]
  | none =>
    rw [hbuild, Option.isSome_none] at hsome
    have hnone : w.build? name = none :=
      Option.isNone_iff_eq_none.1 (Option.isSome_eq_false_iff.1 hsome.symm)
    rw [hnone]
    rfl

lemma previous?_speak (w : Walk) (language : String) :
    (w.speak language).previous? = w.previous?.map fun v => v.speak language := by
  have hpast : (w.speak language).past = w.past := rfl
  cases hw : w.past with
  | nil => simp only [previous?, hpast, hw, Option.map_none]
  | cons name past =>
    simp only [previous?, hpast, hw]
    exact map_build?_speak w language name past

/-- A walk whose way on is the same in another language moves on in the same way there. -/
lemma next?_speak (h : (w.speak language).nextName? = w.nextName?) :
    (w.speak language).next? = w.next?.map fun v => v.speak language := by
  rw [next?_eq, next?_eq, h, Option.map_bind]
  exact Option.bind_congr fun name _ => map_build?_speak w language name (w.here :: w.past)

/-- Whether the current stop is as it was built when the walk arrived, which may be some time
ago. -/
def Untouched (w : Walk) : Prop :=
  ∃ now, w.tree.stop? now w.language w.here = some w.stop

lemma Untouched.nextName?_speak (h : w.Untouched) (language : String) :
    (w.speak language).nextName? = w.nextName? := by
  obtain ⟨now, hstop⟩ := h
  have hway : ((w.speak language).build? w.here).map (fun s => s.next? w.tree.settings) =
      (w.tree.stop? now w.language w.here).map fun s => s.next? w.tree.settings :=
    Document.next?_stop? w.tree.settings
  rw [hstop, Option.map_some] at hway
  obtain ⟨stop, hbuild, hsame⟩ := Option.map_eq_some_iff.1 hway
  rw [nextName?, nextName?, speak_eq hbuild, hsame]

/-! ### Actions -/

/-- An action that is always done can be taken before or after one that is done, or refused, in the
same way in between. -/
lemma perform_comm {a b : Action} {f : Walk → Walk} (hb : ∀ w, b.perform? w = some (f w))
    (h : a.perform? (f w) = (a.perform? w).map f) :
    b.perform (a.perform w) = a.perform (b.perform w) := by
  simp only [Action.perform, hb, Option.getD_some, h]
  cases a.perform? w <;> rfl

/-- A change of language leaves nothing of an earlier one, and its order to a move does not matter:
neither to a move back, which is refused just at the first node, nor to a move onward from a node
that is still unanswered, be it done or refused.  The walks that are compared are the same in all
they hold. -/
theorem Reached.speak_comm (h : Reached t w) (language language' : String) :
    let speak := Action.speak language
    speak.perform ((Action.speak language').perform w) = speak.perform w ∧
    ((Action.goBack.perform? w).isSome = true ↔ 1 < w.history.length) ∧
    Action.goBack.perform? (speak.perform w) = (Action.goBack.perform? w).map speak.perform ∧
    speak.perform (Action.goBack.perform w) = Action.goBack.perform (speak.perform w) ∧
    (w.Untouched →
      Action.advance.perform? (speak.perform w) =
        (Action.advance.perform? w).map speak.perform ∧
      speak.perform (Action.advance.perform w) = Action.advance.perform (speak.perform w)) := by
  intro speak
  have hback : Action.goBack.perform? (speak.perform w) =
      (Action.goBack.perform? w).map speak.perform := previous?_speak w language
  refine ⟨speak_speak w language language', ?_, hback, perform_comm (fun _ => rfl) hback,
    fun huntouched => ?_⟩
  · have hroute := h.onRoute
    rw [← h.tree_eq] at hroute
    have hnone : Action.goBack.perform? w = none ↔ w.history.length = 1 :=
      hroute.previous?_eq_none_iff
    rw [Option.isSome_iff_ne_none, Ne, hnone, length_history]
    omega
  · have hnext : Action.advance.perform? (speak.perform w) =
        (Action.advance.perform? w).map speak.perform :=
      next?_speak (huntouched.nextName?_speak language)
    exact ⟨hnext, perform_comm (fun _ => rfl) hnext⟩

/-- One stands before a closed shop, from where there is only one way, and starts to speak Tagalog
before or after going on.  At the crossing it does not help to speak Tagalog. -/
theorem speak_comm_errand :
    ∃ w further, Walk.start Errand.tree Errand.midnight = .ok w ∧
      Action.advance.perform? ((Action.select 0).perform w) = some further ∧
      w.Untouched ∧ further.Untouched ∧
      Action.advance.perform? ((Action.speak "Tagalog").perform w) = none ∧
      (Action.goBack.perform? further).isSome = true ∧
      (Action.speak "Tagalog").perform (Action.goBack.perform further) =
        Action.goBack.perform ((Action.speak "Tagalog").perform further) ∧
      (Action.speak "Tagalog").perform (Action.advance.perform further) =
        Action.advance.perform ((Action.speak "Tagalog").perform further) := by
  obtain ⟨w, further, hw, hfurther, hw', hfurther', hrefused, hlength⟩ :
      ∃ w further, Walk.start Errand.tree Errand.midnight = .ok w ∧
        Action.advance.perform? ((Action.select 0).perform w) = some further ∧
        w.Untouched ∧ further.Untouched ∧ Action.advance.perform? w = none ∧
        1 < further.history.length :=
    ⟨_, _, rfl, rfl, ⟨Errand.midnight, rfl⟩, ⟨Errand.midnight, rfl⟩, rfl, Nat.one_lt_two⟩
  have hstart := Reached.start hw
  have hmoved : Reached Errand.tree further := by
    have hdone := (hstart.act (.select 0)).act .advance
    rwa [Action.perform, hfurther] at hdone
  obtain ⟨-, -, -, -, honward⟩ := hstart.speak_comm "Tagalog" "English"
  obtain ⟨-, hcan, -, hback, honward'⟩ := hmoved.speak_comm "Tagalog" "English"
  refine ⟨w, further, hw, hfurther, hw', hfurther', ?_, hcan.2 hlength, hback,
    (honward' hfurther').2⟩
  rw [(honward hw').1, hrefused, Option.map_none]

end Walk

end Walkthrough
