import Mathlib.Data.List.Basic
import Walkthrough.Proofs.Answering
import Walkthrough.Stop

/-!
# What a stop is built like

Every stop that is built has at most one block with options, as many transition keys as options if
it has keys at all, and answers that are legal.  Whether a name can be built depends on the document
alone, and the clock is seen in nothing but the dates that a node starts with.
-/

namespace Walkthrough

open Markup (Element)

/-! ### Nodes with at most one list of options -/

namespace Node

/-- The items that the blocks of the node list or offer, block by block. -/
def offers (n : Node) : List (List String) := n.blocks.filterMap Block.options?

/-- At most one block has options, and if options have transition keys, each of them has one. -/
structure Consistent (n : Node) : Prop where
  length_offers : n.offers.length ≤ 1
  keys : n.optionKeys = [] ∨ n.options?.map List.length = some n.optionKeys.length

lemma head?_offers (n : Node) : n.offers.head? = n.options? := by
  rw [offers, List.head?_filterMap, options?]

lemma offers_unanswered (n : Node) : n.unanswered.offers = n.offers := by
  rw [offers, unanswered, List.filterMap_map]
  congr 1
  funext b
  exact b.options?_unanswered

lemma options?_unanswered (n : Node) : n.unanswered.options? = n.options? := by
  rw [← head?_offers, ← head?_offers, offers_unanswered]

/-- Being consistent does not depend on the answers. -/
lemma consistent_unanswered {n : Node} : n.unanswered.Consistent ↔ n.Consistent := by
  constructor
  · rintro ⟨hlength, hkeys⟩
    exact ⟨n.offers_unanswered ▸ hlength, n.options?_unanswered ▸ hkeys⟩
  · rintro ⟨hlength, hkeys⟩
    exact ⟨n.offers_unanswered.symm ▸ hlength, n.options?_unanswered.symm ▸ hkeys⟩

variable {n : Node}

/-- The answers of a consistent node are those of one block, which is its only one with options. -/
lemma Consistent.exists_block (h : n.Consistent) :
    (∀ b ∈ n.blocks, b.options? = none) ∨
      ∃ b ∈ n.blocks, b.options? = n.options? ∧ b.selected = n.selected ∧
        ∀ c ∈ n.blocks, c.options?.isSome → c = b := by
  have hlength := h.length_offers
  cases hoffers : n.offers with
  | nil => exact Or.inl (List.filterMap_eq_nil_iff.1 hoffers)
  | cons options rest =>
    right
    have hrest : rest = [] := by
      rw [hoffers, List.length_cons] at hlength
      exact List.eq_nil_of_length_eq_zero (by omega)
    obtain ⟨front, b, back, hsplit, hfront, hb, hback⟩ := List.filterMap_eq_cons_iff.1 hoffers
    rw [hrest, List.filterMap_eq_nil_iff] at hback
    -- blocks without options hold no answers that count as selected
    have hnil : ∀ l : List Block, (∀ c ∈ l, c.options? = none) → l.flatMap Block.selected = [] := by
      intro l hl
      exact List.flatMap_eq_nil_iff.2 fun c hc => Block.selected_eq_nil_of_options? (hl c hc)
    refine ⟨b, by simp [hsplit], ?_, ?_, ?_⟩
    · rw [← head?_offers, hoffers, hb]
      rfl
    · rw [selected, hsplit, List.flatMap_append, List.flatMap_cons, hnil front hfront,
        hnil back hback, List.nil_append, List.append_nil]
    · intro c hc hsome
      rw [hsplit, List.mem_append, List.mem_cons] at hc
      rcases hc with hc | rfl | hc
      · rw [hfront c hc] at hsome
        exact absurd hsome (by simp)
      · rfl
      · rw [hback c hc] at hsome
        exact absurd hsome (by simp)

end Node

/-! ### Stops -/

namespace Stop

/-- The stop without the answers given so far. -/
def unanswered (s : Stop) : Stop := { s with node := s.node.unanswered }

variable {s : Stop}

lemma unanswered_withMedia (s : Stop) (media : Media) :
    (s.withMedia media).unanswered = s.unanswered.withMedia media := rfl

lemma selected_withMedia (s : Stop) (media : Media) :
    (s.withMedia media).node.selected = s.node.selected := rfl

lemma consistent_withMedia (h : s.node.Consistent) (media : Media) :
    (s.withMedia media).node.Consistent := ⟨h.length_offers, h.keys⟩

/-- The stop with nothing at its node: what is left says where it leads and of what kind it is. -/
def frame (s : Stop) : Stop := { s with node := .ofBlocks [] }

lemma frame_unanswered (s : Stop) : s.unanswered.frame = s.frame := rfl

lemma frame_eq_frame {s' : Stop} (h : s.frame = s'.frame) :
    s.exits = s'.exits ∧ s.kind = s'.kind ∧ s.task = s'.task ∧ s.threshold = s'.threshold := by
  simpa only [frame, Stop.mk.injEq, true_and] using h

end Stop

namespace Presentation

/-- The presentation at another time. -/
def setClock (p : Presentation) (now : Moment) : Presentation := { p with now := now }

lemma media_setClock (p : Presentation) (now : Moment) (decoded : NodeName) :
    (p.setClock now).media decoded = p.media decoded := rfl

end Presentation

namespace Document

variable {d : Document} {p q : Presentation} {name : String}

lemma isSome_stop? : (d.stop? p name).isSome = d.contains name := by
  rw [stop?, Option.isSome_map, contains]

lemma contains_of_stop? {s : Stop} (h : d.stop? p name = some s) : d.contains name = true := by
  rw [← isSome_stop? (p := p), h, Option.isSome_some]

lemma stop?_eq_some {s : Stop} (h : d.stop? p name = some s) :
    ∃ kind e, d.find? name = some (kind, e) ∧
      s = (d.bareStop p (NodeName.decode name) kind e).withMedia
        (p.media (NodeName.decode name)) := by
  obtain ⟨⟨kind, e⟩, hfind, rfl⟩ := Option.map_eq_some_iff.1 h
  exact ⟨kind, e, hfind, rfl⟩

/-- What holds of a stop of each form in two presentations holds of all that is built in them. -/
lemma bareStop_induct {r : Stop → Stop → Prop} (d : Document) (p q : Presentation)
    (decoded : NodeName) (e : Element)
    (final : r (finalStop p) (finalStop q))
    (decision : r (decisionStop p decoded e) (decisionStop q decoded e))
    (task : ∀ task, r (taskStop d p task decoded e) (taskStop d q task decoded e))
    (unknown : r (unknownStop p e) (unknownStop q e)) (kind : NodeKind) :
    r (d.bareStop p decoded kind e) (d.bareStop q decoded kind e) := by
  cases kind with
  | final => exact final
  | decision => exact decision
  | task =>
    simp only [bareStop]
    cases decoded.taskType? with
    | some t => exact task t
    | none => exact unknown

/-- What is read off a stop is the same in two presentations if it is so for all that is built. -/
lemma map_stop?_congr {α : Type} {f : Stop → α}
    (h : ∀ decoded kind e, f ((d.bareStop p decoded kind e).withMedia (p.media decoded)) =
      f ((d.bareStop q decoded kind e).withMedia (q.media decoded))) :
    (d.stop? p name).map f = (d.stop? q name).map f := by
  rw [stop?, stop?, Option.map_map, Option.map_map]
  exact Option.map_congr fun found _ => h _ found.1 found.2

/-! ### Where they lead -/

lemma frame_bareStop (decoded : NodeName) (kind : NodeKind) (e : Element) :
    (d.bareStop p decoded kind e).frame = (d.bareStop q decoded kind e).frame :=
  bareStop_induct (r := fun s s' => s.frame = s'.frame) d p q decoded e rfl rfl (fun _ => rfl) rfl
    kind

/-- Where a stop leads does not depend on how it is presented. -/
lemma frame_stop? : (d.stop? p name).map Stop.frame = (d.stop? q name).map Stop.frame :=
  map_stop?_congr frame_bareStop

/-- A stop that can be built in one presentation can be built in every other, and leads to the same
nodes there. -/
lemma exists_stop? {s : Stop} (h : d.stop? p name = some s) (q : Presentation) :
    ∃ s', d.stop? q name = some s' ∧ s'.frame = s.frame := by
  have hframe : (d.stop? q name).map Stop.frame = (d.stop? p name).map Stop.frame := frame_stop?
  rw [h, Option.map_some] at hframe
  exact Option.map_eq_some_iff.1 hframe

lemma kind_bareStop (decoded : NodeName) (kind : NodeKind) (e : Element) :
    (d.bareStop p decoded kind e).kind = kind := by
  cases kind with
  | final => rfl
  | decision => rfl
  | task =>
    rw [bareStop]
    cases decoded.taskType? <;> rfl

lemma kind_stop? {s : Stop} (h : d.stop? p name = some s) : d.kind? name = some s.kind := by
  obtain ⟨kind, e, hfind, rfl⟩ := stop?_eq_some h
  rw [kind?, hfind, Stop.withMedia, kind_bareStop]
  rfl

lemma isFinal_eq {s : Stop} (h : d.stop? p name = some s) :
    d.isFinal name = (s.kind == .final) := by
  rw [isFinal, kind_stop? h]
  cases s.kind <;> rfl

/-- Nothing leads out of an end state. -/
lemma exits_eq_empty {s : Stop} (h : d.stop? p name = some s) (hkind : s.kind = .final) :
    s.exits = Table.empty := by
  obtain ⟨kind, e, -, rfl⟩ := stop?_eq_some h
  rw [Stop.withMedia, kind_bareStop] at hkind
  subst hkind
  rfl

/-! ### Their nodes -/

lemma consistent_taskNode (task : TaskType) (decoded : NodeName) (labels keys : List String) :
    (taskNode p task decoded labels keys).Consistent := by
  constructor
  · cases task <;> exact Nat.le_of_ble_eq_true rfl
  · cases task with
    | link =>
      right
      have hoptions : (taskNode p .link decoded labels keys).options? = some (keys.map p.say) := rfl
      rw [hoptions, Option.map_some, List.length_map]
      rfl
    | _ => exact Or.inl rfl

lemma consistent_decisionStop (decoded : NodeName) (e : Element) :
    (decisionStop p decoded e).node.Consistent := by
  refine ⟨Nat.le_of_ble_eq_true rfl, Or.inr ?_⟩
  have hoptions : (decisionStop p decoded e).node.options? =
      some ((transitionsOf e).keys.map p.say) := rfl
  rw [hoptions, Option.map_some, List.length_map]
  rfl

lemma consistent_bareStop (decoded : NodeName) (kind : NodeKind) (e : Element) :
    (d.bareStop p decoded kind e).node.Consistent := by
  refine bareStop_induct (r := fun s _ => s.node.Consistent) d p p decoded e ?_
    (consistent_decisionStop decoded e) (fun task => consistent_taskNode task decoded _ _) ?_ kind
  · exact ⟨Nat.zero_le 1, Or.inl rfl⟩
  · exact ⟨Nat.zero_le 1, Or.inl rfl⟩

lemma selected_taskNode (task : TaskType) (decoded : NodeName) (labels keys : List String) :
    (taskNode p task decoded labels keys).selected = [] := by
  cases task <;> rfl

lemma selected_bareStop (decoded : NodeName) (kind : NodeKind) (e : Element) :
    (d.bareStop p decoded kind e).node.selected = [] :=
  bareStop_induct (r := fun s _ => s.node.selected = []) d p p decoded e rfl rfl
    (fun task => selected_taskNode task decoded _ _) rfl kind

lemma consistent_stop? {s : Stop} (h : d.stop? p name = some s) : s.node.Consistent := by
  obtain ⟨kind, e, -, rfl⟩ := stop?_eq_some h
  exact Stop.consistent_withMedia (consistent_bareStop _ kind e) _

/-- Nothing is selected yet at a stop that is built. -/
lemma selected_stop? {s : Stop} (h : d.stop? p name = some s) : s.node.selected = [] := by
  obtain ⟨kind, e, -, rfl⟩ := stop?_eq_some h
  rw [Stop.selected_withMedia, selected_bareStop]

lemma legal_stop? {s : Stop} (h : d.stop? p name = some s) : s.node.Legal :=
  Node.legal_of_selected_eq_nil (selected_stop? h)

/-! ### The clock -/

lemma unanswered_taskNode_setClock (now : Moment) (task : TaskType) (decoded : NodeName)
    (labels keys : List String) :
    (taskNode (p.setClock now) task decoded labels keys).unanswered =
      (taskNode p task decoded labels keys).unanswered := by
  cases task <;> rfl

lemma unanswered_bareStop_setClock (now : Moment) (decoded : NodeName) (kind : NodeKind)
    (e : Element) :
    (d.bareStop (p.setClock now) decoded kind e).unanswered =
      (d.bareStop p decoded kind e).unanswered := by
  refine bareStop_induct (r := fun s s' => s.unanswered = s'.unanswered) d (p.setClock now) p
    decoded e rfl rfl ?_ rfl kind
  intro task
  simp only [taskStop, Stop.unanswered]
  rw [unanswered_taskNode_setClock]

/-- The clock is seen in nothing but the dates that a node starts with. -/
lemma unanswered_stop?_setClock (now : Moment) :
    (d.stop? (p.setClock now) name).map Stop.unanswered =
      (d.stop? p name).map Stop.unanswered := by
  refine map_stop?_congr fun decoded kind e => ?_
  rw [Stop.unanswered_withMedia, Stop.unanswered_withMedia, unanswered_bareStop_setClock,
    Presentation.media_setClock]

end Document

end Walkthrough
