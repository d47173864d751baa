import Mathlib.Data.List.Basic
import Walkthrough.Proofs.Choosing
import Walkthrough.Proofs.Tables

/-!
# Where options lead

Links and decisions offer one option for each way out.  The options of a link are the tasks that its
element names, each with a target of its own, and those of a decision are the keys of its
transitions.  An option is looked up under its key, and keys can be repeated, in which case the last
target counts; so the target of an option is read off the document without any table.
-/

namespace Walkthrough

open Markup (Element)

/-! ### What an element declares -/

namespace Document

/-- The key of a transition, which stands for every answer if the transition names none. -/
def keyOf (transition : Element) : String := (transition.attribute? "name").getD anyKey

/-- The target of a transition, which is empty if the transition names none. -/
def targetOf (transition : Element) : String := (transition.attribute? "to").getD ""

/-- The last transition of an element with a key. -/
def lastTransition? (e : Element) (key : String) : Option Element :=
  ((e.childrenNamed "transition").filter fun c => keyOf c == key).getLast?

/-- The last task of an element that a link shows under a label. -/
def lastTask? (d : Document) (e : Element) (label : String) : Option String :=
  ((taskNamesOf e).filter fun name => (d.splitLink name).1 == label).getLast?

variable {d : Document} {p : Presentation} {e : Element} {key label name : String}

lemma transitionsOf_eq (e : Element) :
    transitionsOf e =
      Table.ofList ((e.childrenNamed "transition").map fun c => (keyOf c, targetOf c)) := rfl

lemma keys_transitionsOf (e : Element) :
    (transitionsOf e).keys = ((e.childrenNamed "transition").map keyOf).eraseDups := by
  rw [transitionsOf_eq, Table.keys_ofList, List.map_map]
  rfl

lemma get?_transitionsOf (e : Element) (key : String) :
    (transitionsOf e).get? key = (lastTransition? e key).map targetOf := by
  rw [transitionsOf_eq, Table.get?_ofList, Table.lastPair?, List.filter_map, List.getLast?_map,
    Option.map_map]
  rfl

lemma exists_lastTransition? (h : key ∈ (transitionsOf e).keys) :
    ∃ c, lastTransition? e key = some c := by
  rw [keys_transitionsOf, List.mem_eraseDups, List.mem_map] at h
  obtain ⟨c, hc, rfl⟩ := h
  have hne : (e.childrenNamed "transition").filter (fun c' => keyOf c' == keyOf c) ≠ [] :=
    List.ne_nil_of_mem (List.mem_filter.2 ⟨hc, beq_self_eq_true _⟩)
  exact ⟨_, List.getLast?_eq_some_getLast hne⟩

lemma exists_lastTask? (h : name ∈ taskNamesOf e) :
    ∃ last, d.lastTask? e (d.splitLink name).1 = some last := by
  have hne : (taskNamesOf e).filter
      (fun other => (d.splitLink other).1 == (d.splitLink name).1) ≠ [] :=
    List.ne_nil_of_mem (List.mem_filter.2 ⟨h, beq_self_eq_true _⟩)
  exact ⟨_, List.getLast?_eq_some_getLast hne⟩

/-! ### What the stop there offers -/

/-- The options of a link lead to the targets of its tasks, the last one of a label counting, and
its other ways out are the declared ones. -/
lemma get?_exits_link (d : Document) (p : Presentation) (decoded : NodeName) (e : Element)
    (key : String) :
    (taskStop d p .link decoded e).exits.get? key =
      ((d.lastTask? e key).map fun name => (d.splitLink name).2).or
        ((lastTransition? e key).map targetOf) := by
  have hexits : (taskStop d p .link decoded e).exits =
      (transitionsOf e).insertAll ((taskNamesOf e).map d.splitLink) := rfl
  rw [hexits, Table.get?_insertAll, get?_transitionsOf, Table.lastPair?, List.filter_map,
    List.getLast?_map, Option.map_map]
  rfl

end Document

namespace Walk

variable {t : Tree} {w : Walk} {e : Element} {i : Nat}

/-! ### Choosing a way -/

/-- At a stop whose options have keys of their own, the key of the option that is chosen leads
on. -/
lemma Sound.exists_select (h : w.Sound) (htask : w.stop.task = some .link)
    (hoptions : w.stop.node.optionCount = w.stop.node.optionKeys.length)
    (hi : i < w.stop.node.optionCount) :
    ∃ key v, w.stop.node.optionKeys[i]? = some key ∧ (Action.select i).perform? w = some v ∧
      v.nextName? = w.stop.exits.get? key := by
  obtain ⟨options, hchoice⟩ := h.asks.choice .link htask rfl
  obtain ⟨chosen, hchoice⟩ := Node.exists_choice hchoice
  obtain ⟨n, hselect, hselected, hkeys⟩ := h.consistent.exists_select? hchoice hi
  obtain ⟨key, hkey⟩ : ∃ key, w.stop.node.optionKeys[i]? = some key :=
    ⟨_, List.getElem?_eq_getElem (hoptions ▸ hi)⟩
  refine ⟨key, w.withNode n, hkey, ?_, ?_⟩
  · rw [Action.perform?, answer?, hselect, Option.map_some]
  · have hchosen : n.selectedKey? = some key := by
      rw [Node.selectedKey?, hselected, hkeys, List.head?_cons, Option.bind_some, hkey]
    rw [nextName?, Stop.next?, Stop.key, withNode]
    dsimp only
    rw [htask, transitionKey, hchosen, Option.getD_some]

/-! ### Links and decisions -/

/-- The options of a link: one for each task of its element, in order, under the label of the task,
which is shown in the current language.  An option leads to the target of the last task with its
label, and the transitions of the element whose keys are no labels lead where they did. -/
structure LinkOptions (w : Walk) (e : Element) : Prop where
  shown : w.stop.node.options? =
    some (w.stop.node.optionKeys.map (w.tree.presentation w.now w.language).say)
  keys : w.stop.node.optionKeys =
    (taskNamesOf e).map fun name => (w.tree.document.splitLink name).1
  leads : ∀ i < w.stop.node.optionCount, ∃ name last v, (taskNamesOf e)[i]? = some name ∧
    w.tree.document.lastTask? e (w.tree.document.splitLink name).1 = some last ∧
    (Action.select i).perform? w = some v ∧
    v.nextName? = some (w.tree.document.splitLink last).2
  others : ∀ key ∉ w.stop.node.optionKeys,
    w.stop.exits.get? key = (Document.lastTransition? e key).map Document.targetOf

/-- The options of a decision: one for each key of the transitions of its element, in the order in
which each key comes first, shown in the current language.  An option leads to the target of the
last transition with its key. -/
structure DecisionOptions (w : Walk) (e : Element) : Prop where
  shown : w.stop.node.options? =
    some (w.stop.node.optionKeys.map (w.tree.presentation w.now w.language).say)
  keys : w.stop.node.optionKeys = w.stop.exits.keys
  distinct : w.stop.node.optionKeys.Nodup
  names : w.stop.node.optionKeys =
    ((e.childrenNamed "transition").map Document.keyOf).eraseDups
  leads : ∀ i < w.stop.node.optionCount, ∃ key last v, w.stop.node.optionKeys[i]? = some key ∧
    Document.lastTransition? e key = some last ∧ (Action.select i).perform? w = some v ∧
    v.nextName? = some (Document.targetOf last)

lemma optionCount_of_shown {say : String → String}
    (h : w.stop.node.options? = some (w.stop.node.optionKeys.map say)) :
    w.stop.node.optionCount = w.stop.node.optionKeys.length := by
  rw [Node.optionCount, h, Option.getD_some, List.length_map]

lemma Sound.linkOptions (h : w.Sound) (htask : w.stop.task = some .link) {s : Stop}
    {p : Presentation} {decoded : NodeName} (hp : p = w.tree.presentation w.now w.language)
    (hs : s = taskStop w.tree.document p .link decoded e) (hexits : w.stop.exits = s.exits)
    (hkeys : w.stop.node.optionKeys = s.node.optionKeys)
    (hoptions : w.stop.node.options? = s.node.options?) : w.LinkOptions e := by
  have hnames : w.stop.node.optionKeys =
      (taskNamesOf e).map fun name => (w.tree.document.splitLink name).1 := by
    rw [hkeys, hs]
    exact List.map_map
  have hshown : w.stop.node.options? = some (w.stop.node.optionKeys.map p.say) := by
    rw [hoptions, hkeys, hs]
    rfl
  refine ⟨hp ▸ hshown, hnames, fun i hi => ?_, fun key hkey => ?_⟩
  · obtain ⟨key, v, hkey, hselect, hnext⟩ :=
      h.exists_select htask (optionCount_of_shown hshown) hi
    rw [hnames, List.getElem?_map] at hkey
    obtain ⟨name, hname, rfl⟩ := Option.map_eq_some_iff.1 hkey
    obtain ⟨last, hlast⟩ := Document.exists_lastTask? (d := w.tree.document)
      (List.mem_of_getElem? hname)
    refine ⟨name, last, v, hname, hlast, hselect, ?_⟩
    rw [hnext, hexits, hs, Document.get?_exits_link, hlast]
    rfl
  · have hnone : w.tree.document.lastTask? e key = none := by
      rw [Document.lastTask?, List.getLast?_eq_none_iff, List.filter_eq_nil_iff]
      intro name hname heq
      rw [hnames] at hkey
      exact hkey (List.mem_map.2 ⟨name, hname, eq_of_beq heq⟩)
    rw [hexits, hs, Document.get?_exits_link, hnone]
    rfl

lemma Sound.decisionOptions (h : w.Sound) (htask : w.stop.task = some .link) {s : Stop}
    {p : Presentation} {decoded : NodeName} (hp : p = w.tree.presentation w.now w.language)
    (hs : s = decisionStop p decoded e) (hexits : w.stop.exits = s.exits)
    (hkeys : w.stop.node.optionKeys = s.node.optionKeys)
    (hoptions : w.stop.node.options? = s.node.options?) : w.DecisionOptions e := by
  have hnames : w.stop.node.optionKeys = (transitionsOf e).keys := by
    rw [hkeys, hs]
    rfl
  have htable : w.stop.exits = transitionsOf e := by
    rw [hexits, hs]
    rfl
  have hshown : w.stop.node.options? = some (w.stop.node.optionKeys.map p.say) := by
    rw [hoptions, hkeys, hs]
    rfl
  refine ⟨hp ▸ hshown, ?_, ?_, ?_, fun i hi => ?_⟩
  · rw [hnames, htable]
  · rw [hnames]
    exact (transitionsOf e).nodup_keys
  · rw [hnames, Document.keys_transitionsOf]
  · obtain ⟨key, v, hkey, hselect, hnext⟩ :=
      h.exists_select htask (optionCount_of_shown hshown) hi
    have hmem : key ∈ (transitionsOf e).keys := hnames ▸ List.mem_of_getElem? hkey
    obtain ⟨last, hlast⟩ := Document.exists_lastTransition? hmem
    refine ⟨key, last, v, hkey, hlast, hselect, ?_⟩
    rw [hnext, htable, Document.get?_transitionsOf, hlast]
    rfl

/-- At a link or a decision, in every walk that can be reached, each option can be chosen and leads
where the document says. -/
theorem Reached.option_routes (h : Reached t w)
    (hlink : w.stop.task = some .link ∨ w.stop.kind = .decision) :
    ∃ e, (t.document.find? w.here = some (.task, e) ∧ w.LinkOptions e) ∨
      (t.document.find? w.here = some (.decision, e) ∧ w.DecisionOptions e) := by
  have hsound := h.sound
  obtain ⟨e, s, hfind, hs, htask, hexits, hkeys, hoptions, -⟩ := hsound.exists_bareStop
  rw [h.tree_eq] at hfind
  refine ⟨e, ?_⟩
  cases hkind : w.stop.kind with
  | final =>
    rw [hkind] at hlink hs
    rw [htask, hs] at hlink
    rcases hlink with hlink | hlink <;> cases hlink
  | decision =>
    rw [hkind] at hfind hs
    have hlinked : w.stop.task = some .link := by
      rw [htask, hs]
      rfl
    exact Or.inr ⟨hfind, hsound.decisionOptions hlinked rfl hs hexits hkeys hoptions⟩
  | task =>
    rw [hkind] at hfind hs
    have hlinked : w.stop.task = some .link := by
      rcases hlink with hlink | hlink
      · exact hlink
      · rw [hkind] at hlink
        cases hlink
    have htype := hlinked
    rw [htask, hs, Document.bareStop] at htype
    rw [Document.bareStop] at hs
    split at htype
    · next type hdecoded =>
      obtain rfl : type = .link := Option.some.inj htype
      rw [hdecoded] at hs
      exact Or.inl ⟨hfind, hsound.linkOptions hlinked rfl hs hexits hkeys hoptions⟩
    · cases htype

end Walk

/-! ### A harbor -/

namespace Harbor

open Errand (element)

/-- A link that shows one label twice and another that stands for every answer elsewhere. -/
def quay : Element :=
  element "task-node" [("name", "link~Where to?")]
    [element "task" [("name", "Sea~Done")] [], element "task" [("name", "Any~nowhere")] [],
      element "task" [("name", "Sea~textDisplay~Boat")] [],
      element "transition" [("to", "Done")] [],
      element "transition" [("name", "Rain"), ("to", "Done")] []]

/-- The quay, the boat that leaves from it, and the end. -/
def document : Document where
  root := element "process-definition" []
    [element "start-state" [] [element "transition" [("to", "link~Where to?")] []], quay,
      element "task-node" [("name", "textDisplay~Boat")] [],
      element "end-state" [("name", "Done")] []]
  root_name := rfl

/-- The tree over the harbor, with all else as for the errand. -/
def tree : Tree := { Errand.tree with document := document }

lemma exists_start : ∃ w, Walk.start tree Errand.midnight = .ok w := ⟨_, rfl⟩

end Harbor

/-- The first option leads to the target of the third, which has the same label, and the second does
not lead where everything else would. -/
theorem Walk.option_routes_harbor :
    ∃ w, Walk.start Harbor.tree Errand.midnight = .ok w ∧ w.stop.task = some .link ∧
      w.LinkOptions Harbor.quay ∧
      (((Action.select 0).perform? w).bind Walk.nextName?) = some "textDisplay~Boat" ∧
      (((Action.select 1).perform? w).bind Walk.nextName?) = some "nowhere" ∧
      w.stop.exits.get? "Rain" = some "Done" := by
  obtain ⟨w, hw⟩ := Harbor.exists_start
  have hlink : w.stop.task = some .link := by
    obtain rfl := Except.ok.inj hw
    rfl
  have hfind : Harbor.tree.document.find? w.here = some (.task, Harbor.quay) := by
    obtain rfl := Except.ok.inj hw
    rfl
  obtain ⟨e, ⟨he, hoptions⟩ | ⟨he, -⟩⟩ := (Walk.Reached.start hw).option_routes (Or.inl hlink)
  · obtain ⟨-, rfl⟩ := Prod.mk.inj (Option.some.inj (hfind.symm.trans he))
    refine ⟨w, hw, hlink, hoptions, ?_, ?_, ?_⟩
    all_goals
      obtain rfl := Except.ok.inj hw
      rfl
  · exact absurd (Prod.mk.inj (Option.some.inj (hfind.symm.trans he))).1 (by decide)

end Walkthrough
