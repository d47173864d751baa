import Mathlib.Data.List.Basic
import Walkthrough.Proofs.Cutting
import Walkthrough.Proofs.OptionRoutes

/-!
# Labels and targets of links

The option of a link is named by its label and by the node that it leads to, with a tilde between
them.  Both may have tildes of their own, so that the name of an option can be cut at several
places, and it is the document that decides: the target is the longest part behind a tilde that is
the name of a node.  The cuts of a name stand in the order of their places, which is that of their
targets from the longest to the shortest.  So the first one that fits has the longest target, and if
none fits, the last one cuts at the last tilde.
-/

namespace Walkthrough

namespace Document

variable {d : Document} {name label target : String}

/-- What a name is cut into at one of its tildes.  The target is the longest part behind a tilde
that the document contains; if it contains none of them, it is the part behind the last tilde. -/
structure Splits (d : Document) (name label target : String) : Prop where
  cut : name = label ++ ("~" ++ target)
  longest :
    (d.contains target = true ∧ ∀ left right, name = left ++ ("~" ++ right) →
      d.contains right = true → right.length ≤ target.length) ∨
    ((∀ left right, name = left ++ ("~" ++ right) → d.contains right = false) ∧
      '~' ∉ target.toList)

/-- The first cut with a target that the document contains has the longest one. -/
lemma splits_of_find? (h : (Text.cuts "~" name).find? (fun cut => d.contains cut.2) =
    some (label, target)) : d.Splits name label target := by
  obtain ⟨hcontains, before, after, hcuts, hbefore⟩ := List.find?_eq_some_iff_append.1 h
  have hpairwise := Text.pairwise_cuts "~" name
  rw [hcuts] at hpairwise
  have hmem : (label, target) ∈ Text.cuts "~" name := by simp [hcuts]
  refine ⟨(Text.mem_cuts (by decide)).1 hmem, Or.inl ⟨hcontains, fun left right hcut hright => ?_⟩⟩
  have hother : (left, right) ∈ Text.cuts "~" name := (Text.mem_cuts (by decide)).2 hcut
  rw [hcuts, List.mem_append, List.mem_cons] at hother
  rcases hother with hother | hother | hother
  · -- cuts further in front have no target in the document
    simpa [hright] using hbefore _ hother
  · obtain ⟨-, rfl⟩ := Prod.mk.inj hother
    exact le_rfl
  · have hafter := (List.pairwise_append.1 hpairwise).2.1
    exact (List.rel_of_pairwise_cons hafter hother).le

/-- If no target is one of the document, the last cut is taken. -/
lemma splits_of_cutLast? (hnone : ∀ cut ∈ Text.cuts "~" name, d.contains cut.2 = false)
    (h : Text.cutLast? "~" name = some (label, target)) : d.Splits name label target := by
  obtain ⟨hcut, hlast⟩ := Text.cutLast?_char_eq_some rfl h
  refine ⟨hcut, Or.inr ⟨fun left right hother => ?_, hlast⟩⟩
  exact hnone (left, right) ((Text.mem_cuts (by decide)).2 hother)

lemma splitLink_eq_self (h : '~' ∉ name.toList) : d.splitLink name = (name, name) := by
  have hnone : Text.cutLast? "~" name = none := (Text.cutLast?_char_eq_none rfl).2 h
  rw [Text.cutLast?, List.getLast?_eq_none_iff] at hnone
  simp [splitLink, hnone]

lemma splits_splitLink (d : Document) (h : '~' ∈ name.toList) :
    d.Splits name (d.splitLink name).1 (d.splitLink name).2 := by
  cases hfind : (Text.cuts "~" name).find? (fun cut => d.contains cut.2) with
  | some cut =>
    have hsplit : d.splitLink name = cut := by simp [splitLink, hfind]
    exact hsplit ▸ splits_of_find? hfind
  | none =>
    cases hlast : Text.cutLast? "~" name with
    | none => exact absurd h ((Text.cutLast?_char_eq_none rfl).1 hlast)
    | some cut =>
      have hsplit : d.splitLink name = cut := by
        rw [Text.cutLast?] at hlast
        simp [splitLink, hfind, hlast]
      exact hsplit ▸ splits_of_cutLast? (by simpa using hfind) hlast

/-- If two ways to cut a name both have the longest target, they are the same. -/
lemma splitLink_append (hcontains : d.contains target = true)
    (hlongest : ∀ left right, label ++ ("~" ++ target) = left ++ ("~" ++ right) →
      d.contains right = true → right.length ≤ target.length) :
    d.splitLink (label ++ ("~" ++ target)) = (label, target) := by
  have hsplits : d.Splits (label ++ ("~" ++ target)) _ _ := d.splits_splitLink (by simp)
  obtain ⟨hfound, hother⟩ | ⟨hnone, -⟩ := hsplits.longest
  · have hlength := le_antisymm (hother label target rfl hcontains)
      (hlongest _ _ hsplits.cut hfound)
    obtain ⟨hleft, hright⟩ := Text.eq_of_cut_eq hsplits.cut hlength
    exact Prod.ext hleft.symm hright.symm
  · rw [hnone label target rfl] at hcontains
    cases hcontains

/-- A name without a tilde is its own label and target.  Every other name is its label, a tilde and
its target, which is the longest part behind a tilde that the document contains or else the part
behind the last tilde.  So an option that is named by a label and a node leads to that node, unless
the tildes let a longer part of it name a node, too; in the table of a link it has the entry of its
label, if it is the last task with that label. -/
theorem splitLink_longest (d : Document) :
    (∀ name, '~' ∉ name.toList → d.splitLink name = (name, name)) ∧
    (∀ name, '~' ∈ name.toList → d.Splits name (d.splitLink name).1 (d.splitLink name).2) ∧
    (∀ label target, d.contains target = true →
      (∀ left right, label ++ ("~" ++ target) = left ++ ("~" ++ right) →
        d.contains right = true → right.length ≤ target.length) →
      d.splitLink (label ++ ("~" ++ target)) = (label, target) ∧
      ∀ p decoded e, d.lastTask? e label = some (label ++ ("~" ++ target)) →
        (taskStop d p .link decoded e).exits.get? label = some target) := by
  refine ⟨fun name => splitLink_eq_self, fun name => d.splits_splitLink,
    fun label target hcontains hlongest => ?_⟩
  have hsplit := splitLink_append hcontains hlongest
  refine ⟨hsplit, fun p decoded e hlast => ?_⟩
  rw [get?_exits_link, hlast, Option.map_some, hsplit]
  rfl

end Document

/-! ### A ferry -/

namespace Ferry

open Errand (element)

/-- A link with an option whose name ends in the names of two nodes, and one that leads nowhere. -/
def quay : Markup.Element :=
  element "task-node" [("name", "link~Where to?")]
    [element "task" [("name", "By~sea~textDisplay~Boat")] [],
      element "task" [("name", "Stay~~")] []]

/-- The quay, and two nodes of which one has the end of the other's name for its own. -/
def document : Document where
  root := element "process-definition" []
    [quay, element "task-node" [("name", "textDisplay~Boat")] [],
      element "end-state" [("name", "Boat")] []]
  root_name := rfl

end Ferry

/-- The boat is reached under the longer of its names, and an option with nothing behind its tildes
is cut at the last of them. -/
theorem Document.splitLink_longest_ferry :
    Ferry.document.splitLink "Boat" = ("Boat", "Boat") ∧
      Ferry.document.Splits "Stay~~" "Stay~" "" ∧
      Ferry.document.splitLink ("By~sea" ++ ("~" ++ "textDisplay~Boat")) =
        ("By~sea", "textDisplay~Boat") ∧
      ∀ p decoded, (taskStop Ferry.document p .link decoded Ferry.quay).exits.get? "By~sea" =
        some "textDisplay~Boat" := by
  obtain ⟨hwhole, hsplits, hleads⟩ := splitLink_longest Ferry.document
  have hlongest : ∀ left right, "By~sea" ++ ("~" ++ "textDisplay~Boat") = left ++ ("~" ++ right) →
      Ferry.document.contains right = true → right.length ≤ "textDisplay~Boat".length := by
    intro left right hcut hright
    have hcuts : ∀ cut ∈ Text.cuts "~" ("By~sea" ++ ("~" ++ "textDisplay~Boat")),
        Ferry.document.contains cut.2 = true → cut.2.length ≤ "textDisplay~Boat".length := by
      decide +kernel
    exact hcuts (left, right) ((Text.mem_cuts (by decide)).2 hcut) hright
  obtain ⟨hsplit, hexits⟩ := hleads "By~sea" "textDisplay~Boat" (by decide +kernel) hlongest
  exact ⟨hwhole "Boat" (by decide), hsplits "Stay~~" (by decide), hsplit,
    fun p decoded => hexits p decoded Ferry.quay (by decide +kernel)⟩

end Walkthrough
