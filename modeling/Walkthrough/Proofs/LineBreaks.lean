import Mathlib.Data.List.Infix
import Walkthrough.Proofs.Building
import Walkthrough.Proofs.Numerals
import Walkthrough.Proofs.Reached

/-!
# Line breaks in shown texts

A text of a document has marks where its lines break, and no mark may be shown.  A text is a chain
of parts that are free of marks, with marks between them, and it is shown with line breaks in their
places.  A mark has no line break in it, so that none can arise where two parts meet.  All texts of
a stop are said by the presentation of the tree, translated first and broken into lines after that;
nothing but the number of an item is put in front of them.
-/

namespace Walkthrough

open Markup (Element)

/-- The mark for a line break in a text. -/
def lineMark : String := "\x7bbr\x7d"

/-- Whether no mark for a line break stands in a text. -/
def Unmarked (s : String) : Prop := ¬ lineMark.toList <:+: s.toList

/-! ### Where a word stands -/

section Infix

variable {c : Char} {w u v : List Char}

lemma prefix_of_prefix_append_cons (hc : c ∉ w) (h : w <+: u ++ c :: v) : w <+: u := by
  have hfront : u ++ [c] <+: u ++ c :: v := ⟨v, by simp⟩
  rcases List.prefix_or_prefix_of_prefix h hfront with hw | hw
  · rcases List.prefix_concat_iff.1 hw with rfl | hu
    · exact absurd (by simp) hc
    · exact hu
  · exact absurd (hw.subset (by simp)) hc

/-- A word stands before or behind a character that it does not have. -/
lemma infix_of_infix_append_cons (hc : c ∉ w) (h : w <:+: u ++ c :: v) : w <:+: u ∨ w <:+: v := by
  induction u with
  | nil =>
    rcases List.infix_cons_iff.1 h with hfront | hv
    · exact Or.inl (prefix_of_prefix_append_cons (u := []) hc hfront).isInfix
    · exact Or.inr hv
  | cons d u ih =>
    rcases List.infix_cons_iff.1 h with hfront | hlater
    · exact Or.inl (prefix_of_prefix_append_cons (u := d :: u) hc hfront).isInfix
    · exact (ih hlater).imp_left fun hu => List.infix_cons_iff.2 (Or.inr hu)

/-- A word stands behind characters among which it does not begin. -/
lemma infix_of_infix_append (hc : c ∉ u) (h : c :: w <:+: u ++ v) : c :: w <:+: v := by
  induction u with
  | nil => exact h
  | cons d u ih =>
    rw [List.mem_cons, not_or] at hc
    rcases List.infix_cons_iff.1 h with hfront | hlater
    · exact absurd (List.cons_prefix_cons.1 hfront).1 hc.1
    · exact ih hc.2 hlater

end Infix

/-! ### Breaking lines -/

lemma not_prefix_of_forall_ne {s : List Char} {c : Char}
    (h : ∀ rest, c = '\x7b' → s = 'b' :: 'r' :: '\x7d' :: rest → False) :
    ¬ lineMark.toList <+: c :: s := by
  rintro ⟨rest, hrest⟩
  obtain ⟨rfl, rfl⟩ := List.cons.inj hrest
  exact h rest rfl rfl

/-- The parts of a text between the marks are its lines.  The induction is on the places where a
mark is looked for: where none stands, the next character belongs to the part that follows. -/
lemma exists_parts (s : List Char) :
    ∃ part parts, (∀ u ∈ part :: parts, ¬ lineMark.toList <:+: u) ∧
      s = lineMark.toList.intercalate (part :: parts) ∧
      breakLinesOf s = ['\n'].intercalate (part :: parts) := by
  fun_induction breakLinesOf s with
  | case1 s ih =>
    obtain ⟨part, parts, hfree, hs, hlines⟩ := ih
    refine ⟨[], part :: parts, List.forall_mem_cons.2 ⟨by decide, hfree⟩, ?_, ?_⟩
    · rw [List.intercalate_cons_cons, ← hs]
      rfl
    · rw [List.intercalate_cons_cons, ← hlines]
      rfl
  | case2 c s hmark ih =>
    obtain ⟨part, parts, hfree, hs, hlines⟩ := ih
    obtain ⟨hpart, hparts⟩ := List.forall_mem_cons.1 hfree
    refine ⟨c :: part, parts, List.forall_mem_cons.2 ⟨?_, hparts⟩, ?_, ?_⟩
    · intro hword
      rcases List.infix_cons_iff.1 hword with hfront | hlater
      · have hpart' : part <+: s := by
          rw [hs]
          cases parts <;> simp
        exact not_prefix_of_forall_ne hmark
          (hfront.trans (List.cons_prefix_cons.2 ⟨rfl, hpart'⟩))
      · exact hpart hlater
    · rw [List.intercalate_cons_cons_left, ← hs]
    · rw [List.intercalate_cons_cons_left, ← hlines]
  | case3 => exact ⟨[], [], by decide, rfl, rfl⟩

/-- No mark stands in a chain of lines, for none has a line break in it. -/
lemma not_infix_intercalate {parts : List (List Char)}
    (h : ∀ u ∈ parts, ¬ lineMark.toList <:+: u) :
    ¬ lineMark.toList <:+: ['\n'].intercalate parts := by
  induction parts with
  | nil => decide
  | cons part parts ih =>
    obtain ⟨hpart, hparts⟩ := List.forall_mem_cons.1 h
    cases parts with
    | nil => simpa using hpart
    | cons next parts =>
      rw [List.intercalate_cons_cons, List.append_assoc, List.singleton_append]
      intro hword
      rcases infix_of_infix_append_cons (by decide) hword with hfirst | hlater
      · exact hpart hfirst
      · exact ih hparts hlater

lemma unmarked_breakLines (s : String) : Unmarked (breakLines s) := by
  obtain ⟨part, parts, hfree, -, hlines⟩ := exists_parts s.toList
  rw [Unmarked, breakLines, String.toList_ofList, hlines]
  exact not_infix_intercalate hfree

lemma breakLinesOf_of_not_infix {s : List Char} (h : ¬ lineMark.toList <:+: s) :
    breakLinesOf s = s := by
  fun_induction breakLinesOf s with
  | case1 s ih => exact absurd (List.prefix_append lineMark.toList s).isInfix h
  | case2 c s hmark ih => rw [ih fun hlater => h (List.infix_cons_iff.2 (Or.inr hlater))]
  | case3 => rfl

lemma breakLines_of_unmarked {s : String} (h : Unmarked s) : breakLines s = s := by
  rw [breakLines, breakLinesOf_of_not_infix h, String.ofList_toList]

/-- A text is a chain of unmarked parts with marks between them, and of the same parts with line
breaks between them once its lines are broken. -/
lemma exists_unmarked_parts (s : String) :
    ∃ parts, parts ≠ [] ∧ (∀ part ∈ parts, Unmarked part) ∧ s = lineMark.intercalate parts ∧
      breakLines s = "\n".intercalate parts := by
  obtain ⟨part, parts, hfree, hs, hlines⟩ := exists_parts s.toList
  have hlists : String.toList ∘ String.ofList = id := funext fun _ => String.toList_ofList
  refine ⟨(part :: parts).map String.ofList, by simp, ?_, ?_, ?_⟩
  · rw [List.forall_mem_map]
    intro u hu
    rw [Unmarked, String.toList_ofList]
    exact hfree u hu
  · rw [← String.toList_inj, String.toList_intercalate, List.map_map, hlists, List.map_id, hs]
  · rw [← String.toList_inj, String.toList_intercalate, List.map_map, hlists, List.map_id,
      breakLines, String.toList_ofList, hlines]
    rfl

/-! ### What a stop says -/

/-- The texts that the block shows: the one that it displays, the items that it lists or offers, and
the unit of its input. -/
def Block.words : Block → List String
  | text t => [t]
  | list items => items
  | choice options _ => options
  | checks options _ => options
  | input _ _ unit _ => unit.toList
  | image _ _ => []
  | date _ => []

/-- The texts that the blocks of the node show. -/
def Node.words (n : Node) : List String := n.blocks.flatMap Block.words

lemma Stop.words_withMedia (s : Stop) (media : Media) :
    (s.withMedia media).node.words = s.node.words := rfl

namespace Presentation

variable (p : Presentation)

/-- The texts that the presentation makes of those of a document: each as it is said, or as it is
said with the number of an item in front. -/
inductive Says : String → Prop
  | text (text : String) : Says (p.say text)
  | item (i : Nat) (text : String) : Says (toString (i + 1) ++ ") " ++ p.say text)

/-- Whether the presentation says all that the block shows. -/
def Voices (b : Block) : Prop := ∀ w ∈ b.words, p.Says w

lemma voices_textBlock (text : String) : p.Voices (p.textBlock text) :=
  List.forall_mem_singleton.2 (.text text)

lemma voices_imageBlock (name : NodeName) : p.Voices (p.imageBlock name) := nofun

lemma says_map (labels : List String) : ∀ w ∈ labels.map p.say, p.Says w :=
  List.forall_mem_map.2 fun label _ => .text label

lemma voices_choiceBlock (labels : List String) : p.Voices (p.choiceBlock labels) :=
  p.says_map labels

lemma voices_checks (labels : List String) : p.Voices (.checks (labels.map p.say) []) :=
  p.says_map labels

lemma voices_list (labels : List String) : p.Voices (.list (numbered (labels.map p.say))) := by
  refine List.forall_mem_map.2 ?_
  rintro ⟨item, i⟩ hitem
  obtain ⟨label, -, rfl⟩ := List.mem_map.1 (List.fst_mem_of_mem_zipIdx hitem)
  exact .item i label

lemma voices_emptyInput (mode : LineMode) (numeric : Bool) :
    p.Voices (emptyInput mode none numeric) := nofun

lemma voices_unit (mode : LineMode) (unit : String) (numeric : Bool) :
    p.Voices (emptyInput mode (some (p.say unit)) numeric) :=
  List.forall_mem_singleton.2 (.text unit)

lemma voices_date (value : Option Moment) : p.Voices (.date value) := nofun

lemma voices_taskNode (task : TaskType) (name : NodeName) (labels keys : List String) :
    ∀ b ∈ (taskNode p task name labels keys).blocks, p.Voices b := by
  cases task <;>
    simp [taskNode, Node.ofBlocks, voices_textBlock, voices_imageBlock, voices_choiceBlock,
      voices_checks, voices_list, voices_emptyInput, voices_unit, voices_date]

end Presentation

namespace Document

variable {d : Document} {p : Presentation} {name : String} {s : Stop}

lemma voices_bareStop (decoded : NodeName) (kind : NodeKind) (e : Element) :
    ∀ b ∈ (d.bareStop p decoded kind e).node.blocks, p.Voices b := by
  refine bareStop_induct (r := fun s _ => ∀ b ∈ s.node.blocks, p.Voices b) d p p decoded e ?_ ?_
    (fun task => p.voices_taskNode task decoded _ _) ?_ kind
  · exact List.forall_mem_singleton.2 (p.voices_textBlock _)
  · exact List.forall_mem_cons.2
      ⟨p.voices_textBlock _, List.forall_mem_singleton.2 (p.voices_choiceBlock _)⟩
  · exact List.forall_mem_singleton.2 (p.voices_textBlock _)

/-- All that a stop shows is said by the presentation in which it is built. -/
lemma says_stop? (h : d.stop? p name = some s) : ∀ w ∈ s.node.words, p.Says w := by
  obtain ⟨kind, e, -, rfl⟩ := stop?_eq_some h
  rw [Stop.words_withMedia]
  exact List.forall_mem_flatMap.2 (voices_bareStop _ kind e)

end Document

namespace Tree

/-- The number of an item makes no mark of the text behind it. -/
lemma unmarked_of_says {t : Tree} {now : Moment} {language w : String}
    (h : (t.presentation now language).Says w) : Unmarked w := by
  cases h with
  | text text => exact unmarked_breakLines _
  | item i text =>
    have hdigits : '\x7b' ∉ (toString (i + 1)).toList := fun h =>
      absurd (Text.isDigit_of_mem_toString (i + 1) h) (by decide)
    have hnumber : '\x7b' ∉ (toString (i + 1) ++ ") ").toList := by
      rw [String.toList_append, List.mem_append, not_or]
      exact ⟨hdigits, by decide⟩
    intro hword
    rw [String.toList_append] at hword
    exact unmarked_breakLines _ (infix_of_infix_append hnumber hword)

/-- Breaking the lines of a text puts line breaks in the places of the marks between its unmarked
parts, so that no mark is left or made, and nothing is left to be done.  No text, option, item or
unit of a stop has a mark, whatever the document, its translations and the text for its end are. -/
theorem unmarked_words :
    (∀ s, (∃ parts, parts ≠ [] ∧ (∀ part ∈ parts, Unmarked part) ∧
        s = lineMark.intercalate parts ∧ breakLines s = "\n".intercalate parts) ∧
      Unmarked (breakLines s) ∧ breakLines (breakLines s) = breakLines s) ∧
    ∀ (t : Tree) (now : Moment) (language name : String) (stop : Stop),
      t.stop? now language name = some stop → ∀ w ∈ stop.node.words, Unmarked w := by
  refine ⟨fun s => ⟨exists_unmarked_parts s, unmarked_breakLines s,
    breakLines_of_unmarked (unmarked_breakLines s)⟩, ?_⟩
  intro t now language name stop hstop w hw
  exact unmarked_of_says (Document.says_stop? hstop w hw)

end Tree

/-! ### A market -/

namespace Market

open Errand (element)

/-- A stall whose name and goods have line breaks. -/
def document : Document where
  root := element "process-definition" []
    [element "task-node" [("name", "Fruits\x7bbr\x7dhere")]
      [element "task" [("name", "Red\x7bbr\x7dapple~1")] [], element "task" [("name", "Pear")] []]]
  root_name := rfl

/-- The market in Tagalog, where the wording of the pear has a mark inside what looks like one. -/
def tree : Tree :=
  { Errand.tree with
    document := document
    phrases := (Phrasebook.none "English").insert "Tagalog" <| Table.ofList
      [("Fruits\x7bbr\x7dhere", "Prutas\x7bbr\x7ddito"), ("Pear", "\x7bb\x7bbr\x7dr\x7d")] }

end Market

theorem Tree.unmarked_words_market :
    ∃ stop, Market.tree.stop? Errand.midnight "Tagalog" "Fruits\x7bbr\x7dhere" = some stop ∧
      stop.node.words = ["Prutas\ndito", "1) Red\napple", "2) \x7bb\nr\x7d"] ∧
      ∀ w ∈ stop.node.words, Unmarked w := by
  have hwords : (Market.tree.stop? Errand.midnight "Tagalog" "Fruits\x7bbr\x7dhere").map
      (fun stop => stop.node.words) =
        some ["Prutas\ndito", "1) Red\napple", "2) \x7bb\nr\x7d"] := by
    decide +kernel
  obtain ⟨stop, hstop, hshown⟩ := Option.map_eq_some_iff.1 hwords
  exact ⟨stop, hstop, hshown, unmarked_words.2 _ _ _ _ stop hstop⟩

end Walkthrough
