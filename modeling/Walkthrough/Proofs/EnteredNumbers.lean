import Mathlib.Data.List.Forall2
import Walkthrough.Proofs.Choosing
import Walkthrough.Proofs.Cutting
import Walkthrough.Proofs.Numerals
import Walkthrough.Proofs.Playing
import Walkthrough.Proofs.Trimming
import Walkthrough.Session.View

/-!
# Numbers that are entered

Options are shown with numbers in front of them, and they are chosen or ticked by entering these
numbers.  Only the number of an option is followed, and a line of several numbers is followed as a
whole or not at all; a line that is not followed leaves the walk as it was.  Numbers may be entered
in any length and with zeros in front.  They are read as counts, which have a bound, but that is no
restriction as long as there are not more options than can be counted.
-/

namespace Walkthrough

open Text (IsNumeralOf countBound)

/-! ### Reading numbers -/

/-- Whether a text is the number of the option of an index.  Options are numbered from one. -/
structure Node.Numbers (n : Node) (part : String) (i : Nat) : Prop where
  lt_optionCount : i < n.optionCount
  numeral : IsNumeralOf part (i + 1)

section Read

variable {n : Node} {part : String} {i : Nat}

lemma optionIndex?_eq_some :
    optionIndex? part = some i ↔ IsNumeralOf part (i + 1) ∧ i + 1 < countBound := by
  rw [← Text.count?_eq_some, optionIndex?]
  split
  · next j hj =>
    rw [hj, Option.some.injEq, Option.some.injEq]
    exact Nat.succ_inj.symm
  · next hzero =>
    constructor
    · rintro ⟨⟩
    · intro hi
      exact absurd hi (hzero i)

/-- The number of an option is read as its index. -/
lemma readOption_eq_ok (hcount : n.optionCount < countBound) :
    readOption n.optionCount part = .ok i ↔ n.Numbers part i := by
  constructor
  · intro h
    rw [readOption] at h
    split at h
    · next index hindex =>
      split_ifs at h with hlt
      obtain rfl := Except.ok.inj h
      exact ⟨hlt, (optionIndex?_eq_some.1 hindex).1⟩
    · cases h
  · rintro ⟨hlt, hnumeral⟩
    have hindex : optionIndex? part = some i := optionIndex?_eq_some.2 ⟨hnumeral, by omega⟩
    rw [readOption, hindex]
    exact if_pos hlt

/-- A text that is the number of no option is told. -/
lemma readOption_eq_error (hcount : n.optionCount < countBound)
    (hpart : ∀ i, ¬n.Numbers part i) :
    readOption n.optionCount part = .error (.unknownOption part) := by
  cases h : readOption n.optionCount part with
  | ok i => exact absurd ((readOption_eq_ok hcount).1 h) (hpart i)
  | error r =>
    rw [readOption] at h
    split at h
    · split_ifs at h
      exact h.symm
    · exact h.symm

/-- Either all parts of a line are numbers of options and are read as their indices, or one of them
is not and is told. -/
lemma mapM_readOption_cases (hcount : n.optionCount < countBound) (parts : List String) :
    (∃ indices, parts.mapM (readOption n.optionCount) = .ok indices ∧
      List.Forall₂ n.Numbers parts indices) ∨
    ∃ part ∈ parts, parts.mapM (readOption n.optionCount) = .error (.unknownOption part) ∧
      ∀ i, ¬n.Numbers part i := by
  induction parts with
  | nil => exact Or.inl ⟨[], rfl, .nil⟩
  | cons part parts ih =>
    rw [List.mapM_cons]
    by_cases hpart : ∃ i, n.Numbers part i
    · obtain ⟨i, hi⟩ := hpart
      rw [(readOption_eq_ok hcount).2 hi]
      rcases ih with ⟨indices, hindices, hnumbers⟩ | ⟨bad, hbad, herror, hnone⟩
      · rw [hindices]
        exact Or.inl ⟨i :: indices, rfl, .cons hi hnumbers⟩
      · rw [herror]
        exact Or.inr ⟨bad, List.mem_cons_of_mem _ hbad, rfl, hnone⟩
    · rw [not_exists] at hpart
      rw [readOption_eq_error hcount hpart]
      exact Or.inr ⟨part, List.mem_cons_self, rfl, hpart⟩

/-- A part is the number of not more than one option. -/
lemma Node.Numbers.rightUnique : Relator.RightUnique n.Numbers := fun _ _ _ h h' =>
  Nat.succ_inj.1 (h.numeral.unique h'.numeral)

lemma Node.Numbers.exists_of_mem {parts : List String} {indices : List Nat}
    (h : List.Forall₂ n.Numbers parts indices) : ∀ part ∈ parts, ∃ i, n.Numbers part i := by
  induction h with
  | nil => simp
  | cons hi _ ih => exact List.forall_mem_cons.2 ⟨⟨_, hi⟩, ih⟩

lemma Node.Numbers.lt_of_mem {parts : List String} {indices : List Nat}
    (h : List.Forall₂ n.Numbers parts indices) : ∀ i ∈ indices, i < n.optionCount := by
  induction h with
  | nil => simp
  | cons hi _ ih => exact List.forall_mem_cons.2 ⟨hi.lt_optionCount, ih⟩

end Read

/-- Whether a line, once trimmed, is no command. -/
def IsAnswer (typed : String) : Prop := typed ≠ "q" ∧ typed ≠ "b" ∧ typed ≠ ""

instance (typed : String) : Decidable (IsAnswer typed) :=
  inferInstanceAs (Decidable (typed ≠ "q" ∧ typed ≠ "b" ∧ typed ≠ ""))

/-! ### The numbers of options -/

lemma Text.trim_toString (n : Nat) : trim (toString n) = toString n :=
  (trimmed_of_forall fun _ hc => isBlank_of_isDigit (isDigit_of_mem_toString n hc)).trim_eq

/-- A number is a part of its own. -/
lemma optionNumbers_toString (n : Nat) : optionNumbers (toString n) = [toString n] := by
  have hpieces : Text.piecesOf (fun c => c == ',' || c == ' ') (toString n).toList =
      [(toString n).toList] := by
    refine Text.piecesOf_eq_singleton fun c hc => ?_
    have hdigit := Text.isDigit_of_mem_toString n hc
    rw [Bool.or_eq_false_iff, beq_eq_false_iff_ne, beq_eq_false_iff_ne]
    constructor
    · rintro rfl
      cases hdigit
    · rintro rfl
      cases hdigit
  have hne : (toString n).isEmpty = false := by
    rw [← Bool.not_eq_true, String.isEmpty_iff, ← String.toList_eq_nil_iff, Nat.toString_eq_repr,
      Nat.toList_repr]
    exact Nat.toDigits_ne_nil
  rw [optionNumbers, hpieces, List.map_singleton, String.ofList_toList, List.filter_singleton, hne]
  rfl

lemma isAnswer_toString (n : Nat) : IsAnswer (toString n) := by
  have hdigits : ∀ c ∈ (toString n).toList, Text.isDigit c = true := fun _ =>
    Text.isDigit_of_mem_toString n
  have hne := optionNumbers_toString n
  generalize toString n = typed at hdigits hne
  refine ⟨?_, ?_, ?_⟩
  · rintro rfl
    exact absurd (hdigits 'q' (by decide)) (by decide)
  · rintro rfl
    exact absurd (hdigits 'b' (by decide)) (by decide)
  · rintro rfl
    simp [optionNumbers, Text.piecesOf] at hne

/-- The mark that a block shows in front of an option. -/
def Block.mark (colored : Bool) (i : Nat) : Block → String
  | choice _ chosen => choiceMark colored (chosen == some i)
  | checks _ ticked => tickMark colored (ticked.contains i)
  | _ => ""

lemma getElem?_optionLines {colored : Bool} {mark : Bool → String} {isMarked : Nat → Bool}
    {options : List String} {i : Nat} {label : String} (h : options[i]? = some label) :
    (optionLines colored mark isMarked options)[i]? = some ("  " ++ mark (isMarked i) ++ " " ++
      Ink.cyan.paint colored (toString (i + 1)) ++ ") " ++ label) := by
  rw [optionLines, List.getElem?_map, List.getElem?_zipIdx, h, Option.map_some, Option.map_some,
    Nat.zero_add]

lemma Block.getElem?_lines {b : Block} {options : List String} {i : Nat} {label : String}
    (hb : b.isSelection = true) (hoptions : b.options? = some options)
    (h : options[i]? = some label) (colored : Bool) :
    (b.lines colored)[i]? = some ("  " ++ b.mark colored i ++ " " ++
      Ink.cyan.paint colored (toString (i + 1)) ++ ") " ++ label) := by
  cases b with
  | choice options' chosen =>
    obtain rfl := Option.some.inj hoptions
    rw [lines, getElem?_optionLines h, mark]
  | checks options' ticked =>
    obtain rfl := Option.some.inj hoptions
    rw [lines, getElem?_optionLines h, mark]
  | _ => cases hb

lemma endLines_append (lines lines' : List String) :
    endLines (lines ++ lines') = endLines lines ++ endLines lines' := by
  rw [endLines, List.map_append, String.join_append]
  rfl

/-! ### What the current stop offers -/

namespace Document

variable {d : Document} {p : Presentation}

/-- Boxes to tick are found at checklists alone. -/
lemma task_of_checks (decoded : NodeName) (kind : NodeKind) (e : Markup.Element)
    (options : List String) (ticked : List Nat)
    (h : Block.checks options ticked ∈ (d.bareStop p decoded kind e).node.blocks) :
    (d.bareStop p decoded kind e).task = some .checklist := by
  revert h
  refine bareStop_induct (r := fun s _ =>
    Block.checks options ticked ∈ s.node.blocks → s.task = some .checklist) d p p decoded e ?_ ?_ ?_
    ?_ kind
  · simp [finalStop, Node.ofBlocks, Presentation.textBlock]
  · simp [decisionStop, Node.ofBlocks, Presentation.textBlock, Presentation.choiceBlock]
  · intro task
    cases task <;>
      simp [taskStop, taskNode, Node.ofBlocks, Presentation.textBlock, Presentation.choiceBlock,
        Presentation.imageBlock, emptyInput]
  · simp [unknownStop, Node.ofBlocks, Presentation.textBlock]

end Document

namespace Walk

variable {zone : Zone} {t : Tree} {w : Walk} {line part : String} {i : Nat}

lemma Sound.exists_checks (h : w.Sound) (htask : w.stop.task = some .checklist) :
    ∃ options ticked, Block.checks options ticked ∈ w.stop.node.blocks := by
  obtain ⟨options, hchecks⟩ := h.asks.checks htask
  obtain ⟨ticked, hchecks⟩ := Node.exists_checks hchecks
  exact ⟨options, ticked, hchecks⟩

lemma Sound.exists_choice (h : w.Sound) (htask : w.stop.task ≠ some .checklist)
    (hselection : w.stop.node.hasSelection = true) :
    ∃ options chosen, Block.choice options chosen ∈ w.stop.node.blocks := by
  obtain ⟨b, hb, hselects⟩ := List.any_eq_true.1 hselection
  cases b with
  | choice options chosen => exact ⟨options, chosen, hb⟩
  | checks options ticked =>
    -- the boxes would be there without their ticks, too
    obtain ⟨e, s, -, hs, hsame, -, -, -, hblocks⟩ := h.exists_bareStop
    have hbare : Block.checks options [] ∈ s.node.unanswered.blocks :=
      hblocks ▸ List.mem_map.2 ⟨_, hb, rfl⟩
    obtain ⟨ticked', hbuilt⟩ := Node.exists_checks hbare
    rw [hs] at hbuilt hsame
    rw [Document.task_of_checks _ _ e options ticked' hbuilt] at hsame
    exact absurd hsame htask
  | _ => cases hselects

/-! ### Following numbers -/

/-- How a checklist takes a line.  It follows the line just if every part of it between commas and
spaces is the number of an option, and else refuses it; then the boxes whose numbers the line has an
odd number of times are ticked or their ticks removed. -/
structure TakesTicks (zone : Zone) (w : Walk) (line : String) : Prop where
  followed : (∃ w', w.enter? zone line = some (w', none)) ↔
    ∀ part ∈ optionNumbers (Text.trim line), ∃ i, w.stop.node.Numbers part i
  refused : (∃ part, w.enter? zone line = some (w, some (.unknownOption part))) ↔
    ¬∀ part ∈ optionNumbers (Text.trim line), ∃ i, w.stop.node.Numbers part i
  ticked : ∀ w', w.enter? zone line = some (w', none) → ∃ n indices, w' = w.withNode n ∧
    List.Forall₂ w.stop.node.Numbers (optionNumbers (Text.trim line)) indices ∧
    n.selected.Pairwise (· < ·) ∧
    n.selected.toFinset = symmDiff w.stop.node.selected.toFinset
      (indices.toFinset.filter fun i => Odd (indices.count i))

/-- How a node with options of which one can be chosen takes a line.  It accepts the line just if it
is the number of an option, and else refuses it; then that option is chosen and the walk goes on, if
it can. -/
structure TakesChoice (zone : Zone) (w : Walk) (line : String) : Prop where
  accepted : (∃ n, w.stop.reply zone (Text.trim line) = .answer n) ↔
    ∃ i, w.stop.node.Numbers (Text.trim line) i
  refused : (¬∃ i, w.stop.node.Numbers (Text.trim line) i) →
    w.enter? zone line = some (w, some (.unknownOption (Text.trim line)))
  chosen : ∀ i, w.stop.node.Numbers (Text.trim line) i →
    ∃ n, n.selected = [i] ∧ w.enter? zone line = some (w.withNode n).proceed

lemma reply_eq_answerReply (zone : Zone) (s : Stop) {typed : String} (h : IsAnswer typed) :
    s.reply zone typed = s.answerReply zone typed := by
  rw [Stop.reply_eq, if_neg h.1, if_neg h.2.1, if_neg h.2.2]

lemma Sound.takesTicks (h : w.Sound) (hcount : w.stop.node.optionCount < countBound)
    (htask : w.stop.task = some .checklist) (hline : IsAnswer (Text.trim line)) :
    w.TakesTicks zone line := by
  obtain ⟨options, ticked, hchecks⟩ := h.exists_checks htask
  have hascending := h.consistent.ascending_selected h.legal
  have hreply : w.stop.reply zone (Text.trim line) = w.stop.node.tickReply (Text.trim line) := by
    rw [reply_eq_answerReply zone _ hline, Stop.answerReply, if_pos htask]
  rw [Node.tickReply, ← Node.optionCount] at hreply
  rcases mapM_readOption_cases hcount (optionNumbers (Text.trim line)) with
    ⟨indices, hindices, hnumbers⟩ | ⟨part, hpart, herror, hnone⟩
  · rw [hindices] at hreply
    have henter : w.enter? zone line = some (w.withNode (w.stop.node.toggleAll indices), none) := by
      rw [enter?, hreply]
    have hall := Node.Numbers.exists_of_mem hnumbers
    refine ⟨⟨fun _ => hall, fun _ => ⟨_, henter⟩⟩, ⟨?_, fun hbad => absurd hall hbad⟩, ?_⟩
    · rintro ⟨part, hrefuse⟩
      rw [henter, Option.some.injEq, Prod.mk.injEq] at hrefuse
      cases hrefuse.2
    · intro w' hw'
      rw [henter, Option.some.injEq, Prod.mk.injEq] at hw'
      refine ⟨_, indices, hw'.1.symm, hnumbers, ?_⟩
      rw [h.consistent.selected_toggleAll hchecks (Node.Numbers.lt_of_mem hnumbers)]
      exact ⟨Ascending.pairwise_toggleEach hascending indices,
        Ascending.toFinset_toggleEach hascending indices⟩
  · rw [herror] at hreply
    have henter : w.enter? zone line = some (w, some (.unknownOption part)) := by
      rw [enter?, hreply]
    have hbad : ¬∀ part ∈ optionNumbers (Text.trim line), ∃ i, w.stop.node.Numbers part i := by
      intro hall
      obtain ⟨i, hi⟩ := hall part hpart
      exact hnone i hi
    refine ⟨⟨?_, fun hall => absurd hall hbad⟩, ⟨fun _ => hbad, fun _ => ⟨part, henter⟩⟩, ?_⟩
    · rintro ⟨w', hw'⟩
      rw [henter] at hw'
      cases hw'
    · intro w' hw'
      rw [henter] at hw'
      cases hw'

lemma Sound.takesChoice (h : w.Sound) (hcount : w.stop.node.optionCount < countBound)
    (htask : w.stop.task ≠ some .checklist) (hselection : w.stop.node.hasSelection = true)
    (hline : IsAnswer (Text.trim line)) : w.TakesChoice zone line := by
  obtain ⟨options, chosen, hchoice⟩ := h.exists_choice htask hselection
  have hreply : w.stop.reply zone (Text.trim line) = w.stop.node.chooseReply (Text.trim line) := by
    rw [reply_eq_answerReply zone _ hline, Stop.answerReply, if_neg htask, if_pos hselection]
  rw [Node.chooseReply] at hreply
  by_cases hnumber : ∃ i, w.stop.node.Numbers (Text.trim line) i
  · obtain ⟨i, hi⟩ := hnumber
    obtain ⟨n, hselect, hselected, -⟩ := h.consistent.exists_select? hchoice hi.lt_optionCount
    have hindex : optionIndex? (Text.trim line) = some i :=
      optionIndex?_eq_some.2 ⟨hi.numeral, lt_of_le_of_lt hi.lt_optionCount hcount⟩
    rw [hindex, Option.bind_some, hselect] at hreply
    refine ⟨⟨fun _ => ⟨i, hi⟩, fun _ => ⟨n, hreply⟩⟩, fun hnone => absurd ⟨i, hi⟩ hnone, ?_⟩
    intro j hj
    obtain rfl := Node.Numbers.rightUnique hi hj
    refine ⟨n, hselected, ?_⟩
    rw [enter?, hreply]
  · have hnone : ((optionIndex? (Text.trim line)).bind fun i => w.stop.node.select? i) = none := by
      rw [Option.bind_eq_none_iff]
      intro i hi
      refine h.consistent.select?_eq_none hchoice (Nat.not_lt.1 fun hlt => hnumber ⟨i, hlt, ?_⟩)
      exact (optionIndex?_eq_some.1 hi).1
    rw [hnone] at hreply
    refine ⟨⟨?_, fun hsome => absurd hsome hnumber⟩, fun _ => ?_,
      fun i hi => absurd ⟨i, hi⟩ hnumber⟩
    · rintro ⟨n, hn⟩
      rw [hreply] at hn
      cases hn
    · rw [enter?, hreply]

/-- A line that is not followed leaves the walk as it was, unless it is an answer that is taken and
with which the walk cannot go on. -/
lemma eq_of_enter?_eq_some {w' : Walk} {r : Refusal} (h : w.enter? zone line = some (w', some r)) :
    w' = w ∨ ∃ n, w.stop.reply zone (Text.trim line) = .answer n ∧ w' = w.withNode n := by
  have hproceed : ∀ v : Walk, v.proceed = (w', some r) → w' = v := by
    intro v hv
    rcases v.proceed_cases with ⟨refusal, hstay⟩ | ⟨further, -, hmove⟩
    · rw [hstay, Prod.mk.injEq] at hv
      exact hv.1.symm
    · rw [hmove, Prod.mk.injEq] at hv
      cases hv.2
  rw [enter?] at h
  cases hreply : w.stop.reply zone (Text.trim line) with
  | quit =>
    rw [hreply] at h
    cases h
  | back =>
    rw [hreply] at h
    cases hprevious : w.previous? with
    | some earlier =>
      rw [hprevious] at h
      cases h
    | none =>
      rw [hprevious, Option.some.injEq, Prod.mk.injEq] at h
      exact Or.inl h.1.symm
  | onward =>
    rw [hreply] at h
    exact Or.inl (hproceed w (Option.some.inj h))
  | answer n =>
    rw [hreply] at h
    exact Or.inr ⟨n, rfl, hproceed _ (Option.some.inj h)⟩
  | tick n =>
    rw [hreply] at h
    cases h
  | refuse r' =>
    rw [hreply, Option.some.injEq, Prod.mk.injEq] at h
    exact Or.inl h.1.symm

/-! ### Numbers that are shown -/

/-- The number that is shown in front of the option of an index, and what happens if it is
entered. -/
structure ShowsNumber (zone : Zone) (w : Walk) (i : Nat) : Prop where
  shown : ∃ b ∈ w.stop.node.blocks, ∃ label, (w.stop.node.options?.getD [])[i]? = some label ∧
    ∀ colored, (∃ before after, w.view colored = before ++ endLines (b.lines colored) ++ after) ∧
      (b.lines colored)[i]? = some ("  " ++ b.mark colored i ++ " " ++
        Ink.cyan.paint colored (toString (i + 1)) ++ ") " ++ label)
  numbers : w.stop.node.Numbers (toString (i + 1)) i
  ticked : w.stop.task = some .checklist → ∃ n,
    n.selected = Ascending.toggle i w.stop.node.selected ∧
    w.enter? zone (toString (i + 1)) = some (w.withNode n, none)
  chosen : w.stop.task ≠ some .checklist → ∃ n, n.selected = [i] ∧
    w.enter? zone (toString (i + 1)) = some (w.withNode n).proceed

lemma exists_view {b : Block} (hb : b ∈ w.stop.node.blocks) (colored : Bool) :
    ∃ before after, w.view colored = before ++ endLines (b.lines colored) ++ after := by
  obtain ⟨front, back, hblocks⟩ := List.append_of_mem hb
  rw [view, hblocks, List.flatMap_append, List.flatMap_cons, ← List.cons_append,
    List.append_assoc, List.append_assoc, List.append_assoc, List.append_assoc, endLines_append,
    endLines_append, ← String.append_assoc]
  exact ⟨_, _, rfl⟩

lemma Sound.showsNumber (h : w.Sound) (hcount : w.stop.node.optionCount < countBound)
    (hselection : w.stop.node.hasSelection = true) (hi : i < w.stop.node.optionCount) :
    w.ShowsNumber zone i := by
  have hnumbers : w.stop.node.Numbers (toString (i + 1)) i := ⟨hi, Text.isNumeralOf_toString _⟩
  have htrim := Text.trim_toString (i + 1)
  have hanswer := isAnswer_toString (i + 1)
  constructor
  · obtain ⟨b, hb, hselects⟩ := List.any_eq_true.1 hselection
    obtain ⟨options, hoptions⟩ : ∃ options, b.options? = some options := by
      cases b <;> first | exact ⟨_, rfl⟩ | cases hselects
    obtain ⟨front, back, hoffers⟩ := h.consistent.exists_offers hb (hoptions ▸ rfl)
    rw [hoffers.optionCount_eq hoptions] at hi
    have hlabel : options[i]? = some options[i] := List.getElem?_eq_getElem hi
    refine ⟨b, hb, options[i], ?_, fun colored => ⟨exists_view hb colored, ?_⟩⟩
    · rw [hoffers.options?_eq hoptions, Option.getD_some, hlabel]
    · exact Block.getElem?_lines hselects hoptions hlabel colored
  · exact hnumbers
  · intro htask
    obtain ⟨options, ticked, hchecks⟩ := h.exists_checks htask
    have hread : (optionNumbers (toString (i + 1))).mapM (readOption w.stop.node.optionCount) =
        .ok [i] := by
      rw [optionNumbers_toString, List.mapM_cons, (readOption_eq_ok hcount).2 hnumbers,
        List.mapM_nil]
      rfl
    refine ⟨w.stop.node.toggleAll [i], ?_, ?_⟩
    · refine h.consistent.selected_toggleAll hchecks fun j hj => ?_
      obtain rfl := List.mem_singleton.1 hj
      exact hi
    · rw [enter?, htrim, reply_eq_answerReply zone _ hanswer, Stop.answerReply, if_pos htask,
        Node.tickReply, ← Node.optionCount, hread]
  · intro htask
    have htakes : w.TakesChoice zone (toString (i + 1)) :=
      h.takesChoice hcount htask hselection (htrim.symm ▸ hanswer)
    exact htakes.chosen i (htrim.symm ▸ hnumbers)

/-- In every walk that can be reached, a line that is refused leaves the walk as it was, and the
numbers of options are followed as they should be, those of a checklist together and that of a
choice alone.  Numbers of options are counts, so it is assumed that there are not more options than
can be counted; a list that fits into memory always has fewer. -/
theorem Reached.numbers_entered (h : Reached t w) (zone : Zone)
    (hcount : w.stop.node.optionCount < countBound) :
    (∀ line r, w.stop.reply zone (Text.trim line) = .refuse r →
      w.enter? zone line = some (w, some r)) ∧
    (∀ line w' r, w.enter? zone line = some (w', some r) →
      w' = w ∨ ∃ n, w.stop.reply zone (Text.trim line) = .answer n ∧ w' = w.withNode n) ∧
    (∀ line, IsAnswer (Text.trim line) → w.stop.task = some .checklist → w.TakesTicks zone line) ∧
    (∀ line, IsAnswer (Text.trim line) → w.stop.task ≠ some .checklist →
      w.stop.node.hasSelection = true → w.TakesChoice zone line) ∧
    (w.stop.node.hasSelection = true → ∀ i < w.stop.node.optionCount, w.ShowsNumber zone i) := by
  have hsound := h.sound
  refine ⟨fun line r hreply => ?_, fun line w' r => eq_of_enter?_eq_some,
    fun line hline htask => hsound.takesTicks hcount htask hline,
    fun line hline htask hselection => hsound.takesChoice hcount htask hselection hline,
    fun hselection i hi => hsound.showsNumber hcount hselection hi⟩
  rw [enter?, hreply]

end Walk

/-! ### A shopping list -/

namespace Shopping

open Errand (element)

/-- Three things to buy, and no fewer than two of them. -/
def document : Document where
  root := element "process-definition" []
    [element "start-state" [] [element "transition" [("to", "checkList~2~What to buy?")] []],
      element "task-node" [("name", "checkList~2~What to buy?")]
        [element "task" [("name", "Bread~Home")] [], element "task" [("name", "Milk~Home")] [],
          element "task" [("name", "Salt~Home")] []]]
  root_name := rfl

/-- The tree over the shopping list, with all else as for the errand. -/
def tree : Tree := { Errand.tree with document := document }

lemma exists_start : ∃ w, Walk.start tree Errand.midnight = .ok w ∧
    w.stop.task = some .checklist ∧ w.stop.node.optionCount = 3 ∧ w.stop.node.selected = [] := by
  have hstop : (Walk.start tree Errand.midnight).toOption.map (fun w =>
      (w.stop.task, w.stop.node.optionCount, w.stop.node.selected)) =
        some (some .checklist, 3, []) := by decide +kernel
  obtain ⟨w, hw, hstop⟩ := Walk.exists_start_of_map hstop
  simp only [Prod.mk.injEq] at hstop
  exact ⟨w, hw, hstop⟩

/-- The four numbers in a line that is entered. -/
lemma forall₂_numbers {n : Node} (h : n.optionCount = 3) :
    List.Forall₂ n.Numbers (optionNumbers (Text.trim " 3 1,+03 2\t")) [2, 0, 2, 1] := by
  have hparts : optionNumbers (Text.trim " 3 1,+03 2\t") = ["3", "1", "+03", "2"] := by decide
  have hnumbers : ∀ i < 3, ∀ part, Text.natural? (Text.dropPlus part.toList) = some (i + 1) →
      n.Numbers part i := fun i hi part hpart => ⟨h ▸ hi, Text.isNumeralOf_iff.2 hpart⟩
  rw [hparts]
  refine .cons (hnumbers 2 ?_ "3" ?_) (.cons (hnumbers 0 ?_ "1" ?_)
    (.cons (hnumbers 2 ?_ "+03" ?_) (.cons (hnumbers 1 ?_ "2" ?_) .nil))) <;> decide

end Shopping

/-- On the shopping list, a line is followed in which a number stands twice and another is written
with a sign and zeros, and one is not in which the last number is too great; at the crossing the
second way is chosen under the number that is shown there. -/
theorem Walk.numbers_entered_shopping :
    ∃ w v, Walk.start Shopping.tree Errand.midnight = .ok w ∧
      Walk.start Errand.tree Errand.midnight = .ok v ∧
      (∃ n, w.enter? .universal " 3 1,+03 2\t" = some (w.withNode n, none) ∧
        n.selected.toFinset = {0, 1}) ∧
      (∃ part, w.enter? .universal "1 2,4" = some (w, some (.unknownOption part))) ∧
      v.ShowsNumber .universal 1 := by
  obtain ⟨w, hw, htask, hwcount, hnothing⟩ := Shopping.exists_start
  obtain ⟨v, hv⟩ := Errand.exists_start
  have hvcount : v.stop.node.optionCount = 2 := by
    obtain rfl := Except.ok.inj hv
    rfl
  obtain ⟨-, -, hticks, -, -⟩ := (Reached.start hw).numbers_entered .universal (hwcount ▸ by decide)
  obtain ⟨-, -, -, -, hshows⟩ := (Reached.start hv).numbers_entered .universal (hvcount ▸ by decide)
  refine ⟨w, v, hw, hv, ?_, ?_, ?_⟩
  · have hline : IsAnswer (Text.trim " 3 1,+03 2\t") := by decide
    have hnumbers := Shopping.forall₂_numbers hwcount
    have htakes := hticks _ hline htask
    obtain ⟨w', hw'⟩ := htakes.followed.2 (Node.Numbers.exists_of_mem hnumbers)
    obtain ⟨n, indices, rfl, hindices, -, hselected⟩ := htakes.ticked w' hw'
    obtain rfl := Node.Numbers.rightUnique.forall₂ hindices hnumbers
    refine ⟨n, hw', ?_⟩
    rw [hselected, hnothing]
    decide
  · have hline : IsAnswer (Text.trim "1 2,4") := by decide
    refine (hticks _ hline htask).refused.2 fun hall => ?_
    obtain ⟨i, hi⟩ := hall "4" (by decide)
    have hlt := hi.lt_optionCount
    have hfour := hi.numeral.unique (Text.isNumeralOf_toString 4)
    omega
  · refine hshows ?_ 1 (hvcount ▸ by decide)
    obtain rfl := Except.ok.inj hv
    rfl

end Walkthrough
