import Mathlib
import Walkthrough.Proofs.FinishedTags
import Walkthrough.Proofs.Truncation

/-!
# How the elements of a text nest

In a text that can be read every end tag has the name of the innermost start tag that is still open,
and every start tag up to the end of the root has its end tag.  Behind the root this is no longer
so: more elements can stand there, and they can be left open.  Main statement: a text that can be
read is laid out in this way, and it is well formed just if nothing with content stands behind its
root and all its tags have their closing bracket.

Three things are kept while the text is read: where in this layout the reader is, that the open
elements have the names of the start tags without end tag, and that the root is missing until its
end tag is read.
-/

namespace Walkthrough.Markup

/-! ### Well-formed texts -/

/-- The name in a start tag. -/
def tagName (content : List Char) : String :=
  String.ofList (content.takeWhile fun c => !isSpace c)

/-- The name in an end tag. -/
def endName (content : List Char) : String := String.ofList (Reading.closedName content)

/-- Tokens without a tag among them. -/
def NoTags (tokens : List Token) : Prop := ∀ token ∈ tokens, token.isTag = false

/-- Tokens without content: comments, instructions and document types. -/
def AllSilent (tokens : List Token) : Prop := ∀ token ∈ tokens, token = .silent

/-- Tokens in which every start tag has an end tag of the same name, each pair inside another or
behind it. -/
inductive Nested : List Token → Prop
  | nil : Nested []
  | data {token : Token} {rest : List Token} (htoken : token.isTag = false) (hrest : Nested rest) :
      Nested (token :: rest)
  | single (content : List Char) {rest : List Token} (hrest : Nested rest) :
      Nested (.single content :: rest)
  | paired {content content' : List Char} {inner rest : List Token}
      (hname : endName content' = tagName content) (hinner : Nested inner) (hrest : Nested rest) :
      Nested (.opening content :: (inner ++ .closing content' :: rest))

/-- The tokens of one element, from its start tag to its end tag. -/
inductive OneElement : List Token → Prop
  | single (content : List Char) : OneElement [.single content]
  | paired {content content' : List Char} {inner : List Token}
      (hname : endName content' = tagName content) (hinner : Nested inner) :
      OneElement (.opening content :: (inner ++ [.closing content']))

/-- Tokens in which every end tag has its start tag.  The start tags that have no end tag are those
with the names given, the last one first. -/
inductive LeavesOpen : List String → List Token → Prop
  | none {tokens : List Token} (h : Nested tokens) : LeavesOpen [] tokens
  | some (content : List Char) {names : List String} {outer inner : List Token}
      (houter : LeavesOpen names outer) (hinner : Nested inner) :
      LeavesOpen (tagName content :: names) (outer ++ .opening content :: inner)

/-- A text with one element at the top, in which every start tag has its end tag and every tag its
closing bracket, and nothing with content behind that element. -/
def WellFormed (s : List Char) : Prop :=
  Token.Finished s ∧ ∃ before element after, Token.scan s = (before ++ element ++ after).map .ok ∧
    NoTags before ∧ OneElement element ∧ AllSilent after

/-- The layout of a text with the root `e`: no tag stands before the tokens that the root is read
from, and behind them every end tag still has its start tag.  Only the last tag of the text can
lack its closing bracket. -/
structure Layout (s : List Char) (e : Element) (before element after : List Token) : Prop where
  scan_eq : Token.scan s = (before ++ element ++ after).map .ok
  noTags_before : NoTags before
  oneElement : OneElement element
  run_element : Reading.start.run (element.map .ok) = .ok ⟨[], some e⟩
  leavesOpen_after : ∃ names, LeavesOpen names after
  finished_or_last : Token.Finished s ∨
    ∃ earlier token, Token.scan s = earlier ++ [.ok token] ∧ token.isTag = true

variable {tokens more inner before before' element element' after after' p : List Token}
  {token : Token} {names names' base : List String} {content : List Char}

lemma NoTags.concat (h : NoTags tokens) (htoken : token.isTag = false) :
    NoTags (tokens ++ [token]) := by
  intro t ht
  rw [List.mem_append, List.mem_singleton] at ht
  rcases ht with ht | rfl
  · exact h t ht
  · exact htoken

lemma AllSilent.noTags (h : AllSilent tokens) : NoTags tokens := by
  intro token htoken
  rw [h token htoken]
  rfl

namespace Nested

lemma append (h : Nested tokens) (hmore : Nested more) : Nested (tokens ++ more) := by
  induction h with
  | nil => exact hmore
  | data htoken _ ih => exact .data htoken ih
  | single content _ ih => exact .single content ih
  | paired hname hinner _ _ ih =>
    rw [List.cons_append, List.append_assoc, List.cons_append]
    exact .paired hname hinner ih

end Nested

namespace LeavesOpen

lemma append (h : LeavesOpen names tokens) (hmore : Nested more) :
    LeavesOpen names (tokens ++ more) := by
  cases h with
  | none h => exact .none (h.append hmore)
  | some content houter hinner =>
    rw [List.append_assoc, List.cons_append]
    exact .some content houter (hinner.append hmore)

/-- An end tag closes the start tag that was left open last. -/
lemma close {content : List Char} (h : LeavesOpen (endName content :: names) tokens) :
    LeavesOpen names (tokens ++ [.closing content]) := by
  generalize hname : endName content = name at h
  cases h with
  | some content' houter hinner =>
    rw [List.append_assoc, List.cons_append]
    exact houter.append (.paired hname hinner .nil)

end LeavesOpen

/-! ### What a token does to the open elements -/

/-- What a token does to the names of the open elements. -/
inductive NameStep : List String → Token → List String → Prop
  | data {token : Token} (names : List String) (htoken : token.isTag = false) :
      NameStep names token names
  | opening (names : List String) (content : List Char) :
      NameStep names (.opening content) (tagName content :: names)
  | single (names : List String) (content : List Char) : NameStep names (.single content) names
  | closing (names : List String) (content : List Char) :
      NameStep (endName content :: names) (.closing content) names

/-- A token opens or closes an element on the tokens so far, or it closes an element that was open
before them. -/
lemma LeavesOpen.step (h : LeavesOpen names tokens)
    (hstep : NameStep (names ++ base) token names') :
    (∃ later, names' = later ++ base ∧ LeavesOpen later (tokens ++ [token])) ∨
      names = [] ∧ ∃ content, token = .closing content ∧ base = endName content :: names' := by
  generalize hnames : names ++ base = all at hstep
  cases hstep with
  | data _ htoken => exact Or.inl ⟨names, hnames.symm, h.append (.data htoken .nil)⟩
  | opening _ content =>
    exact Or.inl ⟨tagName content :: names, by rw [← hnames, List.cons_append],
      .some content h .nil⟩
  | single _ content => exact Or.inl ⟨names, hnames.symm, h.append (.single content .nil)⟩
  | closing _ content =>
    cases names with
    | nil => exact Or.inr ⟨rfl, content, rfl, hnames⟩
    | cons name names =>
      obtain ⟨rfl, hlater⟩ := List.cons.inj hnames
      exact Or.inl ⟨names, hlater.symm, h.close⟩

namespace Reading

variable {r r' r₁ : Reading} {e : Element}

/-- The names of the open elements, innermost first. -/
def openNames (r : Reading) : List String := r.opened.map Element.name

lemma openNames_complete (r : Reading) (e : Element) : (r.complete e).openNames = r.openNames := by
  obtain ⟨opened, root⟩ := r
  cases opened <;> rfl

lemma name_of_ofTag (h : Element.ofTag content = .ok e) : e.name = tagName content := by
  obtain ⟨table, -, rfl⟩ := exists_of_ofTag h
  rfl

lemma openNames_cons (h : Element.ofTag content = .ok e) (r : Reading) :
    openNames ⟨e :: r.opened, r.root⟩ = tagName content :: r.openNames := by
  rw [← name_of_ofTag h]
  rfl

/-- Every token that is read takes such a step, for the name in an end tag is compared with that of
the innermost open element. -/
lemma nameStep_of_step (h : r.step token = .ok r') : NameStep r.openNames token r'.openNames := by
  cases token with
  | silent =>
    obtain rfl := Except.ok.inj h
    exact .data _ rfl
  | opening content =>
    obtain ⟨e, he, rfl⟩ := exists_of_step_opening h
    rw [openNames_cons he]
    exact .opening r.openNames content
  | single content =>
    obtain ⟨e, -, rfl⟩ := exists_of_step_single h
    rw [openNames_complete]
    exact .single r.openNames content
  | closing content =>
    obtain ⟨e, outer, hopened, hname, rfl⟩ := exists_of_step_closing h
    rw [openNames_complete, openNames, hopened, List.map_cons, ← hname]
    exact .closing _ content
  | text raw =>
    obtain ⟨opened, root⟩ := r
    cases opened with
    | nil =>
      obtain rfl := Except.ok.inj h
      exact .data _ rfl
    | cons e outer =>
      simp only [step] at h
      split at h
      · obtain rfl := Except.ok.inj h
        exact .data _ rfl
      · cases h
  | cdata content =>
    obtain ⟨opened, root⟩ := r
    cases opened <;>
    · obtain rfl := Except.ok.inj h
      exact .data _ rfl

lemma root_complete_of_opened (h : (r.complete e).opened ≠ []) : (r.complete e).root = r.root := by
  obtain ⟨opened, root⟩ := r
  cases opened with
  | nil => exact absurd rfl h
  | cons parent outer => rfl

/-- As long as an element is open, the root stays what it is. -/
lemma root_eq_of_step (h : r.step token = .ok r') (hopened : r'.opened ≠ []) :
    r'.root = r.root := by
  have hchange := change_of_step h
  generalize token.completes = completes at hchange
  cases hchange with
  | keep | opening | text => rfl
  | single r e => exact root_complete_of_opened hopened
  | closing e outer root => exact root_complete_of_opened hopened

/-- The end tag of the outermost element completes the root. -/
lemma root_of_closing (h : r.step (.closing content) = .ok r') (hnames : r'.openNames = [])
    (hroot : r.root = none) : ∃ e, r' = ⟨[], some e⟩ := by
  obtain ⟨e, outer, -, -, rfl⟩ := exists_of_step_closing h
  rw [openNames_complete] at hnames
  obtain rfl := List.map_eq_nil_iff.1 hnames
  exact ⟨e, by rw [complete, hroot, Option.none_or]⟩

lemma run_singleton (h : r.step token = .ok r') : r.run [.ok token] = .ok r' := by
  rw [run_cons, h]
  rfl

lemma run_concat (h : r.run (tokens.map .ok) = .ok r₁) (hstep : r₁.step token = .ok r') :
    r.run ((tokens ++ [token]).map .ok) = .ok r' := by
  rw [run] at h
  rw [List.map_append, run, List.foldlM_append, h]
  exact run_singleton hstep

/-! ### Where the reader is -/

/-- The place of the reader behind some tokens: before the root, inside it or behind it. -/
inductive Progress : List Token → Reading → Prop
  | before {tokens : List Token} (h : NoTags tokens) : Progress tokens start
  | inside {before inner : List Token} {content : List Char} {names : List String} {r : Reading}
      (hbefore : NoTags before) (hinner : LeavesOpen names inner)
      (hnames : r.openNames = names ++ [tagName content]) (hroot : r.root = none)
      (hrun : start.run ((.opening content :: inner).map .ok) = .ok r) :
      Progress (before ++ .opening content :: inner) r
  | behind {before element after : List Token} {e : Element} {r : Reading}
      (hbefore : NoTags before) (helement : OneElement element)
      (hread : start.run (element.map .ok) = .ok ⟨[], some e⟩)
      (hafter : LeavesOpen r.openNames after) (hroot : r.root = some e) :
      Progress (before ++ element ++ after) r

namespace Progress

lemma step_before (hbefore : NoTags tokens) (h : start.step token = .ok r) :
    Progress (tokens ++ [token]) r := by
  cases token with
  | silent | text | cdata =>
    obtain rfl := Except.ok.inj h
    exact .before (hbefore.concat rfl)
  | opening content =>
    have hinner : LeavesOpen [] [] := .none .nil
    have hrun := run_singleton h
    obtain ⟨e, he, rfl⟩ := exists_of_step_opening h
    exact .inside hbefore hinner (openNames_cons he start) rfl hrun
  | single content =>
    have hrun := run_singleton h
    obtain ⟨e, -, rfl⟩ := exists_of_step_single h
    rw [← List.append_nil (tokens ++ _)]
    exact .behind hbefore (.single content) hrun (.none .nil) rfl
  | closing content => cases h

lemma step_inside (hbefore : NoTags before) (hinner : LeavesOpen names inner)
    (hnames : r.openNames = names ++ [tagName content]) (hroot : r.root = none)
    (hrun : start.run ((.opening content :: inner).map .ok) = .ok r) (h : r.step token = .ok r') :
    Progress (before ++ .opening content :: inner ++ [token]) r' := by
  have hrun' := run_concat hrun h
  have hnameStep := nameStep_of_step h
  rw [hnames] at hnameStep
  rw [List.append_assoc, List.cons_append]
  rcases hinner.step hnameStep with ⟨later, hlater, hinner'⟩ | ⟨rfl, content', rfl, hbase⟩
  · -- the outermost element is still open, so that the root is still missing
    have hopened : r'.opened ≠ [] := by
      intro hnil
      rw [openNames, hnil] at hlater
      simp at hlater
    exact .inside hbefore hinner' hlater ((root_eq_of_step h hopened).trans hroot) hrun'
  · -- the token is the end tag of the outermost element
    obtain ⟨hname, hnil⟩ := List.cons.inj hbase
    obtain ⟨e, rfl⟩ := root_of_closing h hnil.symm hroot
    cases hinner with
    | none hnested =>
      rw [← List.append_nil (before ++ _)]
      exact .behind hbefore (.paired hname.symm hnested) hrun' (.none .nil) rfl

lemma step_behind (hbefore : NoTags before) (helement : OneElement element)
    (hread : start.run (element.map .ok) = .ok ⟨[], some e⟩) (hafter : LeavesOpen r.openNames after)
    (hroot : r.root = some e) (h : r.step token = .ok r') :
    Progress (before ++ element ++ after ++ [token]) r' := by
  have hnameStep := nameStep_of_step h
  rw [← List.append_nil r.openNames] at hnameStep
  rw [List.append_assoc]
  rcases hafter.step hnameStep with ⟨later, hlater, hafter'⟩ | ⟨-, content', -, hbase⟩
  · rw [List.append_nil] at hlater
    rw [← hlater] at hafter'
    exact .behind hbefore helement hread hafter' ((change_of_step h).root hroot)
  · cases hbase

/-- One more token leaves the reader where it is or takes it to the next of the three places. -/
lemma step (hprogress : Progress tokens r) (h : r.step token = .ok r') :
    Progress (tokens ++ [token]) r' := by
  cases hprogress with
  | before hbefore => exact step_before hbefore h
  | inside hbefore hinner hnames hroot hrun => exact step_inside hbefore hinner hnames hroot hrun h
  | behind hbefore helement hread hafter hroot =>
    exact step_behind hbefore helement hread hafter hroot h

end Progress

lemma progress_of_run (h : start.run (tokens.map .ok) = .ok r) : Progress tokens r := by
  induction tokens using List.reverseRecOn generalizing r with
  | nil =>
    obtain rfl := Except.ok.inj h
    exact .before fun token htoken => absurd htoken List.not_mem_nil
  | append_singleton tokens token ih =>
    rw [List.map_append] at h
    obtain ⟨r₁, htokens, htoken⟩ := exists_of_run_append h
    obtain ⟨r₂, hstep, hnil⟩ := exists_of_run_cons htoken
    obtain rfl := Except.ok.inj hnil
    exact (ih htokens).step hstep

/-- A list of tokens that can be read has no fault in it. -/
lemma exists_map_ok_of_run {tokens : List (Except Error Token)} (h : r.run tokens = .ok r') :
    ∃ faultless : List Token, tokens = faultless.map .ok := by
  induction tokens generalizing r with
  | nil => exact ⟨[], rfl⟩
  | cons first tokens ih =>
    cases first with
    | error cause => cases h
    | ok token =>
      obtain ⟨r₁, -, hrest⟩ := exists_of_run_cons h
      obtain ⟨faultless, rfl⟩ := ih hrest
      exact ⟨token :: faultless, rfl⟩

end Reading

/-! ### One element at the top -/

/-- How many more elements a token opens than it closes. -/
def Token.level : Token → Int
  | opening _ => 1
  | closing _ => -1
  | _ => 0

/-- How many more start tags than end tags there are among some tokens. -/
def depth (tokens : List Token) : Int := (tokens.map Token.level).sum

@[simp] lemma depth_nil : depth [] = 0 := rfl

@[simp] lemma depth_cons (token : Token) (tokens : List Token) :
    depth (token :: tokens) = token.level + depth tokens := by
  rw [depth, List.map_cons, List.sum_cons, depth]

@[simp] lemma depth_append (tokens more : List Token) :
    depth (tokens ++ more) = depth tokens + depth more := by
  rw [depth, List.map_append, List.sum_append, depth, depth]

lemma level_of_isTag (h : token.isTag = false) : token.level = 0 := by
  cases token <;> first | rfl | cases h

lemma NoTags.depth_eq (h : NoTags tokens) : depth tokens = 0 := by
  induction tokens with
  | nil => rfl
  | cons token tokens ih =>
    rw [depth_cons, level_of_isTag (h token List.mem_cons_self),
      ih fun t ht => h t (List.mem_cons_of_mem _ ht), add_zero]

lemma Nested.depth_eq (h : Nested tokens) : depth tokens = 0 := by
  induction h with
  | nil => rfl
  | data htoken _ ih => rw [depth_cons, level_of_isTag htoken, ih, add_zero]
  | single content _ ih => rw [depth_cons, ih]; rfl
  | paired _ _ _ ihinner ihrest =>
    rw [depth_cons, depth_append, depth_cons, ihinner, ihrest]
    rfl

/-- Nested tokens never close more elements than they have opened. -/
lemma Nested.depth_nonneg (h : Nested tokens) (hp : p <+: tokens) : 0 ≤ depth p := by
  induction h generalizing p with
  | nil =>
    rw [List.prefix_nil.1 hp]
    exact le_rfl
  | data htoken _ ih =>
    rcases List.prefix_cons_iff.1 hp with rfl | ⟨p, rfl, htail⟩
    · exact le_rfl
    · rw [depth_cons, level_of_isTag htoken, zero_add]
      exact ih htail
  | single content _ ih =>
    rcases List.prefix_cons_iff.1 hp with rfl | ⟨p, rfl, htail⟩
    · exact le_rfl
    · rw [depth_cons]
      exact add_nonneg le_rfl (ih htail)
  | @paired content content' inner rest _ hinner _ ihinner ihrest =>
    rcases List.prefix_cons_iff.1 hp with rfl | ⟨p, rfl, htail⟩
    · exact le_rfl
    rw [depth_cons]
    rcases List.prefix_or_prefix_of_prefix htail (List.prefix_append inner _) with
      hshort | ⟨q, rfl⟩
    · exact add_nonneg zero_le_one (ihinner hshort)
    · rw [depth_append, hinner.depth_eq, zero_add]
      rw [List.prefix_append_right_inj] at htail
      rcases List.prefix_cons_iff.1 htail with rfl | ⟨q, rfl, hq⟩
      · exact zero_le_one
      · rw [depth_cons, ← add_assoc]
        exact add_nonneg le_rfl (ihrest hq)

namespace OneElement

lemma depth_eq (h : OneElement element) : depth element = 0 := by
  cases h with
  | single content => rfl
  | paired hname hinner => exact (Nested.paired hname hinner .nil).depth_eq

lemma exists_cons (h : OneElement element) :
    ∃ tag rest, element = tag :: rest ∧ tag.isTag = true := by
  cases h with
  | single content => exact ⟨_, _, rfl, rfl⟩
  | paired hname hinner => exact ⟨_, _, rfl, rfl⟩

/-- An element does not end before its last token, for it is open until then. -/
lemma eq_of_prefix (h : OneElement element) (h' : OneElement element') (hp : element <+: element') :
    element = element' := by
  obtain ⟨tag, rest, rfl, -⟩ := h.exists_cons
  cases h' with
  | single content =>
    obtain ⟨rfl, hrest⟩ := List.cons_prefix_cons.1 hp
    rw [List.prefix_nil.1 hrest]
  | paired hname hinner =>
    obtain ⟨rfl, hrest⟩ := List.cons_prefix_cons.1 hp
    rcases List.prefix_concat_iff.1 hrest with rfl | hrest
    · rfl
    · have hdepth := h.depth_eq
      have hopen := hinner.depth_nonneg hrest
      rw [depth_cons, Token.level] at hdepth
      omega

lemma takeWhile_eq (h : OneElement element) (hbefore : NoTags before) (after : List Token) :
    (before ++ element ++ after).takeWhile (fun token => !token.isTag) = before := by
  obtain ⟨tag, rest, rfl, htag⟩ := h.exists_cons
  have hdata : ∀ token ∈ before, (!token.isTag) = true := fun token htoken => by
    rw [hbefore token htoken, Bool.not_false]
  rw [List.append_assoc, List.takeWhile_append_of_pos hdata, List.cons_append,
    List.takeWhile_cons_of_neg (by simp [htag]), List.append_nil]

/-- There is one way only to part tokens into data, an element and what stands behind it. -/
lemma eq_of_append (h : OneElement element) (h' : OneElement element') (hbefore : NoTags before)
    (hbefore' : NoTags before')
    (heq : before ++ element ++ after = before' ++ element' ++ after') :
    element = element' ∧ after = after' := by
  obtain rfl : before = before' := by
    rw [← h.takeWhile_eq hbefore after, heq, h'.takeWhile_eq hbefore']
  rw [List.append_assoc, List.append_assoc, List.append_cancel_left_eq] at heq
  have hprefix : element' <+: element ++ after := heq ▸ List.prefix_append element' after'
  obtain rfl : element = element' := by
    rcases List.prefix_or_prefix_of_prefix (List.prefix_append element after) hprefix with hp | hp
    · exact h.eq_of_prefix h' hp
    · exact (h'.eq_of_prefix h hp).symm
  exact ⟨rfl, List.append_cancel_left heq⟩

end OneElement

/-! ### Texts that can be read -/

variable {s : List Char} {text : String} {e : Element}

/-- A text with the layout of one that can be read is well formed just if the layout has nothing
that a well-formed text does not have. -/
lemma Layout.wellFormed_iff (h : Layout s e before element after) :
    WellFormed s ↔ AllSilent after ∧ Token.Finished s := by
  constructor
  · rintro ⟨hfinished, before', element', after', hscan, hbefore', helement', hafter'⟩
    have htokens : before ++ element ++ after = before' ++ element' ++ after' :=
      (List.map_inj_right fun _ _ => Except.ok.inj).1 (h.scan_eq.symm.trans hscan)
    obtain ⟨-, rfl⟩ :=
      h.oneElement.eq_of_append helement' h.noTags_before hbefore' htokens
    exact ⟨hafter', hfinished⟩
  · rintro ⟨hafter, hfinished⟩
    exact ⟨hfinished, before, element, after, h.scan_eq, h.noTags_before, h.oneElement, hafter⟩

/-- In a text that can be read, no tag stands before the root, every start tag in the root has its
end tag, and the tokens behind the root close only what they open.  The text is well formed just if
nothing with content stands behind the root and every tag has its closing bracket. -/
theorem nesting_of_read (h : read text = .ok e) :
    ∃ before element after, Layout (dropByteOrderMark text.toList) e before element after ∧
      (WellFormed (dropByteOrderMark text.toList) ↔
        AllSilent after ∧ Token.Finished (dropByteOrderMark text.toList)) := by
  obtain ⟨r, hrun, hroot⟩ := exists_run_of_read h
  generalize dropByteOrderMark text.toList = s at hrun
  have hlast : Token.Finished s ∨
      ∃ earlier token, Token.scan s = earlier ++ [.ok token] ∧ token.isTag = true := by
    rcases Token.finished_or_last s with ⟨cause, hcause⟩ | hlast
    · exact absurd hcause (Reading.not_mem_of_run hrun cause)
    · exact hlast
  obtain ⟨tokens, htokens⟩ := Reading.exists_map_ok_of_run hrun
  rw [htokens] at hrun
  cases Reading.progress_of_run hrun with
  | before => cases hroot
  | inside _ _ _ hnone =>
    rw [hnone] at hroot
    cases hroot
  | @behind before element after e' _ hbefore helement hread hafter hroot' =>
    rw [hroot'] at hroot
    obtain rfl := Option.some.inj hroot
    have hlayout : Layout s e' before element after :=
      ⟨htokens, hbefore, helement, hread, ⟨_, hafter⟩, hlast⟩
    exact ⟨before, element, after, hlayout, hlayout.wellFormed_iff⟩

/-- A memo with a comment before it and a start tag behind it. -/
theorem nesting_of_read_memo :
    ∃ e, read "<!-- x --><memo to='Ann'>Hi<br/></memo><p>" = .ok e ∧
      ∃ before element after,
        Layout (dropByteOrderMark "<!-- x --><memo to='Ann'>Hi<br/></memo><p>".toList) e before
          element after ∧
        (WellFormed (dropByteOrderMark "<!-- x --><memo to='Ann'>Hi<br/></memo><p>".toList) ↔
          AllSilent after ∧
            Token.Finished
              (dropByteOrderMark "<!-- x --><memo to='Ann'>Hi<br/></memo><p>".toList)) := by
  have hread : read "<!-- x --><memo to='Ann'>Hi<br/></memo><p>" =
      .ok ⟨"memo", Table.empty.insert "to" "Ann", [⟨"br", Table.empty, [], ""⟩], "Hi"⟩ := by cbv
  exact ⟨_, hread, nesting_of_read hread⟩

/-- A text with a start tag behind its root can be read, and no end tag closes it. -/
theorem not_forall_wellFormed :
    ¬ ∀ (text : String) (e : Element), read text = .ok e →
      WellFormed (dropByteOrderMark text.toList) := by
  intro h
  have hread : read "<a></a><b>" = .ok ⟨"a", Table.empty, [], ""⟩ := by cbv
  have hscan : Token.scan (dropByteOrderMark "<a></a><b>".toList) =
      [Token.opening ['a'], .closing ['a'], .opening ['b']].map .ok := by cbv
  obtain ⟨-, before, element, after, htokens, hbefore, helement, hafter⟩ := h _ _ hread
  rw [hscan] at htokens
  have hsame := (List.map_inj_right fun _ _ => Except.ok.inj).1 htokens
  -- a well-formed text closes as many elements as it opens
  have hdepth := congrArg depth hsame
  rw [depth_append, depth_append, hbefore.depth_eq, helement.depth_eq,
    hafter.noTags.depth_eq] at hdepth
  exact absurd hdepth (by decide)

end Walkthrough.Markup
