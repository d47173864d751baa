import Mathlib.Data.List.Nodup
import Walkthrough.Proofs.Attributes
import Walkthrough.Proofs.Escaping
import Walkthrough.Proofs.Tokens

/-!
# Reading what was written

An element can be written in many ways: with blanks and comments around the elements in it, with
either quote around a value, with one tag or with two if there is nothing in it.  `Written` says
which texts are written forms of a list of elements.  Main statement: reading a written form of an
element gives this element back, with the order of its attributes and of its children and with its
text.

The proof reads a written form in front of any other text and in any state.  The elements of the
form are then complete one after another, wherever they stand, and the rest is still to be read.
-/

namespace Walkthrough

namespace Markup

/-! ### Written forms -/

/-- The characters of a name that has no meaning in mark-up. -/
def isNameChar (c : Char) : Bool :=
  !isSpace c && !(['<', '>', '/', '=', '"', '\'', '!', '?', '&'].contains c)

/-- A name of an element or a key of an attribute. -/
structure IsName (s : String) : Prop where
  ne_nil : s.toList ≠ []
  chars : ∀ c ∈ s.toList, isNameChar c = true

/-- An element that has written forms: it and everything in it goes by names, and no text in it
starts or ends with a blank. -/
inductive Element.Plain : Element → Prop
  | intro {e : Element} (name : IsName e.name) (keys : ∀ key ∈ e.attributes.keys, IsName key)
      (text : Text.Trimmed isSpace e.text.toList) (children : ∀ child ∈ e.children, child.Plain) :
      e.Plain

/-- The attributes in a tag.  Blanks stand before each, and may stand around the equals sign and at
the end.  The value is escaped and stands between quotes of either sort. -/
inductive AttributesWritten : List (String × String) → List Char → Prop
  | nil {gap : List Char} (hgap : IsGap gap) : AttributesWritten [] gap
  | cons {key value : String} {entries : List (String × String)} {quote : Char}
      {gap before after s : List Char} (hne : gap ≠ []) (hgap : IsGap gap) (hbefore : IsGap before)
      (hafter : IsGap after) (hquote : quote = '"' ∨ quote = '\'')
      (h : AttributesWritten entries s) :
      AttributesWritten ((key, value) :: entries)
        (gap ++ (key.toList ++ (before ++ '=' ::
          (after ++ quote :: (escape value.toList ++ quote :: s)))))

/-- The written forms of a list of elements.  Blanks and comments stand anywhere between the
elements.  An element is written with a start tag, its escaped text, the elements in it and an end
tag, or with a single tag if it has neither text nor elements in it. -/
inductive Written : List Element → List Char → Prop
  | nil : Written [] []
  | blank {es : List Element} {s : List Char} {c : Char} (hc : isSpace c = true)
      (h : Written es s) : Written es (c :: s)
  | comment {es : List Element} {s content : List Char} (hcontent : ¬ ['-', '-'] <:+: content)
      (h : Written es s) :
      Written es ('<' :: '!' :: '-' :: '-' :: (content ++ '-' :: '-' :: '>' :: s))
  | single {e : Element} {es : List Element} {attributes s : List Char} (htext : e.text = "")
      (hchildren : e.children = [])
      (hattributes : AttributesWritten e.attributes.entries attributes) (h : Written es s) :
      Written (e :: es) ('<' :: (e.name.toList ++ (attributes ++ '/' :: '>' :: s)))
  | paired {e : Element} {es : List Element} {attributes body gap s : List Char}
      (hattributes : AttributesWritten e.attributes.entries attributes)
      (hbody : Written e.children body) (hgap : IsGap gap) (h : Written es s) :
      Written (e :: es) ('<' :: (e.name.toList ++ (attributes ++ '>' ::
        (escape e.text.toList ++ (body ++ '<' :: '/' :: (e.name.toList ++ (gap ++ '>' :: s)))))))

/-! ### Names and blanks -/

lemma isSpace_of_isNameChar {c : Char} (h : isNameChar c = true) : isSpace c = false := by
  rw [isNameChar, Bool.and_eq_true, Bool.not_eq_true'] at h
  exact h.1

lemma ne_of_isNameChar {c d : Char} (h : isNameChar c = true) (hd : isNameChar d = false) :
    c ≠ d := by
  rintro rfl
  rw [h] at hd
  cases hd

lemma isKeyChar_of_isNameChar {c : Char} (h : isNameChar c = true) : isKeyChar c = true := by
  have hequals : c ≠ '=' := ne_of_isNameChar h (by decide)
  simp [isKeyChar, hequals, isSpace_of_isNameChar h]

lemma isName_of_all {s : String} (hne : s.toList ≠ []) (h : s.toList.all isNameChar = true) :
    IsName s := ⟨hne, List.all_eq_true.1 h⟩

lemma IsName.exists_cons {s : String} (h : IsName s) :
    ∃ c t, s.toList = c :: t ∧ isNameChar c = true ∧ ∀ d ∈ t, isNameChar d = true := by
  obtain ⟨c, t, hs⟩ := List.exists_cons_of_ne_nil h.ne_nil
  have hchars := h.chars
  rw [hs, List.forall_mem_cons] at hchars
  exact ⟨c, t, hs, hchars.1, hchars.2⟩

/-! ### Attributes -/

section Attributes

variable {key value : String} {quote : Char} {gap before after s : List Char}
  {entries : List (String × String)}

lemma leads_written (hkey : IsName key) (hgap : IsGap gap) (hbefore : IsGap before)
    (hafter : IsGap after) (hquote : quote = '"' ∨ quote = '\'') (position : Nat) (value : String)
    (s : List Char) :
    RawAttribute.Leads ⟨key.toList, position, escape value.toList, s⟩
      (gap ++ (key.toList ++ (before ++ '=' ::
        (after ++ quote :: (escape value.toList ++ quote :: s))))) := by
  obtain ⟨c, t, hs, hc, ht⟩ := hkey.exists_cons
  have hmark : isMark quote = true := by rcases hquote with rfl | rfl <;> decide
  rw [hs]
  exact .intro hgap (isSpace_of_isNameChar hc) (fun d hd => isKeyChar_of_isNameChar (ht d hd))
    hbefore hafter hquote (not_mem_escape hmark)

/-- Written attributes are read into a table that goes on with them. -/
lemma attributesFrom_written (h : AttributesWritten entries s)
    (hkeys : ∀ entry ∈ entries, IsName entry.1) (total : Nat) {seen : List (List Char × Nat)}
    {table : Table String} (hseen : AreKeys seen table)
    (hnodup : (table.keys ++ entries.map Prod.fst).Nodup) :
    ∃ table', attributesFrom total seen table s = .ok table' ∧
      table'.entries = table.entries ++ entries := by
  induction h generalizing seen table with
  | nil hgap => exact ⟨table, attributesFrom_of_gap hgap, (List.append_nil _).symm⟩
  | @cons key value entries quote gap before after s hne hgap hbefore hafter hquote h ih =>
    rw [List.forall_mem_cons] at hkeys
    rw [List.map_cons] at hnodup
    have hnew : key ∉ table.keys := by
      intro hmem
      exact (List.nodup_append.1 hnodup).2.2 key hmem key List.mem_cons_self rfl
    have hunseen : key.toList ∉ seen.map Prod.fst := by
      rw [hseen, List.mem_map]
      rintro ⟨key', hmem, hsame⟩
      exact hnew (String.toList_inj.1 hsame ▸ hmem)
    obtain ⟨position, hnext⟩ :=
      (leads_written hkeys.1 hgap hbefore hafter hquote 0 value s).next? hunseen total
    have hstep : attributesFrom total seen table _ = _ :=
      attributesFrom_of_some hnext (unescape_escape value.toList)
    have hseen' := hseen.insert hunseen position value
    simp only [String.ofList_toList] at hstep hseen'
    obtain ⟨table', htable', hresult⟩ := ih hkeys.2 hseen'
      (by rw [Table.keys_insert hnew, List.append_assoc]; exact hnodup)
    refine ⟨table', hstep.trans htable', ?_⟩
    rw [hresult, Table.entries_insert hnew, List.append_assoc]
    rfl

lemma isSpace_head?_written (h : AttributesWritten entries s) :
    ∀ c ∈ s.head?, isSpace c = true := by
  cases h with
  | nil hgap => exact fun c hc => hgap c (List.mem_of_mem_head? hc)
  | cons hne hgap =>
    intro c hc
    rw [List.head?_append_of_ne_nil _ hne] at hc
    exact hgap c (List.mem_of_mem_head? hc)

end Attributes

/-! ### Tags -/

section Tags

open Token (quoteAfter)

variable {u v s attributes : List Char} {entries : List (String × String)}

/-- A stretch of a tag that neither ends it nor leaves a quote open. -/
structure IsClosed (u : List Char) : Prop where
  no_bracket : '>' ∉ u
  quotes : u.foldl quoteAfter none = none

lemma IsClosed.append (hu : IsClosed u) (hv : IsClosed v) : IsClosed (u ++ v) := by
  refine ⟨?_, ?_⟩
  · rw [List.mem_append, not_or]
    exact ⟨hu.no_bracket, hv.no_bracket⟩
  · rw [List.foldl_append, hu.quotes, hv.quotes]

lemma IsClosed.tagContent (h : IsClosed u) (s : List Char) :
    Token.tagContent none (u ++ '>' :: s) = (u, s) :=
  Token.tagContent_closed h.no_bracket h.quotes s

lemma isClosed_of_forall (h : ∀ c ∈ u, c ≠ '>' ∧ c ≠ '"' ∧ c ≠ '\'') : IsClosed u := by
  refine ⟨fun hmem => (h _ hmem).1 rfl, ?_⟩
  induction u with
  | nil => rfl
  | cons c u ih =>
    rw [List.forall_mem_cons] at h
    obtain ⟨⟨-, hquot, hapos⟩, hu⟩ := h
    have hnone : quoteAfter none c = none := by simp [quoteAfter, hquot, hapos]
    rw [List.foldl_cons, hnone, ih hu]

lemma isClosed_gap (h : IsGap u) : IsClosed u := by
  refine isClosed_of_forall fun c hc => ?_
  have hspace := h c hc
  refine ⟨?_, ?_, ?_⟩ <;> rintro rfl <;> exact absurd hspace (by decide)

lemma isClosed_name {name : String} (h : IsName name) : IsClosed name.toList := by
  refine isClosed_of_forall fun c hc => ?_
  have hchar := h.chars c hc
  exact ⟨ne_of_isNameChar hchar (by decide), ne_of_isNameChar hchar (by decide),
    ne_of_isNameChar hchar (by decide)⟩

lemma foldl_quoteAfter_some {quote : Char} (h : quote ∉ u) :
    u.foldl quoteAfter (some quote) = some quote := by
  induction u with
  | nil => rfl
  | cons c u ih =>
    rw [List.mem_cons, not_or] at h
    have hopen : quoteAfter (some quote) c = some quote := if_neg (Ne.symm h.1)
    rw [List.foldl_cons, hopen, ih h.2]

/-- A value between quotes closes the quote that it opens. -/
lemma isClosed_value {quote : Char} (hquote : quote = '"' ∨ quote = '\'') (value : List Char) :
    IsClosed (quote :: (escape value ++ [quote])) := by
  have hmark : isMark quote = true := by rcases hquote with rfl | rfl <;> decide
  have hbracket : '>' ≠ quote := by rcases hquote with rfl | rfl <;> decide
  refine ⟨?_, ?_⟩
  · simp only [List.mem_cons, List.mem_append, List.not_mem_nil, or_false, hbracket, false_or]
    exact not_mem_escape rfl
  · have hopen : quoteAfter none quote = some quote := if_pos hquote
    rw [List.foldl_cons, hopen, List.foldl_append, foldl_quoteAfter_some (not_mem_escape hmark)]
    exact if_pos rfl

lemma isClosed_attributes (h : AttributesWritten entries attributes)
    (hkeys : ∀ entry ∈ entries, IsName entry.1) : IsClosed attributes := by
  induction h with
  | nil hgap => exact isClosed_gap hgap
  | @cons key value entries quote gap before after s hne hgap hbefore hafter hquote h ih =>
    rw [List.forall_mem_cons] at hkeys
    have hequals : IsClosed ['='] := isClosed_of_forall (by simp)
    have hwhole := (isClosed_gap hgap).append <| (isClosed_name hkeys.1).append <|
      (isClosed_gap hbefore).append <| hequals.append <| (isClosed_gap hafter).append <|
      (isClosed_value hquote value.toList).append (ih hkeys.2)
    simpa using hwhole

/-- Attributes end in a quote or in a blank. -/
lemma last_attributes (h : AttributesWritten entries attributes) :
    ∀ c ∈ attributes.getLast?, c ≠ '/' := by
  induction h with
  | nil hgap =>
    rintro c hc rfl
    exact absurd (hgap _ (List.mem_of_getLast? hc)) (by decide)
  | @cons key value entries quote gap before after s hne hgap hbefore hafter hquote h ih =>
    intro c hc
    have hend : (quote :: s).getLast? = some c := by
      simpa [List.getLast?_append, List.getLast?_cons] using hc
    rw [List.getLast?_cons] at hend
    cases hs : s.getLast? with
    | none =>
      rw [hs] at hend
      obtain rfl := Option.some.inj hend
      rcases hquote with h | h <;> rw [Option.getD_none, h] <;> decide
    | some d =>
      rw [hs] at hend
      obtain rfl := Option.some.inj hend
      exact ih d hs

end Tags

/-! ### Elements -/

variable {e : Element} {es : List Element} {s attributes : List Char}

/-- The element that the tag of an element opens: it has nothing in it yet. -/
def Element.front (e : Element) : Element := ⟨e.name, e.attributes, [], ""⟩

namespace Element.Plain

lemma isName (h : e.Plain) : IsName e.name := by
  cases h with | intro name => exact name

lemma keys_entries (h : e.Plain) : ∀ entry ∈ e.attributes.entries, IsName entry.1 := by
  cases h with
  | intro name keys => exact fun entry hentry => keys entry.1 (List.mem_map_of_mem hentry)

lemma trimmed_text (h : e.Plain) : Text.Trimmed isSpace e.text.toList := by
  cases h with | intro name keys text => exact text

lemma children (h : e.Plain) : ∀ child ∈ e.children, child.Plain := by
  cases h with | intro name keys text children => exact children

end Element.Plain

lemma ofTag_written (he : e.Plain) (h : AttributesWritten e.attributes.entries attributes) :
    Element.ofTag (e.name.toList ++ attributes) = .ok e.front := by
  have hname : ∀ c ∈ e.name.toList, (!isSpace c) = true := by
    intro c hc
    rw [isSpace_of_isNameChar (he.isName.chars c hc)]
    rfl
  have hstop : ∀ c ∈ attributes.head?, (!isSpace c) = false := by
    intro c hc
    rw [isSpace_head?_written h c hc]
    rfl
  obtain ⟨table, htable, hentries⟩ := attributesFrom_written h he.keys_entries
    (byteLength (e.name.toList ++ attributes)) areKeys_empty
    e.attributes.nodup_keys
  obtain rfl : table = e.attributes := Table.eq_of_entries hentries
  rw [Element.ofTag, Text.takeWhile_append_stop hname hstop,
    Text.dropWhile_append_stop hname hstop, htable, String.ofList_toList]
  rfl

lemma last_tag (he : e.Plain) (h : AttributesWritten e.attributes.entries attributes) :
    ∀ c ∈ (e.name.toList ++ attributes).getLast?, c ≠ '/' := by
  intro c hc
  rw [List.getLast?_append] at hc
  cases hlast : attributes.getLast? with
  | none =>
    rw [hlast, Option.none_or] at hc
    exact ne_of_isNameChar (he.isName.chars c (List.mem_of_getLast? hc)) (by decide)
  | some d =>
    rw [hlast, Option.some_or, Option.mem_some_iff] at hc
    exact hc ▸ last_attributes h d hlast

lemma isClosed_tag (he : e.Plain) (h : AttributesWritten e.attributes.entries attributes) :
    IsClosed (e.name.toList ++ attributes) :=
  (isClosed_name he.isName).append (isClosed_attributes h he.keys_entries)

/-- A bracket and the name of an element start a tag. -/
lemma next?_name {name : String} (hname : IsName name) (s : List Char) :
    Token.next? ('<' :: (name.toList ++ s)) = .ok (some (Token.tag (name.toList ++ s))) := by
  obtain ⟨c, t, ht, hc, -⟩ := hname.exists_cons
  rw [Token.next?_bracket, ht, List.cons_append]
  exact Token.markup?_eq_tag ⟨ne_of_isNameChar hc (by decide), ne_of_isNameChar hc (by decide),
    ne_of_isNameChar hc (by decide)⟩ _

lemma next?_single (he : e.Plain) (h : AttributesWritten e.attributes.entries attributes)
    (s : List Char) : Token.next? ('<' :: (e.name.toList ++ (attributes ++ '/' :: '>' :: s))) =
      .ok (some (.single (e.name.toList ++ attributes), s)) := by
  have hclosed : IsClosed (e.name.toList ++ attributes) := isClosed_tag he h
  have hslash : IsClosed ['/'] := isClosed_of_forall (by simp)
  have hcontent := (hclosed.append hslash).tagContent s
  rw [List.append_assoc, List.singleton_append] at hcontent
  rw [next?_name he.isName, ← List.append_assoc, Token.tag_eq, hcontent, Token.ofContent_slash]

lemma next?_opening (he : e.Plain) (h : AttributesWritten e.attributes.entries attributes)
    (s : List Char) : Token.next? ('<' :: (e.name.toList ++ (attributes ++ '>' :: s))) =
      .ok (some (.opening (e.name.toList ++ attributes), s)) := by
  rw [next?_name he.isName, ← List.append_assoc, Token.tag_eq, (isClosed_tag he h).tagContent s,
    Token.ofContent_of_last (last_tag he h)]

/-- A written form in front of a bracket is blanks and then a bracket. -/
lemma Written.exists_gap (h : Written es s) (rest : List Char) :
    ∃ gap s', s ++ '<' :: rest = gap ++ '<' :: s' ∧ IsGap gap := by
  induction h with
  | nil => exact ⟨[], rest, rfl, by simp [IsGap]⟩
  | @blank _ s c hc h ih =>
    obtain ⟨gap, s', hs, hgap⟩ := ih
    refine ⟨c :: gap, s', ?_, List.forall_mem_cons.2 ⟨hc, hgap⟩⟩
    rw [List.cons_append, hs, List.cons_append]
  | comment => exact ⟨[], _, rfl, by simp [IsGap]⟩
  | single => exact ⟨[], _, rfl, by simp [IsGap]⟩
  | paired => exact ⟨[], _, rfl, by simp [IsGap]⟩

/-! ### Reading -/

namespace Reading

variable {r : Reading} {outer : List Element} {root : Option Element}

lemma readOn_of_space {c : Char} (hc : isSpace c = true) (s : List Char) :
    r.readOn (c :: s) = r.readOn s := by
  rw [readOn, readOn, Token.scan_of_space hc]

lemma readOn_gap {gap : List Char} (hgap : IsGap gap) (s : List Char) :
    r.readOn (gap ++ s) = r.readOn s := by
  induction gap with
  | nil => rfl
  | cons c gap ih =>
    rw [IsGap, List.forall_mem_cons] at hgap
    rw [List.cons_append, readOn_of_space hgap.1, ih hgap.2]

lemma readOn_of_silent {rest : List Char} (h : Token.next? s = .ok (some (.silent, rest))) :
    r.readOn s = r.readOn rest := readOn_of_step h rfl

lemma foldl_complete_cons (p : Element) (es : List Element) :
    es.foldl complete ⟨p :: outer, root⟩ =
      ⟨{ p with children := p.children ++ es } :: outer, root⟩ := by
  induction es generalizing p with
  | nil => cases p; simp
  | cons e es ih =>
    have hstep : complete ⟨p :: outer, root⟩ e = ⟨p.addChild e :: outer, root⟩ := rfl
    rw [List.foldl_cons, hstep, ih]
    simp [Element.addChild]

/-- An element is filled with its text and with the elements in it. -/
lemma foldl_complete_front (e : Element) :
    e.children.foldl complete ⟨e.front.addText e.text :: outer, root⟩ = ⟨e :: outer, root⟩ := by
  rw [foldl_complete_cons]
  cases e
  simp [Element.front, Element.addText]

lemma closedName_name {name : String} (hname : IsName name) {gap : List Char} (hgap : IsGap gap) :
    closedName (name.toList ++ gap) = name.toList := by
  have hmem : ∀ c ∈ name.toList, isSpace c = false := fun c hc =>
    isSpace_of_isNameChar (hname.chars c hc)
  have hnot : ¬ (name.toList ++ gap).all isSpace = true := by
    obtain ⟨c, hc⟩ := List.exists_mem_of_ne_nil _ hname.ne_nil
    intro hall
    have hspace := List.all_eq_true.1 hall c (List.mem_append_left _ hc)
    rw [hmem c hc] at hspace
    cases hspace
  rw [closedName, if_neg hnot,
    Text.dropEndWhile_append (fun c hc => hmem c (List.mem_of_getLast? hc)) hgap]

/-- The end tag of the innermost open element completes it. -/
lemma readOn_closing (hname : IsName e.name) {gap : List Char} (hgap : IsGap gap)
    (s : List Char) :
    readOn ⟨e :: outer, root⟩ ('<' :: '/' :: (e.name.toList ++ (gap ++ '>' :: s))) =
      (complete ⟨outer, root⟩ e).readOn s := by
  have hbracket : '>' ∉ e.name.toList ++ gap := by
    rw [List.mem_append, not_or]
    exact ⟨(isClosed_name hname).no_bracket, (isClosed_gap hgap).no_bracket⟩
  have hclosed : String.ofList (closedName (e.name.toList ++ gap)) = e.name := by
    rw [closedName_name hname hgap, String.ofList_toList]
  rw [← List.append_assoc]
  refine readOn_of_step (Token.next?_closing hbracket s) ?_
  simp only [step, hclosed, if_true]

/-- The escaped text of the innermost open element, in front of anything that goes on with blanks
and a bracket. -/
lemma readOn_text {text : String} (htext : Text.Trimmed isSpace text.toList) {gap s s' : List Char}
    (hs : s = gap ++ '<' :: s') (hgap : IsGap gap) :
    readOn ⟨e :: outer, root⟩ (escape text.toList ++ s) =
      readOn ⟨e.addText text :: outer, root⟩ s := by
  by_cases hempty : text = ""
  · subst hempty
    cases e
    simp [Element.addText, escape]
  · have hne : escape text.toList ≠ [] :=
      escape_ne_nil fun h => hempty (String.toList_eq_nil_iff.1 h)
    have hnext := Token.next?_text hne (not_mem_escape rfl) (trimmed_escape htext) hgap s'
    rw [hs, readOn_gap hgap]
    refine readOn_of_step hnext ?_
    simp only [step, unescape_escape, String.ofList_toList]

/-- The elements of a written form are complete one after another. -/
lemma readOn_written (h : Written es s) (hplain : ∀ e ∈ es, e.Plain) (r : Reading)
    (rest : List Char) : r.readOn (s ++ rest) = (es.foldl complete r).readOn rest := by
  induction h generalizing r rest with
  | nil => rfl
  | blank hc h ih => rw [List.cons_append, readOn_of_space hc, ih hplain]
  | @comment _ s content hcontent h ih =>
    have hnext := Token.next?_comment hcontent (s ++ rest)
    rw [← ih hplain, ← readOn_of_silent hnext]
    simp
  | @single e es attributes s htext hchildren hattributes h ih =>
    rw [List.forall_mem_cons] at hplain
    have hfront : e.front = e := by
      cases e
      simp_all [Element.front]
    have hnext := next?_single hplain.1 hattributes (s ++ rest)
    have hstep : r.step (.single (e.name.toList ++ attributes)) = .ok (r.complete e) := by
      rw [step, ofTag_written hplain.1 hattributes, hfront]
      rfl
    rw [List.foldl_cons, ← ih hplain.2, ← readOn_of_step hnext hstep]
    simp
  | @paired e es attributes body gap s hattributes hbody hgap h ihbody ih =>
    rw [List.forall_mem_cons] at hplain
    obtain ⟨he, hes⟩ := hplain
    -- what stands behind the end tag, behind the text, and behind the start tag
    set back := '<' :: '/' :: (e.name.toList ++ (gap ++ '>' :: (s ++ rest))) with hback
    set inner := escape e.text.toList ++ (body ++ back) with hinner
    have hnext := next?_opening he hattributes inner
    have hstep : r.step (.opening (e.name.toList ++ attributes)) =
        .ok ⟨e.front :: r.opened, r.root⟩ := by
      rw [step, ofTag_written he hattributes]
      rfl
    obtain ⟨gap', s', hs', hgap'⟩ :=
      hbody.exists_gap ('/' :: (e.name.toList ++ (gap ++ '>' :: (s ++ rest))))
    calc r.readOn _ = r.readOn ('<' :: (e.name.toList ++ (attributes ++ '>' :: inner))) := by
          simp [hinner, hback]
      _ = readOn ⟨e.front :: r.opened, r.root⟩ inner := readOn_of_step hnext hstep
      _ = readOn ⟨e.front.addText e.text :: r.opened, r.root⟩ (body ++ back) :=
          readOn_text he.trimmed_text hs' hgap'
      _ = readOn ⟨e :: r.opened, r.root⟩ back := by
          rw [ihbody he.children, foldl_complete_front]
      _ = (r.complete e).readOn (s ++ rest) := readOn_closing he.isName hgap _
      _ = (List.foldl complete r (e :: es)).readOn rest := by rw [ih hes, List.foldl_cons]

end Reading

lemma dropByteOrderMark_cons {c : Char} (hc : c.toNat ≠ 0xFEFF) (s : List Char) :
    dropByteOrderMark (c :: s) = c :: s := if_neg hc

/-- A written form starts with a bracket or a blank, so that no byte order mark is dropped. -/
lemma dropByteOrderMark_written (h : Written es s) : dropByteOrderMark s = s := by
  cases h with
  | nil => rfl
  | blank hc =>
    refine dropByteOrderMark_cons ?_ _
    simp only [isSpace, Bool.or_eq_true, beq_iff_eq] at hc
    rcases hc with ((rfl | rfl) | rfl) | rfl <;> decide
  | comment => exact dropByteOrderMark_cons (by decide) _
  | single => exact dropByteOrderMark_cons (by decide) _
  | paired => exact dropByteOrderMark_cons (by decide) _

/-- Reading any written form of an element gives the element back. -/
theorem read_written {text : String} (he : e.Plain) (h : Written [e] text.toList) :
    read text = .ok e := by
  have hstep : Reading.start.readOn text.toList = .ok (Reading.start.complete e) := by
    have hread := Reading.readOn_written h (by simpa using he) Reading.start []
    rwa [List.append_nil, Reading.readOn_nil] at hread
  rw [read, dropByteOrderMark_written h]
  rw [Reading.readOn] at hstep
  rw [hstep]
  rfl

/-! ### A list of items -/

/-- A list of two items, the first of them done and the second with a text. -/
def shoppingList : Element where
  name := "list"
  attributes := Table.ofList [("title", "it's \"short\""), ("lang", "en")]
  children := [⟨"item", Table.ofList [("done", "<yes>")], [], ""⟩, ⟨"item", Table.empty, [], "b"⟩]
  text := "two & no more"

/-- The same list written out, with comments, blanks and characters that are escaped. -/
def shoppingText : String :=
  "<!-- a list -->\n<list title='it&apos;s &quot;short&quot;' lang = \"en\">two &amp; no more" ++
    "\n <item done=\"&lt;yes&gt;\" /> <item>b</item ><!----></list>\n"

lemma plain_shoppingList : shoppingList.Plain := by
  have hname : IsName "list" := isName_of_all (by decide) (by decide)
  have htitle : IsName "title" := isName_of_all (by decide) (by decide)
  have hlang : IsName "lang" := isName_of_all (by decide) (by decide)
  have hitem : IsName "item" := isName_of_all (by decide) (by decide)
  have hdone : IsName "done" := isName_of_all (by decide) (by decide)
  have hkeys : shoppingList.attributes.keys = ["title", "lang"] := rfl
  have hkeys' : (Table.ofList [("done", "<yes>")]).keys = ["done"] := rfl
  refine .intro hname ?_ ⟨by rintro c ⟨⟩; rfl, by rintro c ⟨⟩; rfl⟩ ?_
  · simp [hkeys, htitle, hlang]
  · simp only [shoppingList, List.forall_mem_cons]
    refine ⟨.intro hitem (by simp [hkeys', hdone]) ⟨by simp, by simp⟩ (by simp),
      .intro hitem (by simp [Table.empty, Table.keys]) ⟨?_, ?_⟩ (by simp), by simp⟩
    · rintro c ⟨⟩
      rfl
    · rintro c ⟨⟩
      rfl

lemma written_shoppingList : Written [shoppingList] shoppingText.toList := by
  have hnone : IsGap [] := by simp [IsGap]
  have hgap : IsGap [' '] := by simp [IsGap, isSpace]
  have hblank : [' '] ≠ [] := List.cons_ne_nil ' ' []
  have hdouble : '"' = '"' ∨ '"' = '\'' := Or.inl rfl
  have hsingle : '\'' = '"' ∨ '\'' = '\'' := Or.inr rfl
  have hempty : ¬ ['-', '-'] <:+: ([] : List Char) := by decide
  have hcomment : ¬ ['-', '-'] <:+: " a list ".toList := by decide
  have hdone : AttributesWritten [("done", "<yes>")] _ :=
    .cons hblank hgap hnone hnone hdouble (.nil hgap)
  have hlist : AttributesWritten shoppingList.attributes.entries _ :=
    .cons hblank hgap hnone hnone hsingle (.cons hblank hgap hgap hgap hdouble (.nil hnone))
  have hitems : Written shoppingList.children _ :=
    .blank (c := '\n') rfl <| .blank (c := ' ') rfl <| .single rfl rfl hdone <|
      .blank (c := ' ') rfl <| .paired (.nil hnone) .nil hgap <| .comment hempty .nil
  have hform : Written [shoppingList] _ :=
    .comment hcomment <| .blank (c := '\n') rfl <| .paired hlist hitems hnone <|
      .blank (c := '\n') rfl .nil
  convert hform using 1
  decide +kernel

theorem read_written_shoppingList :
    shoppingList.Plain ∧ Written [shoppingList] shoppingText.toList ∧
      read shoppingText = .ok shoppingList :=
  ⟨plain_shoppingList, written_shoppingList, read_written plain_shoppingList written_shoppingList⟩

end Markup

end Walkthrough
