import Mathlib
import Walkthrough.Proofs.Nesting
import Walkthrough.Proofs.Writing

/-!
# What stands in an element

The outline of a text says what is written in it, part by part and element by element, with every
blank: the reader's tokens have lost the blanks at the ends of character data, an outline has not.
A text that can be read has an outline up to the end of its root, and the root is then read along
that outline, whichever it is: its elements have their tags and order from there, and the text of
each is made from the parts that stand directly in it.
-/

namespace Walkthrough.Markup

/-- What can stand in an element, as it is written. -/
inductive Part
  /-- The character data between two constructs, with its blanks and its references. -/
  | run (raw : List Char)
  | cdata (content : List Char)
  /-- A comment, an instruction or a document type. -/
  | silent
  /-- An element, with the content of its start tag and the parts up to its end tag. -/
  | element (tag : List Char) (parts : List Part)

/-- Whether a part is an element. -/
def Part.isElement : Part → Bool
  | element _ _ => true
  | _ => false

/-- Some parts are what a text starts with, up to the rest of it. -/
inductive Spelled : List Part → List Char → List Char → Prop
  | nil (s : List Char) : Spelled [] s s
  | run {raw s rest : List Char} {parts : List Part} (hne : raw ≠ []) (hraw : '<' ∉ raw)
      (hs : ∀ c ∈ s.head?, c = '<') (h : Spelled parts s rest) :
      Spelled (.run raw :: parts) (raw ++ s) rest
  | cdata {content s s' rest : List Char} {parts : List Part}
      (hnext : Token.markup? s = .ok (some (.cdata content, s'))) (h : Spelled parts s' rest) :
      Spelled (.cdata content :: parts) ('<' :: s) rest
  | silent {s s' rest : List Char} {parts : List Part}
      (hnext : Token.markup? s = .ok (some (.silent, s'))) (h : Spelled parts s' rest) :
      Spelled (.silent :: parts) ('<' :: s) rest
  | single {tag s s' rest : List Char} {parts : List Part}
      (hnext : Token.markup? s = .ok (some (.single tag, s'))) (h : Spelled parts s' rest) :
      Spelled (.element tag [] :: parts) ('<' :: s) rest
  | paired {tag name s s₁ s₂ s₃ rest : List Char} {inner parts : List Part}
      (hopening : Token.markup? s = .ok (some (.opening tag, s₁)))
      (hinner : Spelled inner s₁ ('<' :: s₂))
      (hclosing : Token.markup? s₂ = .ok (some (.closing name, s₃)))
      (hname : endName name = tagName tag) (h : Spelled parts s₃ rest) :
      Spelled (.element tag inner :: parts) ('<' :: s) rest

/-- The outline of a text: what it starts with, up to the end of its first element. -/
structure Outline (s : List Char) (parts : List Part) : Prop where
  exists_eq : ∃ before tag inner, parts = before ++ [.element tag inner] ∧
    ∀ part ∈ before, part.isElement = false
  spelled : ∃ rest, Spelled parts s rest

/-- Elements are read along some parts: there is one for each element among the parts, in this
order and with this tag, and its text is as `P` says of the parts in it. -/
inductive Follows (P : List Part → String → Prop) : List Part → List Element → Prop
  | nil : Follows P [] []
  | run (raw : List Char) {parts : List Part} {es : List Element} (h : Follows P parts es) :
      Follows P (.run raw :: parts) es
  | cdata (content : List Char) {parts : List Part} {es : List Element} (h : Follows P parts es) :
      Follows P (.cdata content :: parts) es
  | silent {parts : List Part} {es : List Element} (h : Follows P parts es) :
      Follows P (.silent :: parts) es
  | element {tag : List Char} {inner parts : List Part} {e : Element} {es : List Element}
      (htag : Element.ofTag tag = .ok e.front) (htext : P inner e.text)
      (hinner : Follows P inner e.children) (h : Follows P parts es) :
      Follows P (.element tag inner :: parts) (e :: es)

/-- The character data that stands directly in an element with these parts.  Each run of it is
edited before its references are replaced. -/
def dataOf (edit : List Char → List Char) : List Part → Except ReferenceError (List Char)
  | [] => .ok []
  | .run raw :: parts => do
    let more ← unescape (edit raw)
    return more.toList ++ (← dataOf edit parts)
  | .cdata content :: parts => (content ++ ·) <$> dataOf edit parts
  | .silent :: parts | .element _ _ :: parts => dataOf edit parts

variable {s s' rest gap raw content tag name : List Char} {parts inner before more : List Part}
  {tokens : List Token} {token : Token} {e : Element} {es : List Element}

lemma unescape_nil : unescape [] = .ok "" := by
  rw [unescape, unescapeFrom]
  rfl

lemma dataOf_run_eq_ok {edit : List Char → List Char} {chars : List Char} :
    dataOf edit (.run raw :: parts) = .ok chars ↔ ∃ first later, unescape (edit raw) = .ok first ∧
      dataOf edit parts = .ok later ∧ chars = first.toList ++ later := by
  constructor
  · intro h
    obtain ⟨first, hfirst, h⟩ := exists_of_bind_eq_ok h
    obtain ⟨later, hlater, h⟩ := exists_of_bind_eq_ok h
    exact ⟨first, later, hfirst, hlater, (Except.ok.inj h).symm⟩
  · rintro ⟨first, later, hfirst, hlater, rfl⟩
    rw [dataOf, hfirst, hlater]
    rfl

lemma dataOf_cdata_eq_ok {edit : List Char → List Char} {chars : List Char} :
    dataOf edit (.cdata content :: parts) = .ok chars ↔
      ∃ later, dataOf edit parts = .ok later ∧ chars = content ++ later := by
  rw [dataOf]
  cases dataOf edit parts with
  | error cause => simp [Functor.map, Except.map]
  | ok later => simp [Functor.map, Except.map, eq_comm]

lemma Follows.imp {P Q : List Part → String → Prop}
    (hPQ : ∀ inner text, P inner text → Q inner text) (h : Follows P parts es) :
    Follows Q parts es := by
  induction h with
  | nil => exact .nil
  | run raw h ih => exact .run raw ih
  | cdata content h ih => exact .cdata content ih
  | silent h ih => exact .silent ih
  | element htag htext hinner h ihinner ih => exact .element htag (hPQ _ _ htext) ihinner ih

/-- In front of an element, nothing that is read belongs to one. -/
lemma Follows.append_of_not_element {P : List Part → String → Prop}
    (hbefore : ∀ part ∈ before, part.isElement = false) (h : Follows P parts es) :
    Follows P (before ++ parts) es := by
  induction before with
  | nil => exact h
  | cons part before ih =>
    rw [List.forall_mem_cons] at hbefore
    have hrest := ih hbefore.2
    cases part with
    | run raw => exact .run raw hrest
    | cdata content => exact .cdata content hrest
    | silent => exact .silent hrest
    | element tag inner => cases hbefore.1

namespace Spelled

lemma append (h : Spelled parts s s') (hmore : Spelled more s' rest) :
    Spelled (parts ++ more) s rest := by
  induction h with
  | nil s => exact hmore
  | run hne hraw hs h ih => exact .run hne hraw hs (ih hmore)
  | cdata hnext h ih => exact .cdata hnext (ih hmore)
  | silent hnext h ih => exact .silent hnext (ih hmore)
  | single hnext h ih => exact .single hnext (ih hmore)
  | paired hopening hinner hclosing hname h ihinner ih =>
    exact .paired hopening hinner hclosing hname (ih hmore)

lemma exists_of_append (h : Spelled (parts ++ more) s rest) :
    ∃ s', Spelled parts s s' ∧ Spelled more s' rest := by
  induction parts generalizing s with
  | nil => exact ⟨s, .nil s, h⟩
  | cons part parts ih =>
    cases h with
    | run hne hraw hs h =>
      obtain ⟨s', hparts, hmore⟩ := ih h
      exact ⟨s', .run hne hraw hs hparts, hmore⟩
    | cdata hnext h =>
      obtain ⟨s', hparts, hmore⟩ := ih h
      exact ⟨s', .cdata hnext hparts, hmore⟩
    | silent hnext h =>
      obtain ⟨s', hparts, hmore⟩ := ih h
      exact ⟨s', .silent hnext hparts, hmore⟩
    | single hnext h =>
      obtain ⟨s', hparts, hmore⟩ := ih h
      exact ⟨s', .single hnext hparts, hmore⟩
    | paired hopening hinner hclosing hname h =>
      obtain ⟨s', hparts, hmore⟩ := ih h
      exact ⟨s', .paired hopening hinner hclosing hname hparts, hmore⟩

/-- Blanks in front of a construct are character data too. -/
lemma exists_of_gap (hgap : IsGap gap) (h : Spelled parts ('<' :: s) rest) :
    ∃ blanks, (∀ part ∈ blanks, part.isElement = false) ∧
      Spelled (blanks ++ parts) (gap ++ '<' :: s) rest := by
  by_cases hne : gap = []
  · subst hne
    exact ⟨[], by simp, h⟩
  · refine ⟨[.run gap], by simp [Part.isElement], .run hne ?_ (by simp) h⟩
    intro hmem
    exact absurd (hgap _ hmem) (by decide)

end Spelled

/-! ### Tokens and where they stand -/

lemma stripWhile_of_isGap (hgap : IsGap gap) : Text.stripWhile isSpace gap = [] := by
  rw [Text.stripWhile, List.dropWhile_eq_nil_iff.2 hgap]
  rfl

namespace Token

/-- Between brackets there is no character data. -/
lemma ne_text_of_markup? (h : markup? s = .ok (some (token, rest))) (raw : List Char) :
    token ≠ .text raw := by
  rintro rfl
  cases s with
  | nil => cases h
  | cons c s =>
    by_cases hslash : c = '/'
    · subst hslash
      cases h
    by_cases hmark : c = '?'
    · subst hmark
      have hinstruction := exists_of_map_eq_ok h
      unfold instruction at hinstruction
      simp only at hinstruction
      split at hinstruction <;> cases hinstruction
    by_cases hbang : c = '!'
    · subst hbang
      have hdeclaration := exists_of_map_eq_ok h
      unfold declaration at hdeclaration
      grind
    · rw [markup?_eq_tag ⟨hslash, hmark, hbang⟩, tag_eq] at h
      obtain ⟨htoken, -⟩ := Prod.mk.inj (Option.some.inj (Except.ok.inj h))
      rcases ofContent_cases (tagContent none (c :: s)).1 with ⟨front, -, hcontent⟩ | hcontent <;>
      · rw [hcontent] at htoken
        cases htoken

/-- A run of character data goes up to the next bracket or to the end. -/
lemma next?_run (hraw : '<' ∉ raw) (hs : ∀ c ∈ s.head?, c = '<') (hblank : ¬ IsGap raw) :
    next? (raw ++ s) = .ok (some (text (Text.stripWhile isSpace raw), s)) := by
  have hdrop : raw.dropWhile isSpace ≠ [] := by
    intro hnil
    rw [List.dropWhile_eq_nil_iff] at hnil
    exact hblank hnil
  obtain ⟨c, u, hu⟩ := List.exists_cons_of_ne_nil hdrop
  obtain ⟨hsplit, -⟩ := Text.eq_of_dropWhile_eq_cons hu
  have hmem : '<' ∉ c :: u := by
    intro hmem
    rw [hsplit] at hraw
    exact hraw (List.mem_append_right _ hmem)
  have hc : ¬ c = '<' := fun h => hmem (h ▸ List.mem_cons_self)
  have hall := Text.bne_of_not_mem fun h => hmem (List.mem_cons_of_mem c h)
  have hstop : ∀ d ∈ s.head?, (d != '<') = false := by
    intro d hd
    simp [hs d hd]
  rw [next?, Text.dropWhile_append_of_cons hu]
  simp only [if_neg hc, Text.takeWhile_append_stop hall hstop,
    Text.dropWhile_append_stop hall hstop, Text.stripWhile, hu]

/-- A token is a run of character data, or it stands behind blanks and a bracket. -/
lemma next?_cases (h : next? s = .ok (some (token, rest))) :
    (∃ raw, token = .text (Text.stripWhile isSpace raw) ∧ s = raw ++ rest ∧ raw ≠ [] ∧
      '<' ∉ raw ∧ ∀ c ∈ rest.head?, c = '<') ∨
    ∃ gap s', s = gap ++ '<' :: s' ∧ IsGap gap ∧ markup? s' = .ok (some (token, rest)) := by
  have hgap : IsGap (s.takeWhile isSpace) := fun c hc => List.mem_takeWhile_imp hc
  unfold next? at h
  split at h
  · cases h
  · next c u hu =>
    obtain ⟨hsplit, hc⟩ := Text.eq_of_dropWhile_eq_cons hu
    split_ifs at h with hbracket
    · subst hbracket
      exact Or.inr ⟨_, u, hsplit, hgap, h⟩
    · obtain ⟨rfl, rfl⟩ := Prod.mk.inj (Option.some.inj (Except.ok.inj h))
      left
      refine ⟨s.takeWhile isSpace ++ c :: u.takeWhile (· != '<'), ?_, ?_, by simp, ?_, ?_⟩
      · have hfirst : ∀ d ∈ (c :: u.takeWhile (· != '<')).head?, isSpace d = false := by
          rintro d ⟨⟩
          exact hc
        rw [Text.stripWhile, Text.dropWhile_append_stop hgap hfirst]
      · rw [List.append_assoc, List.cons_append, List.takeWhile_append_dropWhile, ← hsplit]
      · rw [List.mem_append, List.mem_cons, not_or, not_or]
        refine ⟨fun hmem => absurd (hgap _ hmem) (by decide), fun he => hbracket he.symm, ?_⟩
        intro hmem
        have hne := List.mem_takeWhile_imp hmem
        simp at hne
      · intro d hd
        have hnot := List.head?_dropWhile_not (· != '<') u
        rw [Option.mem_def.1 hd] at hnot
        simpa using hnot

lemma exists_of_scan_eq_cons {later : List (Except Error Token)}
    (h : scan s = .ok token :: later) :
    ∃ rest, next? s = .ok (some (token, rest)) ∧ scan rest = later := by
  cases hnext : next? s with
  | error cause =>
    rw [scan_of_error hnext] at h
    cases h
  | ok front =>
    cases front with
    | none =>
      rw [scan_of_none hnext] at h
      cases h
    | some first =>
      rw [scan_of_some hnext] at h
      obtain ⟨htoken, hlater⟩ := List.cons.inj h
      exact ⟨first.2, by rw [← Except.ok.inj htoken], hlater⟩

end Token

/-! ### Texts that can be read have an outline -/

/-- The tokens of nested elements in front of a tag have an outline. -/
lemma exists_spelled (h : Nested tokens) {later : List (Except Error Token)}
    (htag : token.isTag = true) (hscan : Token.scan s = tokens.map .ok ++ .ok token :: later) :
    ∃ parts s' rest, Spelled parts s ('<' :: s') ∧
      Token.markup? s' = .ok (some (token, rest)) ∧ Token.scan rest = later ∧
      (NoTags tokens → ∀ part ∈ parts, part.isElement = false) := by
  induction h generalizing s token later with
  | nil =>
    obtain ⟨rest, hnext, hlater⟩ := Token.exists_of_scan_eq_cons hscan
    rcases Token.next?_cases hnext with ⟨raw, rfl, -⟩ | ⟨gap, s', rfl, hgap, hmarkup⟩
    · cases htag
    · obtain ⟨blanks, hblanks, hspelled⟩ := Spelled.exists_of_gap hgap (.nil ('<' :: s'))
      rw [List.append_nil] at hspelled
      exact ⟨blanks, s', rest, hspelled, hmarkup, hlater, fun _ => hblanks⟩
  | @data first tokens hfirst hrest ih =>
    obtain ⟨s₁, hnext, hscan⟩ := Token.exists_of_scan_eq_cons hscan
    obtain ⟨parts, s', rest, hspelled, hmarkup, hlater, hparts⟩ := ih htag hscan
    have htail : NoTags (first :: tokens) → NoTags tokens := fun h t ht =>
      h t (List.mem_cons_of_mem _ ht)
    rcases Token.next?_cases hnext with
      ⟨raw, rfl, rfl, hne, hraw, hs⟩ | ⟨gap, s₂, rfl, hgap, hfound⟩
    · refine ⟨.run raw :: parts, s', rest, .run hne hraw hs hspelled, hmarkup, hlater, ?_⟩
      intro hno
      exact List.forall_mem_cons.2 ⟨rfl, hparts (htail hno)⟩
    · -- what is no tag and no character data is silent or stands for itself
      obtain ⟨part, hpart, hone⟩ : ∃ part : Part, part.isElement = false ∧
          Spelled (part :: parts) ('<' :: s₂) ('<' :: s') := by
        cases first with
        | text raw => exact absurd rfl (Token.ne_text_of_markup? hfound raw)
        | cdata content => exact ⟨.cdata content, rfl, .cdata hfound hspelled⟩
        | silent => exact ⟨.silent, rfl, .silent hfound hspelled⟩
        | opening | single | closing => cases hfirst
      obtain ⟨blanks, hblanks, hwhole⟩ := hone.exists_of_gap hgap
      refine ⟨blanks ++ part :: parts, s', rest, hwhole, hmarkup, hlater, ?_⟩
      intro hno
      exact List.forall_mem_append.2 ⟨hblanks, List.forall_mem_cons.2 ⟨hpart, hparts (htail hno)⟩⟩
  | @single tag tokens hrest ih =>
    obtain ⟨s₁, hnext, hscan⟩ := Token.exists_of_scan_eq_cons hscan
    obtain ⟨parts, s', rest, hspelled, hmarkup, hlater, -⟩ := ih htag hscan
    rcases Token.next?_cases hnext with ⟨raw, htoken, -⟩ | ⟨gap, s₂, rfl, hgap, hfound⟩
    · cases htoken
    · obtain ⟨blanks, -, hwhole⟩ := Spelled.exists_of_gap hgap (.single hfound hspelled)
      refine ⟨blanks ++ .element tag [] :: parts, s', rest, hwhole, hmarkup, hlater, ?_⟩
      intro hno
      cases hno _ List.mem_cons_self
  | @paired tag name inner tokens hname hinner hrest ihinner ih =>
    rw [List.map_cons, List.map_append, List.map_cons, List.cons_append, List.append_assoc,
      List.cons_append] at hscan
    obtain ⟨s₁, hnext, hscan⟩ := Token.exists_of_scan_eq_cons hscan
    obtain ⟨body, s₂, s₃, hbody, hclosing, hscan, -⟩ := ihinner (by rfl) hscan
    obtain ⟨parts, s', rest, hspelled, hmarkup, hlater, -⟩ := ih htag hscan
    rcases Token.next?_cases hnext with ⟨raw, htoken, -⟩ | ⟨gap, s₄, rfl, hgap, hfound⟩
    · cases htoken
    · obtain ⟨blanks, -, hwhole⟩ :=
        Spelled.exists_of_gap hgap (.paired hfound hbody hclosing hname hspelled)
      refine ⟨blanks ++ .element tag body :: parts, s', rest, hwhole, hmarkup, hlater, ?_⟩
      intro hno
      cases hno _ List.mem_cons_self

lemma NoTags.nested (h : NoTags tokens) : Nested tokens := by
  induction tokens with
  | nil => exact .nil
  | cons token tokens ih =>
    exact .data (h token List.mem_cons_self) (ih fun t ht => h t (List.mem_cons_of_mem _ ht))

/-- A text that can be read has an outline. -/
lemma exists_outline {text : String} (h : read text = .ok e) :
    ∃ parts, Outline (dropByteOrderMark text.toList) parts := by
  obtain ⟨r, hrun, hroot⟩ := exists_run_of_read h
  obtain ⟨tokens, htokens⟩ := Reading.exists_map_ok_of_run hrun
  rw [htokens] at hrun
  cases Reading.progress_of_run hrun with
  | before => cases hroot
  | inside _ _ _ hnone =>
    rw [hnone] at hroot
    cases hroot
  | @behind before element after e' _ hbefore helement hread hafter hroot' =>
    rw [List.append_assoc, List.map_append] at htokens
    cases helement with
    | single tag =>
      obtain ⟨front, s', rest, hfront, hmarkup, -, hparts⟩ :=
        exists_spelled hbefore.nested (by rfl) htokens
      have hwhole := hfront.append (.single hmarkup (.nil rest))
      exact ⟨_, ⟨front, tag, [], rfl, hparts hbefore⟩, rest, hwhole⟩
    | @paired tag name inner hname hinner =>
      rw [List.cons_append, List.map_cons, List.append_assoc, List.map_append] at htokens
      obtain ⟨front, s', s₁, hfront, hmarkup, hscan, hparts⟩ :=
        exists_spelled hbefore.nested (by rfl) htokens
      obtain ⟨body, s₂, rest, hbody, hclosing, -⟩ :=
        exists_spelled hinner (by rfl) hscan
      have hwhole := hfront.append (.paired hmarkup hbody hclosing hname (.nil rest))
      exact ⟨_, ⟨front, tag, body, rfl, hparts hbefore⟩, rest, hwhole⟩

/-! ### Reading along an outline -/

/-- The text that the reader makes of the parts of an element: it trims every run by itself. -/
def TextRead (inner : List Part) (text : String) : Prop :=
  dataOf (Text.stripWhile isSpace) inner = .ok text.toList

namespace Reading

variable {r r' : Reading} {p : Element} {outer : List Element} {root : Option Element}

/-- An element with more text and more elements in it. -/
def filled (p : Element) (more : List Char) (es : List Element) : Element :=
  ⟨p.name, p.attributes, p.children ++ es, p.text ++ String.ofList more⟩

/-- Reading a text up to the rest of it fills the innermost open element with what the parts
say. -/
def Fills (parts : List Part) (s rest : List Char) : Prop :=
  ∀ (p : Element) (outer : List Element) (root : Option Element) (r : Reading),
    readOn ⟨p :: outer, root⟩ s = .ok r →
      ∃ more es, dataOf (Text.stripWhile isSpace) parts = .ok more ∧ Follows TextRead parts es ∧
        readOn ⟨filled p more es :: outer, root⟩ rest = .ok r

lemma filled_nil (p : Element) : filled p [] [] = p := by
  obtain ⟨name, attributes, children, text⟩ := p
  simp [filled]

lemma filled_addText (p : Element) (first : String) (later : List Char) (es : List Element) :
    filled (p.addText first) later es = filled p (first.toList ++ later) es := by
  simp [filled, Element.addText, String.append_assoc]

lemma filled_addChild (p e : Element) (more : List Char) (es : List Element) :
    filled (p.addChild e) more es = filled p more (e :: es) := by
  simp [filled, Element.addChild]

/-- A run inside an element is added to it with its references replaced. -/
lemma exists_of_step_text (h : step ⟨p :: outer, root⟩ (.text raw) = .ok r') :
    ∃ first, unescape raw = .ok first ∧ r' = ⟨p.addText first :: outer, root⟩ := by
  simp only [step] at h
  split at h
  · next first hfirst => exact ⟨first, hfirst, (Except.ok.inj h).symm⟩
  · cases h

lemma exists_of_readOn (hnext : Token.next? s = .ok (some (token, rest)))
    (h : r.readOn s = .ok r') : ∃ r₁, r.step token = .ok r₁ ∧ r₁.readOn rest = .ok r' := by
  rw [readOn, Token.scan_of_some hnext] at h
  exact exists_of_run_cons h

lemma next?_of_markup? (h : Token.markup? s = .ok (some (token, rest))) :
    Token.next? ('<' :: s) = .ok (some (token, rest)) :=
  (Token.next?_bracket s).trans h

/-- Reading a text up to the rest of it completes an element with this tag and these parts. -/
def Completes (tag : List Char) (inner : List Part) (s rest : List Char) : Prop :=
  ∀ r r' : Reading, r.readOn s = .ok r' →
    ∃ e, Element.ofTag tag = .ok e.front ∧ TextRead inner e.text ∧
      Follows TextRead inner e.children ∧ (r.complete e).readOn rest = .ok r'

/-- An element written with one tag is complete behind it. -/
lemma completes_single (hnext : Token.markup? s = .ok (some (.single tag, rest))) :
    Completes tag [] ('<' :: s) rest := by
  intro r r' h
  obtain ⟨r₁, hstep, hrest⟩ := exists_of_readOn (next?_of_markup? hnext) h
  obtain ⟨e, he, rfl⟩ := exists_of_step_single hstep
  obtain ⟨table, -, rfl⟩ := exists_of_ofTag he
  exact ⟨⟨_, table, [], ""⟩, he, rfl, .nil, hrest⟩

/-- An element written with two tags is complete behind its end tag. -/
lemma completes_paired (hopening : Token.markup? s = .ok (some (.opening tag, s')))
    {s₂ : List Char} (hinner : Fills inner s' ('<' :: s₂))
    (hclosing : Token.markup? s₂ = .ok (some (.closing name, rest))) :
    Completes tag inner ('<' :: s) rest := by
  intro r r' h
  obtain ⟨r₁, hstep, hread⟩ := exists_of_readOn (next?_of_markup? hopening) h
  obtain ⟨e₀, he₀, rfl⟩ := exists_of_step_opening hstep
  obtain ⟨more, es, hdata, hfollows, hread⟩ := hinner _ _ _ _ hread
  obtain ⟨r₂, hstep, hrest⟩ := exists_of_readOn (next?_of_markup? hclosing) hread
  obtain ⟨e, outer, hopened, -, rfl⟩ := exists_of_step_closing hstep
  obtain ⟨rfl, rfl⟩ := List.cons.inj hopened
  obtain ⟨table, -, rfl⟩ := exists_of_ofTag he₀
  refine ⟨filled ⟨_, table, [], ""⟩ more es, he₀, ?_, hfollows, hrest⟩
  simpa [TextRead, filled] using hdata

/-- An element that is completed inside another is its next child. -/
lemma Completes.fills (h : Completes tag inner s s') (hrest : Fills parts s' rest) :
    Fills (.element tag inner :: parts) s rest := by
  intro p outer root r hread
  obtain ⟨e, htag, htext, hinner, hread⟩ := h _ _ hread
  obtain ⟨more, es, hdata, hfollows, hread⟩ := hrest _ _ _ _ hread
  refine ⟨more, e :: es, hdata, .element htag htext hinner hfollows, ?_⟩
  rwa [filled_addChild] at hread

lemma fills_of_spelled (h : Spelled parts s rest) : Fills parts s rest := by
  induction h with
  | nil s =>
    intro p outer root r hread
    exact ⟨[], [], rfl, .nil, (filled_nil p).symm ▸ hread⟩
  | @run raw s rest parts hne hraw hs h ih =>
    intro p outer root r hread
    by_cases hgap : IsGap raw
    · rw [readOn_gap hgap] at hread
      obtain ⟨more, es, hdata, hfollows, hrest⟩ := ih _ _ _ _ hread
      have hempty : unescape (Text.stripWhile isSpace raw) = .ok "" := by
        rw [stripWhile_of_isGap hgap, unescape_nil]
      exact ⟨more, es, dataOf_run_eq_ok.2 ⟨_, _, hempty, hdata, rfl⟩, .run raw hfollows, hrest⟩
    · obtain ⟨r₁, hstep, hread⟩ := exists_of_readOn (Token.next?_run hraw hs hgap) hread
      obtain ⟨first, hfirst, rfl⟩ := exists_of_step_text hstep
      obtain ⟨later, es, hdata, hfollows, hrest⟩ := ih _ _ _ _ hread
      refine ⟨first.toList ++ later, es, dataOf_run_eq_ok.2 ⟨_, _, hfirst, hdata, rfl⟩,
        .run raw hfollows, ?_⟩
      rwa [filled_addText] at hrest
  | @cdata content _ _ _ _ hnext h ih =>
    intro p outer root r hread
    obtain ⟨r₁, hstep, hread⟩ := exists_of_readOn (next?_of_markup? hnext) hread
    obtain rfl := Except.ok.inj hstep
    obtain ⟨later, es, hdata, hfollows, hrest⟩ := ih _ _ _ _ hread
    refine ⟨content ++ later, es, dataOf_cdata_eq_ok.2 ⟨_, hdata, rfl⟩, .cdata content hfollows, ?_⟩
    rwa [filled_addText, String.toList_ofList] at hrest
  | silent hnext h ih =>
    intro p outer root r hread
    rw [readOn_of_silent (next?_of_markup? hnext)] at hread
    obtain ⟨more, es, hdata, hfollows, hrest⟩ := ih _ _ _ _ hread
    exact ⟨more, es, hdata, .silent hfollows, hrest⟩
  | single hnext h ih => exact (completes_single hnext).fills ih
  | paired hopening hinner hclosing hname h ihinner ih =>
    exact (completes_paired hopening ihinner hclosing).fills ih

/-- Outside all elements, character data is passed over. -/
lemma readOn_before (hbefore : ∀ part ∈ before, part.isElement = false)
    (h : Spelled before s rest) : start.readOn s = start.readOn rest := by
  induction h with
  | nil s => rfl
  | @run raw s rest parts hne hraw hs h ih =>
    rw [List.forall_mem_cons] at hbefore
    rw [← ih hbefore.2]
    by_cases hgap : IsGap raw
    · exact readOn_gap hgap s
    · exact readOn_of_step (Token.next?_run hraw hs hgap) rfl
  | cdata hnext h ih =>
    rw [List.forall_mem_cons] at hbefore
    rw [← ih hbefore.2]
    exact readOn_of_step (next?_of_markup? hnext) rfl
  | silent hnext h ih =>
    rw [List.forall_mem_cons] at hbefore
    rw [← ih hbefore.2]
    exact readOn_of_silent (next?_of_markup? hnext)
  | single | paired => cases hbefore _ List.mem_cons_self

/-- An element that is completed outside all others is the root, whatever follows. -/
lemma Completes.follows (h : Completes tag inner s rest) (hread : start.readOn s = .ok r)
    (hroot : r.root = some e) : Follows TextRead [.element tag inner] [e] := by
  obtain ⟨e', htag, htext, hinner, hrest⟩ := h _ _ hread
  have hfirst : r.root = some e' := root_of_run hrest rfl
  obtain rfl := Option.some.inj (hfirst.symm.trans hroot)
  exact .element htag htext hinner .nil

end Reading

/-- The root of a text is read along every outline of the text. -/
lemma follows_of_read {text : String} (h : read text = .ok e)
    (houtline : Outline (dropByteOrderMark text.toList) parts) : Follows TextRead parts [e] := by
  obtain ⟨r, hrun, hroot⟩ := exists_run_of_read h
  obtain ⟨⟨before, tag, inner, rfl, hbefore⟩, rest, hspelled⟩ := houtline
  obtain ⟨s, hfront, helement⟩ := hspelled.exists_of_append
  rw [← Reading.readOn, Reading.readOn_before hbefore hfront] at hrun
  refine .append_of_not_element hbefore ?_
  cases helement with
  | single hnext hnil => exact (Reading.completes_single hnext).follows hrun hroot
  | paired hopening hinner hclosing hname hnil =>
    have hfills := Reading.fills_of_spelled hinner
    exact (Reading.completes_paired hopening hfills hclosing).follows hrun hroot

end Walkthrough.Markup
