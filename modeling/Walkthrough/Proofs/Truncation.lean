import Mathlib
import Walkthrough.Proofs.Attributes
import Walkthrough.Proofs.BrokenTokens

/-!
# Texts that break off

A text that breaks off is read like the whole text, as far as it goes: its tokens are those of the
whole text, except for the last, and the first element that is complete at the top stays the root.
Main statement: if both a text and the part of it where it breaks off can be read, the elements are
the same, except when the text breaks off right after a slash in the tag of its root.  Such a tag is
taken for a whole element, although it goes on.
-/

namespace Walkthrough.Markup

/-! ### The tokens of a longer text -/

namespace Token

/-- A text has a fault, or its tokens are the first tokens of a longer text, or all of them but the
last are.  The last is then still a token of its place if it can complete an element. -/
lemma scan_append_cases (p q : List Char) :
    (∃ cause, .error cause ∈ scan p) ∨ scan p <+: scan (p ++ q) ∨
      ∃ earlier token tail, scan p = earlier ++ [.ok token] ∧ scan (p ++ q) = earlier ++ tail ∧
        (token.completes = true → ∃ token' later, tail = .ok token' :: later ∧
          GoesOn token token') := by
  induction hn : p.length using Nat.strong_induction_on generalizing p with
  | h n ih =>
    cases hnext : next? p with
    | error cause => exact Or.inl ⟨cause, by simp [scan_of_error hnext]⟩
    | ok front =>
      cases front with
      | none => exact Or.inr (Or.inl (by simp [scan_of_none hnext]))
      | some first =>
        obtain ⟨token, rest⟩ := first
        rw [scan_of_some hnext]
        rcases persists_next? hnext q with hsame | ⟨rfl, hlast⟩
        · rw [scan_of_some hsame]
          have hshorter : rest.length < n := hn ▸ length_of_next? hnext
          rcases ih _ hshorter rest rfl with ⟨cause, hcause⟩ | hprefix |
            ⟨earlier, last, tail, hp, hs, hlast⟩
          · exact Or.inl ⟨cause, List.mem_cons_of_mem _ hcause⟩
          · exact Or.inr (Or.inl (List.cons_prefix_cons.2 ⟨rfl, hprefix⟩))
          · refine Or.inr (Or.inr ⟨.ok token :: earlier, last, tail, ?_, ?_, hlast⟩)
            · rw [hp, List.cons_append]
            · rw [hs, List.cons_append]
        · have hnil : scan [] = [] := scan_of_none rfl
          refine Or.inr (Or.inr ⟨[], token, scan (p ++ q), by rw [hnil]; rfl, rfl, ?_⟩)
          intro hcompletes
          obtain ⟨token', rest', hnext', hgoes⟩ := hlast hcompletes
          exact ⟨token', scan rest', scan_of_some hnext', hgoes⟩

end Token

namespace Reading

variable {r r' r₁ r₂ : Reading} {e e' : Element} {token : Token}
  {tokens tokens' : List (Except Error Token)} {content : List Char}

/-! ### Runs -/

lemma exists_of_run_append (h : r.run (tokens ++ tokens') = .ok r') :
    ∃ r₁, r.run tokens = .ok r₁ ∧ r₁.run tokens' = .ok r' := by
  rw [run, List.foldlM_append] at h
  exact exists_of_bind_eq_ok h

lemma exists_of_run_cons (h : r.run (.ok token :: tokens) = .ok r') :
    ∃ r₁, r.step token = .ok r₁ ∧ r₁.run tokens = .ok r' := by
  rw [run_cons] at h
  exact exists_of_bind_eq_ok h

/-- What every step keeps is kept by a run. -/
lemma run_induction {P : Reading → Prop}
    (hstep : ∀ {r token r'}, r.step token = .ok r' → P r → P r')
    (h : r.run tokens = .ok r') (hr : P r) : P r' := by
  induction tokens generalizing r with
  | nil =>
    obtain rfl := Except.ok.inj h
    exact hr
  | cons first tokens ih =>
    cases first with
    | error cause => cases h
    | ok token =>
      obtain ⟨r₁, hfirst, hrest⟩ := exists_of_run_cons h
      exact ih hrest (hstep hfirst hr)

lemma not_mem_of_run (h : r.run tokens = .ok r') (cause : Error) : .error cause ∉ tokens := by
  intro hmem
  obtain ⟨front, back, rfl⟩ := List.append_of_mem hmem
  obtain ⟨r₁, -, hback⟩ := exists_of_run_append h
  cases hback

/-! ### The root -/

/-- What a token can do to the open elements and the root.  The flag says whether the token can
complete an element. -/
inductive Change : Reading → Bool → Reading → Prop
  | keep (r : Reading) : Change r false r
  | opening (r : Reading) (e : Element) : Change r false ⟨e :: r.opened, r.root⟩
  | text (e : Element) (more : String) (outer : List Element) (root : Option Element) :
      Change ⟨e :: outer, root⟩ false ⟨e.addText more :: outer, root⟩
  | single (r : Reading) (e : Element) : Change r true (r.complete e)
  | closing (e : Element) (outer : List Element) (root : Option Element) :
      Change ⟨e :: outer, root⟩ true (complete ⟨outer, root⟩ e)

lemma exists_of_step_opening (h : r.step (.opening content) = .ok r') :
    ∃ e, Element.ofTag content = .ok e ∧ r' = ⟨e :: r.opened, r.root⟩ := by
  obtain ⟨e, he, hr'⟩ := exists_of_bind_eq_ok h
  exact ⟨e, he, (Except.ok.inj hr').symm⟩

lemma exists_of_step_single (h : r.step (.single content) = .ok r') :
    ∃ e, Element.ofTag content = .ok e ∧ r' = r.complete e := by
  obtain ⟨e, he, hr'⟩ := exists_of_bind_eq_ok h
  exact ⟨e, he, (Except.ok.inj hr').symm⟩

lemma exists_of_step_closing (h : r.step (.closing content) = .ok r') :
    ∃ e outer, r.opened = e :: outer ∧ String.ofList (closedName content) = e.name ∧
      r' = complete ⟨outer, r.root⟩ e := by
  obtain ⟨opened, root⟩ := r
  cases opened with
  | nil => cases h
  | cons e outer =>
    simp only [step] at h
    split_ifs at h with hname
    exact ⟨e, outer, rfl, hname, (Except.ok.inj h).symm⟩

lemma change_of_step (h : r.step token = .ok r') : Change r token.completes r' := by
  cases token with
  | silent =>
    obtain rfl := Except.ok.inj h
    exact .keep r
  | opening content =>
    obtain ⟨e, -, rfl⟩ := exists_of_step_opening h
    exact .opening r e
  | single content =>
    obtain ⟨e, -, rfl⟩ := exists_of_step_single h
    exact .single r e
  | closing content =>
    obtain ⟨e, outer, hopened, -, rfl⟩ := exists_of_step_closing h
    obtain ⟨opened, root⟩ := r
    subst hopened
    exact .closing e outer root
  | text raw =>
    obtain ⟨opened, root⟩ := r
    cases opened with
    | nil =>
      obtain rfl := Except.ok.inj h
      exact .keep _
    | cons e outer =>
      simp only [step] at h
      split at h
      · next more _ =>
        obtain rfl := Except.ok.inj h
        exact .text e more outer root
      · cases h
  | cdata content =>
    obtain ⟨opened, root⟩ := r
    cases opened with
    | nil =>
      obtain rfl := Except.ok.inj h
      exact .keep _
    | cons e outer =>
      obtain rfl := Except.ok.inj h
      exact .text e _ outer root

lemma Change.root_eq (h : Change r false r') : r'.root = r.root := by
  cases h <;> rfl

lemma complete_root (h : r.root = some e) (e' : Element) : (r.complete e').root = some e := by
  obtain ⟨opened, root⟩ := r
  cases opened with
  | nil =>
    obtain rfl : root = some e := h
    rfl
  | cons parent outer => exact h

lemma Change.root {completes : Bool} (h : Change r completes r') (hroot : r.root = some e) :
    r'.root = some e := by
  cases h with
  | keep | opening | text => exact hroot
  | single r e' => exact complete_root hroot e'
  | closing e' outer root => exact complete_root (r := ⟨outer, root⟩) hroot e'

/-- The first element that is complete at the top stays the root. -/
lemma root_of_run (h : r.run tokens = .ok r') (hroot : r.root = some e) : r'.root = some e :=
  run_induction (fun hstep => (change_of_step hstep).root) h hroot

/-- The tag of `e` is that of the root, or of the outermost open element if there is no root. -/
def HasTag (e : Element) (r : Reading) : Prop :=
  ∃ e', r.root.or r.opened.getLast? = some e' ∧ e'.name = e.name ∧ e'.attributes = e.attributes

section HasTag

variable {e₁ e₂ : Element} {outer : List Element} {root : Option Element}

lemma HasTag.push (h : HasTag e r) (e₁ : Element) : HasTag e ⟨e₁ :: r.opened, r.root⟩ := by
  obtain ⟨e', he', hsame⟩ := h
  refine ⟨e', ?_, hsame⟩
  cases hroot : r.root with
  | some e'' => rwa [hroot] at he'
  | none =>
    rw [hroot, Option.none_or] at he'
    rw [Option.none_or, List.getLast?_cons, he']
    rfl

lemma HasTag.replace (h : HasTag e ⟨e₁ :: outer, root⟩) (hname : e₂.name = e₁.name)
    (hattributes : e₂.attributes = e₁.attributes) : HasTag e ⟨e₂ :: outer, root⟩ := by
  obtain ⟨e', he', hsame⟩ := h
  simp only [List.getLast?_cons] at he'
  cases root with
  | some e'' => exact ⟨e', he', hsame⟩
  | none =>
    cases hlast : outer.getLast? with
    | some e'' =>
      rw [hlast] at he'
      exact ⟨e', by simpa [List.getLast?_cons, hlast] using he', hsame⟩
    | none =>
      rw [hlast] at he'
      obtain rfl := Option.some.inj he'
      exact ⟨e₂, by simp [List.getLast?_cons, hlast], hname.trans hsame.1,
        hattributes.trans hsame.2⟩

lemma HasTag.pop (h : HasTag e ⟨e₁ :: e₂ :: outer, root⟩) : HasTag e ⟨e₂ :: outer, root⟩ := by
  obtain ⟨e', he', hsame⟩ := h
  refine ⟨e', ?_, hsame⟩
  rwa [List.getLast?_cons_cons] at he'

lemma HasTag.complete (h : HasTag e r) (e₁ : Element) : HasTag e (r.complete e₁) := by
  obtain ⟨opened, root⟩ := r
  cases opened with
  | nil =>
    obtain ⟨e', he', hsame⟩ := h
    obtain rfl : root = some e' := by simpa using he'
    exact ⟨e', rfl, hsame⟩
  | cons parent outer => exact h.replace rfl rfl

lemma HasTag.of_change {completes : Bool} (htag : HasTag e r) (h : Change r completes r') :
    HasTag e r' := by
  cases h with
  | keep => exact htag
  | opening r e₁ => exact htag.push e₁
  | text e₁ more outer root => exact htag.replace rfl rfl
  | single r e₁ => exact htag.complete e₁
  | closing e₁ outer root =>
    cases outer with
    | nil =>
      obtain ⟨e', he', hsame⟩ := htag
      refine ⟨e', ?_, hsame⟩
      cases root <;> simpa [Reading.complete] using he'
    | cons parent outer => exact htag.pop.complete e₁

end HasTag

end Reading

/-! ### Reading a text that breaks off -/

variable {e e' : Element}

lemma exists_run_of_read {text : String} (h : read text = .ok e) :
    ∃ r, Reading.start.run (Token.scan (dropByteOrderMark text.toList)) = .ok r ∧
      r.root = some e := by
  obtain ⟨r, hr, hroot⟩ := exists_of_bind_eq_ok h
  refine ⟨r, hr, ?_⟩
  split at hroot
  · next root hsome =>
    rw [hsome, Except.ok.inj hroot]
  · cases hroot

lemma prefix_dropByteOrderMark {p s : List Char} (h : p <+: s) :
    dropByteOrderMark p <+: dropByteOrderMark s := by
  cases p with
  | nil => exact List.nil_prefix
  | cons c p =>
    obtain ⟨q, rfl⟩ := h
    rw [List.cons_append, dropByteOrderMark, dropByteOrderMark]
    split_ifs
    · exact List.prefix_append p q
    · exact List.prefix_append (c :: p) q

/-- A text breaks off right after a slash in a tag that stands outside all elements, with no element
before it, and this tag goes on in the longer text. -/
def BreaksOffInRoot (p s : List Char) : Prop :=
  ∃ earlier content token later, Token.scan p = earlier ++ [.ok (.single content)] ∧
    Token.scan s = earlier ++ .ok token :: later ∧ Token.PastSlash content token ∧
    Reading.start.run earlier = .ok Reading.start

section Tokens

open Reading (start)

variable {earlier tail later : List (Except Error Token)} {token token' : Token}
  {content : List Char} {r r₁ r₂ : Reading}

lemma root_eq_of_run (hr : r.root = some e') (hrun : r.run tail = .ok r₂)
    (hroot : r₂.root = some e) : e = e' := by
  rw [Reading.root_of_run hrun hr] at hroot
  exact (Option.some.inj hroot).symm

/-- If the last token of a text that breaks off leaves a root, the whole text has this root, unless
the token is a tag that breaks off after a slash and nothing was read before. -/
lemma root_eq_of_goesOn (hstep : r.step token = .ok r₁) (hroot : r₁.root = some e')
    (hgoes : Token.GoesOn token token') (htail : r.run (.ok token' :: later) = .ok r₂)
    (hroot' : r₂.root = some e) :
    e = e' ∨ r = start ∧ ∃ content, token = .single content ∧ Token.PastSlash content token' := by
  obtain ⟨r', hstep', hlater⟩ := Reading.exists_of_run_cons htail
  cases hgoes with
  | same =>
    rw [hstep] at hstep'
    obtain rfl := Except.ok.inj hstep'
    exact Or.inl (root_eq_of_run hroot hlater hroot')
  | closing content more =>
    -- both end tags name the innermost open element, and both complete it
    obtain ⟨e₁, outer, hopened, -, rfl⟩ := Reading.exists_of_step_closing hstep
    obtain ⟨e₂, outer', hopened', -, rfl⟩ := Reading.exists_of_step_closing hstep'
    rw [hopened] at hopened'
    obtain ⟨rfl, rfl⟩ := List.cons.inj hopened'
    exact Or.inl (root_eq_of_run hroot hlater hroot')
  | @tag content _ hpast =>
    obtain ⟨e₁, -, rfl⟩ := Reading.exists_of_step_single hstep
    obtain ⟨opened, root⟩ := r
    cases root with
    | some e₂ =>
      have hsame := Reading.complete_root (r := ⟨opened, some e₂⟩) rfl e₁
      rw [hsame] at hroot
      exact Or.inl (root_eq_of_run hroot htail hroot')
    | none =>
      cases opened with
      | nil => exact Or.inr ⟨rfl, content, rfl, hpast⟩
      | cons parent outer => cases hroot

/-- A tag that goes on gives the root another tag. -/
lemma root_ne_of_pastSlash (hstep : start.step (.single content) = .ok r₁)
    (hroot : r₁.root = some e') (hpast : Token.PastSlash content token)
    (htail : start.run (.ok token :: later) = .ok r₂) (hroot' : r₂.root = some e) : e ≠ e' := by
  obtain ⟨e₁, htag, rfl⟩ := Reading.exists_of_step_single hstep
  obtain rfl : e₁ = e' := Option.some.inj hroot
  obtain ⟨r', hstep', hlater⟩ := Reading.exists_of_run_cons htail
  obtain ⟨more, e₂, htag', hfirst⟩ : ∃ more e₂,
      Element.ofTag (content ++ '/' :: more) = .ok e₂ ∧ Reading.HasTag e₂ r' := by
    cases hpast with
    | single more =>
      obtain ⟨e₂, htag', rfl⟩ := Reading.exists_of_step_single hstep'
      exact ⟨more, e₂, htag', e₂, rfl, rfl, rfl⟩
    | opening more =>
      obtain ⟨e₂, htag', rfl⟩ := Reading.exists_of_step_opening hstep'
      exact ⟨more, e₂, htag', e₂, rfl, rfl, rfl⟩
  obtain ⟨e₃, he₃, hname, hattributes⟩ : Reading.HasTag e₂ r₂ :=
    Reading.run_induction (fun hstep htag => htag.of_change (Reading.change_of_step hstep)) hlater
      hfirst
  rw [hroot', Option.some_or] at he₃
  obtain rfl := Option.some.inj he₃
  rintro rfl
  rcases tag_ne_of_ofTag_append htag htag' with hne | hne
  · exact hne hname
  · exact hne hattributes

variable {p s : List Char}

lemma root_ne_of_breaksOff (h : BreaksOffInRoot p s) (hp : start.run (Token.scan p) = .ok r₁)
    (hroot : r₁.root = some e') (hs : start.run (Token.scan s) = .ok r₂)
    (hroot' : r₂.root = some e) : e ≠ e' := by
  obtain ⟨earlier, content, token, later, hshort, hlong, hpast, hearlier⟩ := h
  rw [hshort] at hp
  rw [hlong] at hs
  obtain ⟨r, hr, hlast⟩ := Reading.exists_of_run_append hp
  obtain ⟨r', hr', hlater⟩ := Reading.exists_of_run_append hs
  rw [hearlier] at hr hr'
  obtain rfl := Except.ok.inj hr
  obtain rfl := Except.ok.inj hr'
  obtain ⟨r₃, hstep, hnil⟩ := Reading.exists_of_run_cons hlast
  obtain rfl := Except.ok.inj hnil
  exact root_ne_of_pastSlash hstep hroot hpast hlater hroot'

lemma root_eq_of_prefix (h : p <+: s) (hwhole : ¬ BreaksOffInRoot p s)
    (hp : start.run (Token.scan p) = .ok r₁) (hroot : r₁.root = some e')
    (hs : start.run (Token.scan s) = .ok r₂) (hroot' : r₂.root = some e) : e = e' := by
  obtain ⟨q, rfl⟩ := h
  rcases Token.scan_append_cases p q with ⟨cause, hfault⟩ | ⟨later, hlater⟩ |
    ⟨earlier, token, tail, hshort, hlong, hlast⟩
  · exact absurd hfault (Reading.not_mem_of_run hp cause)
  · rw [← hlater] at hs
    obtain ⟨r, hr, htail⟩ := Reading.exists_of_run_append hs
    rw [hp] at hr
    obtain rfl := Except.ok.inj hr
    exact root_eq_of_run hroot htail hroot'
  · rw [hshort] at hp
    rw [hlong] at hs
    obtain ⟨r, hr, hone⟩ := Reading.exists_of_run_append hp
    obtain ⟨r', hr', htail⟩ := Reading.exists_of_run_append hs
    rw [hr] at hr'
    obtain rfl := Except.ok.inj hr'
    obtain ⟨r₃, hstep, hnil⟩ := Reading.exists_of_run_cons hone
    obtain rfl := Except.ok.inj hnil
    cases hcompletes : token.completes with
    | false =>
      have hchange := Reading.change_of_step hstep
      rw [hcompletes] at hchange
      rw [hchange.root_eq] at hroot
      exact root_eq_of_run hroot htail hroot'
    | true =>
      obtain ⟨token', later, rfl, hgoes⟩ := hlast hcompletes
      rcases root_eq_of_goesOn hstep hroot hgoes htail hroot' with hsame |
        ⟨rfl, content, rfl, hpast⟩
      · exact hsame
      · exact absurd ⟨earlier, content, token', later, hshort, hlong, hpast, hr⟩ hwhole

end Tokens

/-- If both a text and its part up to where it breaks off can be read, the elements are the same,
except when the text breaks off after a slash in the tag of the root. -/
theorem read_prefix_eq_iff {p s : String} (h : p.toList <+: s.toList) (hs : read s = .ok e)
    (hp : read p = .ok e') :
    e = e' ↔ ¬ BreaksOffInRoot (dropByteOrderMark p.toList) (dropByteOrderMark s.toList) := by
  obtain ⟨r₁, hrun, hroot⟩ := exists_run_of_read hp
  obtain ⟨r₂, hrun', hroot'⟩ := exists_run_of_read hs
  constructor
  · intro hsame hbreaks
    exact root_ne_of_breaksOff hbreaks hrun hroot hrun' hroot' hsame
  · intro hwhole
    exact root_eq_of_prefix (prefix_dropByteOrderMark h) hwhole hrun hroot hrun' hroot'

/-- A note without the bracket at its very end is read as the same note, and does not break off in
the tag of its root. -/
theorem read_prefix_eq_iff_note :
    ∃ e, "<note><to>Ann</to></note".toList <+: "<note><to>Ann</to></note>\n".toList ∧
      read "<note><to>Ann</to></note>\n" = .ok e ∧ read "<note><to>Ann</to></note" = .ok e ∧
      ¬ BreaksOffInRoot (dropByteOrderMark "<note><to>Ann</to></note".toList)
        (dropByteOrderMark "<note><to>Ann</to></note>\n".toList) := by
  have hprefix : "<note><to>Ann</to></note".toList <+: "<note><to>Ann</to></note>\n".toList := by
    decide
  have hlong : read "<note><to>Ann</to></note>\n" =
      .ok ⟨"note", Table.empty, [⟨"to", Table.empty, [], "Ann"⟩], ""⟩ := by cbv
  have hshort : read "<note><to>Ann</to></note" =
      .ok ⟨"note", Table.empty, [⟨"to", Table.empty, [], "Ann"⟩], ""⟩ := by cbv
  exact ⟨_, hprefix, hlong, hshort, (read_prefix_eq_iff hprefix hlong hshort).1 rfl⟩

/-- A text that breaks off after a slash can be read as another element. -/
theorem not_forall_read_prefix_eq :
    ¬ ∀ (s p : String) (e e' : Element), p.toList <+: s.toList → read s = .ok e →
      read p = .ok e' → e = e' := by
  intro h
  have hlong : read "<a/b/>" = .ok ⟨"a/b", Table.empty, [], ""⟩ := by cbv
  have hshort : read "<a/" = .ok ⟨"a", Table.empty, [], ""⟩ := by cbv
  have hsame := h _ _ _ _ (by decide) hlong hshort
  simp at hsame

end Walkthrough.Markup
