import Mathlib
import Walkthrough.Proofs.Outlines

/-!
# The text of an element

An element has its text in several runs if comments, other elements or references to raw data stand
in it.  One would expect that the blanks around the text as a whole are taken away and those inside
stay.  Main statement: the blanks around every single run are taken away, so that the text is the
expected one just if this takes nothing from between two pieces of it, and the pieces themselves
do not bring blanks to its ends.
-/

namespace Walkthrough.Markup

open Text (Trimmed stripWhile)

/-! ### Runs in a text -/

/-- Whether a part gives text to the element in which it stands. -/
def Part.Speaks : Part → Prop
  | run raw => ¬ IsGap raw
  | cdata content => content ≠ []
  | silent | element _ _ => False

/-- Whether some parts give text. -/
def Speak (parts : List Part) : Prop := ∃ part ∈ parts, part.Speaks

/-- Whether a run starts with a blank. -/
def StartsBlank (raw : List Char) : Prop := ∃ c ∈ raw.head?, isSpace c = true

/-- Whether a run ends with a blank. -/
def EndsBlank (raw : List Char) : Prop := ∃ c ∈ raw.getLast?, isSpace c = true

/-- Pieces of text are glued together: there is a blank between two of them, at the front or at the
back of a run. -/
inductive Glued (parts : List Part) : Prop
  | front {before after : List Part} {raw : List Char}
      (hparts : parts = before ++ .run raw :: after) (hblank : StartsBlank raw)
      (hbefore : Speak before) (hafter : Speak (.run raw :: after))
  | back {before after : List Part} {raw : List Char}
      (hparts : parts = before ++ .run raw :: after) (hblank : EndsBlank raw)
      (hbefore : Speak (before ++ [.run raw])) (hafter : Speak after)

/-- The text of an element as one would expect it: that of its parts, without the blanks around
it. -/
def expectedText (parts : List Part) : Except ReferenceError (List Char) :=
  (dataOf id parts).map (stripWhile isSpace)

variable {s t name rest gap gap' raw chars kept : List Char} {parts before after inner : List Part}
  {part : Part} {total total' : Nat} {text : String} {e : Element} {c : Char}

lemma speak_cons : Speak (part :: parts) ↔ part.Speaks ∨ Speak parts := List.exists_mem_cons_iff ..

/-! ### Runs with blanks around them -/

lemma isGap_nil : IsGap [] := fun _ hc => absurd hc List.not_mem_nil

section Runs

lemma ne_ampersand_of_isSpace (hc : isSpace c = true) : c ≠ '&' := by
  rintro rfl
  exact absurd hc (by decide)

/-- Which character a reference stands for does not depend on its place. -/
lemma referenced_congr {first last : Nat} (h : referenced first last name = .ok c)
    (first' last' : Nat) : referenced first' last' name = .ok c := by
  unfold referenced at h ⊢
  split at h
  · obtain ⟨code, hcode, h⟩ := exists_of_bind_eq_ok h
    simp only [hcode]
    split_ifs at h with hzero hvalid
    exact (if_neg hzero).trans ((if_pos hvalid).trans h)
  · split at h
    · simp [← h]
    · cases h

lemma reference?_append_of_some (h : reference? s = some (name, rest)) (t : List Char) :
    reference? (s ++ t) = some (name, rest ++ t) := by
  induction s generalizing name with
  | nil => cases h
  | cons c s ih =>
    rw [reference?] at h
    rw [List.cons_append, reference?]
    split_ifs at h ⊢ with hsemicolon hampersand
    · obtain ⟨rfl, rfl⟩ := Prod.mk.inj (Option.some.inj h)
      rfl
    · obtain ⟨⟨name', rest'⟩, hfound, heq⟩ := Option.map_eq_some_iff.1 h
      obtain ⟨rfl, rfl⟩ := Prod.mk.inj heq
      rw [ih hfound, Option.map_some]

lemma unescapeFrom_of_referenced {first last : Nat} (hfound : reference? s = some (name, rest))
    (hc : referenced first last name = .ok c) (hrest : unescapeFrom total rest = .ok chars) :
    unescapeFrom total ('&' :: s) = .ok (c :: chars) := by
  rw [unescapeFrom, if_pos rfl]
  split
  · next hnone =>
    rw [hnone] at hfound
    cases hfound
  · next name' rest' hsome =>
    rw [hsome] at hfound
    obtain ⟨rfl, rfl⟩ := Prod.mk.inj (Option.some.inj hfound)
    simp only [referenced_congr hc, hrest]
    rfl

lemma unescapeFrom_append_gap (hgap : IsGap gap) (h : unescapeFrom total s = .ok chars)
    (total' : Nat) : unescapeFrom total' (s ++ gap) = .ok (chars ++ gap) := by
  fun_induction unescapeFrom total s generalizing chars with
  | case1 =>
    obtain rfl := Except.ok.inj h
    rw [List.nil_append]
    induction gap with
    | nil => rw [unescapeFrom]
    | cons c gap ih =>
      rw [IsGap, List.forall_mem_cons] at hgap
      rw [unescapeFrom_plain (ne_ampersand_of_isSpace hgap.1), ih hgap.2]
      rfl
  | case2 s hnone => cases h
  | case3 s name rest hfound =>
    rename_i ih
    obtain ⟨c, hc, h⟩ := exists_of_bind_eq_ok h
    obtain ⟨later, hlater, h⟩ := exists_of_bind_eq_ok h
    obtain rfl := Except.ok.inj h
    exact unescapeFrom_of_referenced (reference?_append_of_some hfound gap) hc (ih hlater)
  | case4 c s hc ih =>
    obtain ⟨later, hlater, h⟩ := exists_of_bind_eq_ok h
    obtain rfl := Except.ok.inj h
    rw [List.cons_append, unescapeFrom_plain hc, ih hlater]
    rfl

lemma unescapeFrom_gap_append (hgap : IsGap gap) (h : unescapeFrom total s = .ok chars) :
    unescapeFrom total (gap ++ s) = .ok (gap ++ chars) := by
  induction gap with
  | nil => exact h
  | cons c gap ih =>
    rw [IsGap, List.forall_mem_cons] at hgap
    rw [List.cons_append, unescapeFrom_plain (ne_ampersand_of_isSpace hgap.1), ih hgap.2]
    rfl

lemma unescape_eq_ok : unescape s = .ok text ↔ unescapeFrom (byteLength s) s = .ok text.toList := by
  rw [unescape]
  cases unescapeFrom (byteLength s) s with
  | error cause => simp [Except.map]
  | ok chars => simp [Except.map, ← String.toList_inj]

/-- Blanks around a run stay around it when its references are replaced. -/
lemma unescape_around (hgap : IsGap gap) (hgap' : IsGap gap') (h : unescape s = .ok text) :
    unescape (gap ++ (s ++ gap')) = .ok (String.ofList (gap ++ (text.toList ++ gap'))) := by
  rw [unescape_eq_ok] at h ⊢
  rw [String.toList_ofList]
  exact unescapeFrom_gap_append hgap (unescapeFrom_append_gap hgap' h _)

lemma toList_eq_nil_of_unescape (h : unescape s = .ok text) : text.toList = [] ↔ s = [] := by
  rw [unescape_eq_ok] at h
  generalize byteLength s = total at h
  constructor
  · intro hnil
    rw [hnil] at h
    cases s with
    | nil => rfl
    | cons c s =>
      -- a character or a reference at the front leaves a character
      rw [unescapeFrom] at h
      split_ifs at h
      · split at h
        · cases h
        · obtain ⟨c', -, h⟩ := exists_of_bind_eq_ok h
          obtain ⟨later, -, h⟩ := exists_of_bind_eq_ok h
          cases Except.ok.inj h
      · obtain ⟨later, -, h⟩ := exists_of_bind_eq_ok h
        cases Except.ok.inj h
  · rintro rfl
    rw [unescapeFrom] at h
    exact (Except.ok.inj h).symm

/-- Blanks around a list make no difference when it is trimmed. -/
lemma stripWhile_around (hgap : IsGap gap) (hgap' : IsGap gap') (s : List Char) :
    stripWhile isSpace (gap ++ (s ++ gap')) = stripWhile isSpace s := by
  obtain ⟨ws, ws', hs, hws, hws'⟩ := Text.exists_around_stripWhile isSpace s
  have hbetween := (Text.trimmed_stripWhile isSpace s).stripWhile_between
    (List.forall_mem_append.2 ⟨hgap, hws⟩) (List.forall_mem_append.2 ⟨hws', hgap'⟩)
  nth_rewrite 1 [hs]
  simpa using hbetween

lemma stripWhile_eq_nil : stripWhile isSpace raw = [] ↔ IsGap raw := by
  refine ⟨fun h => ?_, stripWhile_of_isGap⟩
  obtain ⟨ws, ws', hraw, hws, hws'⟩ := Text.exists_around_stripWhile isSpace raw
  rw [h, List.nil_append] at hraw
  rw [hraw]
  exact List.forall_mem_append.2 ⟨hws, hws'⟩

variable (h : unescape (stripWhile isSpace raw) = .ok text)

include h

/-- What is trimmed away from a run stands around the text that is read. -/
lemma exists_unescape : ∃ ws ws', IsGap ws ∧ IsGap ws' ∧ (ws ≠ [] → StartsBlank raw) ∧
    (ws' ≠ [] → EndsBlank raw) ∧
    unescape raw = .ok (String.ofList (ws ++ (text.toList ++ ws'))) := by
  obtain ⟨ws, ws', hraw, hws, hws'⟩ := Text.exists_around_stripWhile isSpace raw
  refine ⟨ws, ws', hws, hws', ?_, ?_, ?_⟩
  · intro hne
    obtain ⟨c, u, rfl⟩ := List.exists_cons_of_ne_nil hne
    exact ⟨c, by rw [hraw]; rfl, hws c List.mem_cons_self⟩
  · intro hne
    refine ⟨ws'.getLast hne, ?_, hws' _ (List.getLast_mem hne)⟩
    rw [hraw, ← List.append_assoc, List.getLast?_append_of_ne_nil _ hne]
    exact List.getLast_mem_getLast? hne
  · rw [← unescape_around hws hws' h, ← hraw]

/-- A blank at the front of a run is not read. -/
lemma exists_unescape_cons (hblank : StartsBlank raw) :
    ∃ c later, unescape raw = .ok (String.ofList (c :: later)) ∧ text.toList.Sublist later := by
  obtain ⟨c, hc, hspace⟩ := hblank
  obtain ⟨raw, rfl⟩ := List.head?_eq_some_iff.1 hc
  have hgap : IsGap [c] := by simpa [IsGap] using hspace
  have hstrip := stripWhile_around hgap isGap_nil raw
  rw [List.append_nil, List.singleton_append] at hstrip
  rw [hstrip] at h
  obtain ⟨ws, ws', -, -, -, -, hraw⟩ := exists_unescape h
  have hwhole := unescape_around hgap isGap_nil hraw
  rw [String.toList_ofList, List.append_nil, List.append_nil] at hwhole
  exact ⟨c, _, hwhole, (List.sublist_append_left _ _).trans (List.sublist_append_right _ _)⟩

/-- Nor is one at its back. -/
lemma exists_unescape_concat (hblank : EndsBlank raw) :
    ∃ earlier c, unescape raw = .ok (String.ofList (earlier ++ [c])) ∧
      text.toList.Sublist earlier := by
  obtain ⟨c, hc, hspace⟩ := hblank
  obtain ⟨raw, rfl⟩ := List.getLast?_eq_some_iff.1 hc
  have hgap : IsGap [c] := by simpa [IsGap] using hspace
  have hstrip := stripWhile_around isGap_nil hgap raw
  rw [List.nil_append] at hstrip
  rw [hstrip] at h
  obtain ⟨ws, ws', -, -, -, -, hraw⟩ := exists_unescape h
  have hwhole := unescape_around isGap_nil hgap hraw
  rw [String.toList_ofList, List.nil_append, List.nil_append] at hwhole
  exact ⟨_, c, hwhole, (List.sublist_append_left _ _).trans (List.sublist_append_right _ _)⟩

end Runs

/-! ### The parts of an element -/

section Parts

lemma dataOf_append_eq_ok {edit : List Char → List Char} :
    dataOf edit (before ++ after) = .ok chars ↔ ∃ first later, dataOf edit before = .ok first ∧
      dataOf edit after = .ok later ∧ chars = first ++ later := by
  induction before generalizing chars with
  | nil => simp [dataOf]
  | cons part before ih =>
    cases part with
    | run raw =>
      rw [List.cons_append, dataOf_run_eq_ok]
      simp only [ih, dataOf_run_eq_ok]
      constructor
      · rintro ⟨first, -, hfirst, ⟨second, later, hsecond, hlater, rfl⟩, rfl⟩
        exact ⟨_, later, ⟨first, second, hfirst, hsecond, rfl⟩, hlater,
          (List.append_assoc _ _ _).symm⟩
      · rintro ⟨-, later, ⟨first, second, hfirst, hsecond, rfl⟩, hlater, rfl⟩
        exact ⟨first, _, hfirst, ⟨second, later, hsecond, hlater, rfl⟩, List.append_assoc _ _ _⟩
    | cdata content =>
      rw [List.cons_append, dataOf_cdata_eq_ok]
      simp only [ih, dataOf_cdata_eq_ok]
      constructor
      · rintro ⟨-, ⟨second, later, hsecond, hlater, rfl⟩, rfl⟩
        exact ⟨_, later, ⟨second, hsecond, rfl⟩, hlater, (List.append_assoc _ _ _).symm⟩
      · rintro ⟨-, later, ⟨second, hsecond, rfl⟩, hlater, rfl⟩
        exact ⟨_, ⟨second, later, hsecond, hlater, rfl⟩, List.append_assoc _ _ _⟩
    | silent => exact ih
    | element tag inner => exact ih

variable (h : dataOf (stripWhile isSpace) parts = .ok kept)

include h

/-- Only parts that give text leave something of it. -/
lemma eq_nil_iff_not_speak : kept = [] ↔ ¬ Speak parts := by
  induction parts generalizing kept with
  | nil =>
    obtain rfl := Except.ok.inj h
    simp [Speak]
  | cons part parts ih =>
    rw [speak_cons, not_or]
    cases part with
    | run raw =>
      obtain ⟨first, later, hfirst, hlater, rfl⟩ := dataOf_run_eq_ok.1 h
      rw [List.append_eq_nil_iff, ih hlater, toList_eq_nil_of_unescape hfirst, stripWhile_eq_nil,
        Part.Speaks, not_not]
    | cdata content =>
      obtain ⟨later, hlater, rfl⟩ := dataOf_cdata_eq_ok.1 h
      rw [List.append_eq_nil_iff, ih hlater, Part.Speaks, ne_eq, not_not]
    | silent => simpa [Part.Speaks] using ih h
    | element tag inner => simpa [Part.Speaks] using ih h

/-- The whole text of some parts has what is read of it, and nothing but blanks if nothing is. -/
lemma exists_whole : ∃ whole, dataOf id parts = .ok whole ∧ kept.Sublist whole ∧
    (¬ Speak parts → IsGap whole) := by
  induction parts generalizing kept with
  | nil =>
    obtain rfl := Except.ok.inj h
    exact ⟨[], rfl, List.Sublist.refl _, fun _ => isGap_nil⟩
  | cons part parts ih =>
    rw [speak_cons, not_or]
    cases part with
    | run raw =>
      obtain ⟨first, later, hfirst, hlater, rfl⟩ := dataOf_run_eq_ok.1 h
      obtain ⟨whole, hwhole, hsub, hblank⟩ := ih hlater
      obtain ⟨ws, ws', hws, hws', -, -, hraw⟩ := exists_unescape hfirst
      refine ⟨_, dataOf_run_eq_ok.2 ⟨_, whole, hraw, hwhole, rfl⟩, ?_, ?_⟩
      · rw [String.toList_ofList]
        exact ((List.sublist_append_left _ _).trans (List.sublist_append_right _ _)).append hsub
      · rintro ⟨hsilent, hrest⟩
        have hnil : first.toList = [] := by
          rw [toList_eq_nil_of_unescape hfirst, stripWhile_eq_nil]
          exact not_not.1 hsilent
        rw [String.toList_ofList, hnil, List.nil_append]
        exact List.forall_mem_append.2 ⟨List.forall_mem_append.2 ⟨hws, hws'⟩, hblank hrest⟩
    | cdata content =>
      obtain ⟨later, hlater, rfl⟩ := dataOf_cdata_eq_ok.1 h
      obtain ⟨whole, hwhole, hsub, hblank⟩ := ih hlater
      refine ⟨_, dataOf_cdata_eq_ok.2 ⟨whole, hwhole, rfl⟩, hsub.append_left content, ?_⟩
      rintro ⟨hsilent, hrest⟩
      rw [not_not.1 hsilent, List.nil_append]
      exact hblank hrest
    | silent =>
      obtain ⟨whole, hwhole, hsub, hblank⟩ := ih h
      exact ⟨whole, hwhole, hsub, fun hsilent => hblank hsilent.2⟩
    | element tag inner =>
      obtain ⟨whole, hwhole, hsub, hblank⟩ := ih h
      exact ⟨whole, hwhole, hsub, fun hsilent => hblank hsilent.2⟩

/-- Behind other text, blanks are taken away at the end only if none stands before text. -/
lemma exists_whole_behind (hclear : ∀ before raw after, parts = before ++ .run raw :: after →
    (StartsBlank raw → ¬ Speak (.run raw :: after)) ∧ (EndsBlank raw → ¬ Speak after)) :
    ∃ ws, IsGap ws ∧ dataOf id parts = .ok (kept ++ ws) := by
  induction parts generalizing kept with
  | nil =>
    obtain rfl := Except.ok.inj h
    exact ⟨[], isGap_nil, rfl⟩
  | cons part parts ih =>
    have hlater : ∀ before raw after, parts = before ++ .run raw :: after →
        (StartsBlank raw → ¬ Speak (.run raw :: after)) ∧ (EndsBlank raw → ¬ Speak after) := by
      rintro before raw after rfl
      exact hclear (part :: before) raw after rfl
    cases part with
    | run raw =>
      obtain ⟨first, later, hfirst, hrest, rfl⟩ := dataOf_run_eq_ok.1 h
      obtain ⟨ws, hws, hwhole⟩ := ih hrest hlater
      obtain ⟨front, back, hfront, hback, hstarts, hends, hraw⟩ := exists_unescape hfirst
      obtain ⟨hbefore, hafter⟩ := hclear [] raw parts rfl
      have hdata := dataOf_run_eq_ok.2 ⟨_, _, hraw, hwhole, rfl⟩
      rw [String.toList_ofList] at hdata
      by_cases hspeak : Speak (.run raw :: parts)
      · -- nothing is taken from the front, for text follows
        obtain rfl : front = [] := by
          by_contra hne
          exact hbefore (hstarts hne) hspeak
        by_cases hparts : Speak parts
        · obtain rfl : back = [] := by
            by_contra hne
            exact hafter (hends hne) hparts
          exact ⟨ws, hws, by simpa using hdata⟩
        · obtain rfl := (eq_nil_iff_not_speak hrest).2 hparts
          exact ⟨back ++ ws, List.forall_mem_append.2 ⟨hback, hws⟩, by simpa using hdata⟩
      · obtain ⟨whole, hwhole, -, hblank⟩ := exists_whole h
        rw [(eq_nil_iff_not_speak h).2 hspeak]
        exact ⟨whole, hblank hspeak, hwhole⟩
    | cdata content =>
      obtain ⟨later, hrest, rfl⟩ := dataOf_cdata_eq_ok.1 h
      obtain ⟨ws, hws, hwhole⟩ := ih hrest hlater
      exact ⟨ws, hws, dataOf_cdata_eq_ok.2 ⟨_, hwhole, List.append_assoc _ _ _⟩⟩
    | silent => exact ih h hlater
    | element tag inner => exact ih h hlater

/-- Unless pieces are glued together, blanks are taken away at the two ends only. -/
lemma exists_whole_around (hglued : ¬ Glued parts) :
    ∃ ws ws', IsGap ws ∧ IsGap ws' ∧ dataOf id parts = .ok (ws ++ (kept ++ ws')) := by
  induction parts generalizing kept with
  | nil =>
    obtain rfl := Except.ok.inj h
    exact ⟨[], [], isGap_nil, isGap_nil, rfl⟩
  | cons part parts ih =>
    have hlater : ¬ Glued parts := by
      have hmore : ∀ others, Speak others → Speak (part :: others) := by
        intro others hothers
        exact speak_cons.2 (Or.inr hothers)
      rintro (⟨rfl, hblank, hbefore, hafter⟩ | ⟨rfl, hblank, hbefore, hafter⟩)
      · exact hglued (.front (List.cons_append ..).symm hblank (hmore _ hbefore) hafter)
      · exact hglued (.back (List.cons_append ..).symm hblank (hmore _ hbefore) hafter)
    -- behind a part with text, a blank before text would be one between two pieces
    have hclear : part.Speaks → ∀ before raw after, parts = before ++ .run raw :: after →
        (StartsBlank raw → ¬ Speak (.run raw :: after)) ∧ (EndsBlank raw → ¬ Speak after) := by
      rintro hspeaks before raw after rfl
      have hfront : ∀ others, Speak (part :: others) := fun others => speak_cons.2 (Or.inl hspeaks)
      constructor
      · intro hblank hafter
        exact hglued (.front (List.cons_append ..).symm hblank (hfront _) hafter)
      · intro hblank hafter
        exact hglued (.back (List.cons_append ..).symm hblank (hfront _) hafter)
    cases part with
    | run raw =>
      obtain ⟨first, later, hfirst, hrest, rfl⟩ := dataOf_run_eq_ok.1 h
      obtain ⟨front, back, hfront, hback, -, hends, hraw⟩ := exists_unescape hfirst
      by_cases hspeaks : (Part.run raw).Speaks
      · obtain ⟨ws, hws, hwhole⟩ := exists_whole_behind hrest (hclear hspeaks)
        have hdata := dataOf_run_eq_ok.2 ⟨_, _, hraw, hwhole, rfl⟩
        rw [String.toList_ofList] at hdata
        by_cases hparts : Speak parts
        · obtain rfl : back = [] := by
            by_contra hne
            refine hglued (.back (List.nil_append _).symm (hends hne) ?_ hparts)
            exact speak_cons.2 (Or.inl hspeaks)
          exact ⟨front, ws, hfront, hws, by simpa using hdata⟩
        · obtain rfl := (eq_nil_iff_not_speak hrest).2 hparts
          refine ⟨front, back ++ ws, hfront, List.forall_mem_append.2 ⟨hback, hws⟩, ?_⟩
          simpa using hdata
      · obtain ⟨ws, ws', hws, hws', hwhole⟩ := ih hrest hlater
        have hnil : first.toList = [] := by
          rw [toList_eq_nil_of_unescape hfirst, stripWhile_eq_nil]
          exact not_not.1 hspeaks
        have hdata := dataOf_run_eq_ok.2 ⟨_, _, hraw, hwhole, rfl⟩
        rw [String.toList_ofList, hnil] at hdata
        refine ⟨front ++ (back ++ ws), ws', ?_, hws', ?_⟩
        · exact List.forall_mem_append.2 ⟨hfront, List.forall_mem_append.2 ⟨hback, hws⟩⟩
        · simpa [hnil] using hdata
    | cdata content =>
      obtain ⟨later, hrest, rfl⟩ := dataOf_cdata_eq_ok.1 h
      by_cases hspeaks : (Part.cdata content).Speaks
      · obtain ⟨ws, hws, hwhole⟩ := exists_whole_behind hrest (hclear hspeaks)
        refine ⟨[], ws, isGap_nil, hws, dataOf_cdata_eq_ok.2 ⟨_, hwhole, ?_⟩⟩
        rw [List.nil_append, List.append_assoc]
      · obtain ⟨ws, ws', hws, hws', hwhole⟩ := ih hrest hlater
        rw [not_not.1 hspeaks]
        exact ⟨ws, ws', hws, hws', dataOf_cdata_eq_ok.2 ⟨_, hwhole, rfl⟩⟩
    | silent => exact ih h hlater
    | element tag inner => exact ih h hlater

end Parts

/-! ### Blanks between pieces -/

section Lengths

variable {x y ws front back : List Char}

/-- What stands in a list and starts with no blank stands behind the blanks at its front. -/
lemma length_add_le (hsub : front.Sublist x) (hne : front ≠ [])
    (hfirst : ∀ c ∈ front.head?, isSpace c = false) (hws : IsGap ws) (hshared : ws <+: x ++ y) :
    ws.length + front.length ≤ x.length := by
  induction ws generalizing x with
  | nil => simpa using hsub.length_le
  | cons w ws ih =>
    rw [IsGap, List.forall_mem_cons] at hws
    cases x with
    | nil => exact absurd (List.sublist_nil.1 hsub) hne
    | cons w' x =>
      rw [List.cons_append, List.cons_prefix_cons] at hshared
      obtain ⟨rfl, hshared⟩ := hshared
      have htail : front.Sublist x := by
        obtain ⟨c, front, rfl⟩ := List.exists_cons_of_ne_nil hne
        refine List.Sublist.of_cons_of_ne ?_ hsub
        rintro rfl
        have hc := hfirst _ rfl
        rw [hws.1] at hc
        cases hc
      have := ih htail hws.2 hshared
      simp only [List.length_cons]
      omega

/-- A blank between two pieces is not taken away with those at the two ends. -/
lemma stripWhile_ne_append (hx : front.Sublist x) (hy : back.Sublist y) (hfront : front ≠ [])
    (hback : back ≠ []) (c : Char) : stripWhile isSpace (x ++ c :: y) ≠ front ++ back := by
  intro h
  obtain ⟨ws, ws', hwhole, hws, hws'⟩ := Text.exists_around_stripWhile isSpace (x ++ c :: y)
  have htrimmed := Text.trimmed_stripWhile isSpace (x ++ c :: y)
  rw [h] at hwhole htrimmed
  have hleft : ws.length + front.length ≤ x.length := by
    refine length_add_le (y := c :: y) hx hfront ?_ hws ⟨_, hwhole.symm⟩
    intro d hd
    refine htrimmed.first d ?_
    rw [List.head?_append_of_ne_nil _ hfront]
    exact hd
  have hright : ws'.reverse.length + back.reverse.length ≤ y.reverse.length := by
    refine length_add_le (y := c :: x.reverse) hy.reverse (by simpa using hback) ?_
      (fun d hd => hws' d (List.mem_reverse.1 hd)) ?_
    · intro d hd
      rw [List.head?_reverse] at hd
      refine htrimmed.last d ?_
      rw [List.getLast?_append_of_ne_nil _ hback]
      exact hd
    · have hreverse := congrArg List.reverse hwhole
      simp only [List.reverse_append, List.reverse_cons, List.append_assoc, List.singleton_append]
        at hreverse
      rw [hreverse]
      exact List.prefix_append _ _
  have hlength := congrArg List.length hwhole
  simp only [List.length_append, List.length_cons, List.length_reverse] at hlength hright
  omega

end Lengths

/-! ### The text that is read and the expected one -/

lemma expectedText_ne_of_glued (h : dataOf (stripWhile isSpace) parts = .ok kept)
    (hglued : Glued parts) : expectedText parts ≠ .ok kept := by
  intro hexpected
  rw [expectedText] at hexpected
  cases hglued with
  | @front before after raw hparts hblank hbefore hafter =>
    rw [hparts] at h hexpected
    obtain ⟨kept₁, kept₂, h₁, h₂, rfl⟩ := dataOf_append_eq_ok.1 h
    have hne₁ : kept₁ ≠ [] := fun hnil => (eq_nil_iff_not_speak h₁).1 hnil hbefore
    have hne₂ : kept₂ ≠ [] := fun hnil => (eq_nil_iff_not_speak h₂).1 hnil hafter
    obtain ⟨first, later, hfirst, hlater, rfl⟩ := dataOf_run_eq_ok.1 h₂
    obtain ⟨x, hx, hsub, -⟩ := exists_whole h₁
    obtain ⟨c, u, hraw, hsub₁⟩ := exists_unescape_cons hfirst hblank
    obtain ⟨y, hy, hsub₂, -⟩ := exists_whole hlater
    have hrun := dataOf_run_eq_ok.2 ⟨_, y, hraw, hy, rfl⟩
    rw [dataOf_append_eq_ok.2 ⟨x, _, hx, hrun, rfl⟩, String.toList_ofList] at hexpected
    exact stripWhile_ne_append hsub (hsub₁.append hsub₂) hne₁ hne₂ c (Except.ok.inj hexpected)
  | @back before after raw hparts hblank hbefore hafter =>
    rw [hparts, List.append_cons] at h hexpected
    obtain ⟨kept₁, kept₂, h₁, h₂, rfl⟩ := dataOf_append_eq_ok.1 h
    have hne₁ : kept₁ ≠ [] := fun hnil => (eq_nil_iff_not_speak h₁).1 hnil hbefore
    have hne₂ : kept₂ ≠ [] := fun hnil => (eq_nil_iff_not_speak h₂).1 hnil hafter
    obtain ⟨kept₀, last, h₀, hlast, rfl⟩ := dataOf_append_eq_ok.1 h₁
    obtain ⟨first, none, hfirst, hnone, rfl⟩ := dataOf_run_eq_ok.1 hlast
    obtain rfl := Except.ok.inj hnone
    rw [List.append_nil] at hne₁ hexpected
    obtain ⟨x, hx, hsub, -⟩ := exists_whole h₀
    obtain ⟨u, c, hraw, hsub₁⟩ := exists_unescape_concat hfirst hblank
    obtain ⟨y, hy, hsub₂, -⟩ := exists_whole h₂
    have hrun : dataOf id [.run raw] = .ok _ := dataOf_run_eq_ok.2 ⟨_, [], hraw, rfl, rfl⟩
    have hfront := dataOf_append_eq_ok.2 ⟨x, _, hx, hrun, rfl⟩
    rw [dataOf_append_eq_ok.2 ⟨_, y, hfront, hy, rfl⟩] at hexpected
    refine stripWhile_ne_append (hsub.append hsub₁) hsub₂ hne₁ hne₂ c ?_
    simpa using Except.ok.inj hexpected

/-- The text that is read is the expected one just if it has no blanks at its ends and no blank is
taken from between two pieces of it. -/
lemma expectedText_eq_iff (h : dataOf (stripWhile isSpace) parts = .ok kept) :
    expectedText parts = .ok kept ↔ Trimmed isSpace kept ∧ ¬ Glued parts := by
  constructor
  · intro hexpected
    refine ⟨?_, fun hglued => expectedText_ne_of_glued h hglued hexpected⟩
    rw [expectedText] at hexpected
    cases hwhole : dataOf id parts with
    | error cause =>
      rw [hwhole] at hexpected
      cases hexpected
    | ok whole =>
      rw [hwhole] at hexpected
      rw [← Except.ok.inj hexpected]
      exact Text.trimmed_stripWhile isSpace whole
  · rintro ⟨htrimmed, hglued⟩
    obtain ⟨ws, ws', hws, hws', hwhole⟩ := exists_whole_around h hglued
    rw [expectedText, hwhole, Except.map, htrimmed.stripWhile_between hws hws']

/-- Every text that can be read has an outline, and along each of them the text of an element is
made of the runs and the raw data that stand directly in it, in their order, every run without the
blanks around it.  It is the text without the blanks around the whole just if no blank is at its
ends and none is lost between two pieces of it. -/
theorem text_of_read (h : read text = .ok e) :
    (∃ parts, Outline (dropByteOrderMark text.toList) parts) ∧
      ∀ parts, Outline (dropByteOrderMark text.toList) parts →
        Follows (fun inner content =>
          dataOf (stripWhile isSpace) inner = .ok content.toList ∧
            (expectedText inner = .ok content.toList ↔
              Trimmed isSpace content.toList ∧ ¬ Glued inner)) parts [e] := by
  refine ⟨exists_outline h, fun parts houtline => ?_⟩
  have hfollows := follows_of_read h houtline
  exact hfollows.imp fun inner content hread => ⟨hread, expectedText_eq_iff hread⟩

/-! ### A greeting -/

namespace Greeting

/-- A greeting of two words on two lines. -/
def written : String := "<greeting>Good <br/> morning</greeting>"

/-- The greeting as it is read. -/
def element : Element :=
  ⟨"greeting", Table.empty, [⟨"br", Table.empty, [], ""⟩], "Goodmorning"⟩

/-- What stands in the greeting. -/
def content : List Part :=
  [.run "Good ".toList, .element "br".toList [], .run " morning".toList]

lemma read_greeting : read written = .ok element := by cbv

lemma outline_written :
    Outline (dropByteOrderMark written.toList) [.element "greeting".toList content] := by
  have hopening : Token.markup? "greeting>Good <br/> morning</greeting>".toList =
      .ok (some (.opening "greeting".toList,
        "Good ".toList ++ '<' :: "br/> morning</greeting>".toList)) := by cbv
  have hbreak : Token.markup? "br/> morning</greeting>".toList =
      .ok (some (.single "br".toList, " morning".toList ++ '<' :: "/greeting>".toList)) := by cbv
  have hclosing : Token.markup? "/greeting>".toList =
      .ok (some (.closing "greeting".toList, [])) := by cbv
  have hcontent : Spelled content ("Good ".toList ++ '<' :: "br/> morning</greeting>".toList)
      ('<' :: "/greeting>".toList) := by
    refine .run (by decide) (by decide) (by simp) (.single hbreak ?_)
    exact .run (by decide) (by decide) (by simp) (.nil _)
  exact ⟨⟨[], _, _, rfl, by simp⟩, [], .paired hopening hcontent hclosing rfl (.nil [])⟩

end Greeting

/-- The greeting is read, and a blank of it is lost on either side of the line break. -/
theorem text_of_read_greeting :
    Greeting.element.text = "Goodmorning" ∧
      ∃ parts, Outline (dropByteOrderMark Greeting.written.toList) parts ∧
        Follows (fun inner content =>
          dataOf (stripWhile isSpace) inner = .ok content.toList ∧
            (expectedText inner = .ok content.toList ↔
              Trimmed isSpace content.toList ∧ ¬ Glued inner)) parts [Greeting.element] := by
  obtain ⟨⟨parts, houtline⟩, hfollows⟩ := text_of_read Greeting.read_greeting
  exact ⟨rfl, parts, houtline, hfollows parts houtline⟩

/-- The two words of the greeting are read as one. -/
theorem not_forall_expectedText :
    ¬ ∀ (text : String) (e : Element) (parts : List Part), read text = .ok e →
      Outline (dropByteOrderMark text.toList) parts →
      Follows (fun inner content => expectedText inner = .ok content.toList) parts [e] := by
  intro h
  have hfollows := h _ _ _ Greeting.read_greeting Greeting.outline_written
  cases hfollows with
  | element htag htext hinner hrest =>
    have hexpected : expectedText Greeting.content = .ok "Good  morning".toList := by cbv
    rw [hexpected] at htext
    exact absurd (Except.ok.inj htext) (by decide)

end Walkthrough.Markup
