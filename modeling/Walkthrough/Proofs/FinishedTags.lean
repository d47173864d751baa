import Walkthrough.Proofs.BrokenTokens

/-!
# Tags without their closing bracket

A tag is written between angle brackets, and the closing one can be missing at the end of a text:
the tag is then whatever is left of the text.  This file says what a finished tag looks like, and
that only the last token of a text can be a tag that is not finished.
-/

namespace Walkthrough.Markup.Token

variable {s rest content : List Char} {token : Token}

/-- Whether a token is a tag. -/
def isTag : Token → Bool
  | opening _ | single _ | closing _ => true
  | text _ | cdata _ | silent => false

/-- A tag as it is written when it is finished. -/
def spelling : Token → List Char
  | opening content => '<' :: (content ++ ['>'])
  | single content => '<' :: (content ++ ['/', '>'])
  | closing content => '<' :: '/' :: (content ++ ['>'])
  | text _ | cdata _ | silent => []

/-- Every tag of a text is finished. -/
inductive Finished : List Char → Prop
  | done {s : List Char} (h : next? s = .ok none) : Finished s
  | data {s rest : List Char} {token : Token} (h : next? s = .ok (some (token, rest)))
      (htoken : token.isTag = false) (hrest : Finished rest) : Finished s
  | tag {s rest : List Char} {token : Token} (h : next? s = .ok (some (token, rest)))
      (hspelling : s.dropWhile isSpace = token.spelling ++ rest) (hrest : Finished rest) :
      Finished s

/-! ### The two ways in which a tag ends -/

lemma tagContent_spelling_or_end (quote : Option Char) (s : List Char) :
    s = (tagContent quote s).1 ++ '>' :: (tagContent quote s).2 ∨ (tagContent quote s).2 = [] := by
  induction s generalizing quote with
  | nil => exact Or.inr rfl
  | cons c s ih =>
    unfold tagContent
    split_ifs with hend
    · left
      rw [hend.2]
      rfl
    · rcases ih (quoteAfter quote c) with h | h
      · left
        rw [List.cons_append, ← h]
      · exact Or.inr h

lemma upToBracket_spelling_or_end (s : List Char) :
    s = (upToBracket s).1 ++ '>' :: (upToBracket s).2 ∨ (upToBracket s).2 = [] := by
  unfold upToBracket
  cases hs : s.dropWhile (· != '>') with
  | nil => exact Or.inr rfl
  | cons c u =>
    left
    obtain ⟨hs, hc⟩ := Text.eq_of_dropWhile_eq_cons hs
    obtain rfl : c = '>' := by simpa using hc
    exact hs

/-- A start tag with its bracket, whether it ends in a slash or not. -/
lemma spelling_ofContent (content : List Char) :
    (ofContent content).spelling = '<' :: (content ++ ['>']) := by
  rcases ofContent_cases content with ⟨front, rfl, htoken⟩ | htoken
  · rw [htoken, spelling, List.append_assoc]
    rfl
  · rw [htoken, spelling]

lemma isTag_of_instruction (h : instruction s = .ok (token, rest)) : token.isTag = false := by
  unfold instruction at h
  simp only at h
  split at h
  · obtain ⟨rfl, -⟩ := Prod.mk.inj (Except.ok.inj h)
    rfl
  · cases h

lemma isTag_of_declaration (h : declaration s = .ok (token, rest)) : token.isTag = false := by
  cases s with
  | nil => cases h
  | cons c s =>
    unfold declaration at h
    simp only at h
    split_ifs at h
    · split at h
      · obtain ⟨rfl, -⟩ := Prod.mk.inj (Except.ok.inj h)
        rfl
      · cases h
    · split at h
      · obtain ⟨rfl, -⟩ := Prod.mk.inj (Except.ok.inj h)
        rfl
      · cases h
    · split at h
      · split_ifs at h
        obtain ⟨rfl, -⟩ := Prod.mk.inj (Except.ok.inj h)
        rfl
      · cases h

/-- A tag at the front of a text is finished, or it goes on to the end of the text. -/
lemma markup?_spelling_or_end (h : markup? s = .ok (some (token, rest)))
    (htag : token.isTag = true) : '<' :: s = token.spelling ++ rest ∨ rest = [] := by
  cases s with
  | nil => cases h
  | cons c s =>
    by_cases hslash : c = '/'
    · subst hslash
      obtain ⟨rfl, rfl⟩ := Prod.mk.inj (Option.some.inj (Except.ok.inj h))
      rcases upToBracket_spelling_or_end s with hs | hs
      · left
        rw [spelling, List.cons_append, List.cons_append, List.append_assoc, List.singleton_append]
        exact congrArg (fun u => '<' :: '/' :: u) hs
      · exact Or.inr hs
    by_cases hmark : c = '?'
    · subst hmark
      rw [isTag_of_instruction (exists_of_map_eq_ok h)] at htag
      cases htag
    by_cases hbang : c = '!'
    · subst hbang
      rw [isTag_of_declaration (exists_of_map_eq_ok h)] at htag
      cases htag
    · rw [markup?_eq_tag ⟨hslash, hmark, hbang⟩, tag_eq] at h
      obtain ⟨rfl, rfl⟩ := Prod.mk.inj (Option.some.inj (Except.ok.inj h))
      rcases tagContent_spelling_or_end none (c :: s) with hs | hs
      · left
        rw [spelling_ofContent, List.cons_append, List.append_assoc, List.singleton_append, ← hs]
      · exact Or.inr hs

lemma next?_spelling_or_end (h : next? s = .ok (some (token, rest))) (htag : token.isTag = true) :
    s.dropWhile isSpace = token.spelling ++ rest ∨ rest = [] := by
  unfold next? at h
  split at h
  · cases h
  · next c s' hs =>
    split_ifs at h with hbracket
    · rw [hs, hbracket]
      exact markup?_spelling_or_end h htag
    · obtain ⟨rfl, -⟩ := Prod.mk.inj (Option.some.inj (Except.ok.inj h))
      cases htag

/-! ### The tags of a text -/

/-- A text without a fault has all its tags finished, or its last token is a tag. -/
theorem finished_or_last (s : List Char) :
    (∃ cause, .error cause ∈ scan s) ∨ Finished s ∨
      ∃ earlier token, scan s = earlier ++ [.ok token] ∧ token.isTag = true := by
  induction hn : s.length using Nat.strong_induction_on generalizing s with
  | h n ih =>
    cases hnext : next? s with
    | error cause => exact Or.inl ⟨cause, by simp [scan_of_error hnext]⟩
    | ok front =>
      cases front with
      | none => exact Or.inr (Or.inl (.done hnext))
      | some first =>
        obtain ⟨token, rest⟩ := first
        have hshorter : rest.length < n := hn ▸ length_of_next? hnext
        rw [scan_of_some hnext]
        rcases ih _ hshorter rest rfl with ⟨cause, hcause⟩ | hrest | ⟨earlier, last, hlast, htag⟩
        · exact Or.inl ⟨cause, List.mem_cons_of_mem _ hcause⟩
        · right
          cases htag : token.isTag with
          | false => exact Or.inl (.data hnext htag hrest)
          | true =>
            rcases next?_spelling_or_end hnext htag with hspelling | rfl
            · exact Or.inl (.tag hnext hspelling hrest)
            · exact Or.inr ⟨[], token, by rw [scan_of_none rfl, List.nil_append], htag⟩
        · exact Or.inr (Or.inr ⟨.ok token :: earlier, last, by rw [hlast, List.cons_append], htag⟩)

end Walkthrough.Markup.Token
