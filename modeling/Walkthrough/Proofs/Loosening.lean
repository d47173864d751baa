import Mathlib.Data.List.Basic
import Walkthrough.Proofs.Trimming
import Walkthrough.Routing

/-!
# Looser ways of comparing answers

Answers can be compared with or without regard to letter case, and with or without the blanks around
them.  An answer that is accepted stays so when either is given up.  For blanks this is not plain:
when letter case is disregarded, the lower-case forms of the trimmed answers are compared, and
lower-casing looks at what stands around a letter.  Main step: lower-casing and trimming commute.  A
blank is its own lower-case form and that of no other character, and being neither a letter nor a
character that is skipped, it ends the search around a capital sigma just as the end of a text does.
-/

namespace Walkthrough

namespace Text

/-! ### Blanks in the case tables -/

/-- The blank characters as ranges of code points. -/
def blankRanges : List (Nat × Nat) :=
  [(0x9, 0xD), (0x20, 0x20), (0x85, 0x85), (0xA0, 0xA0), (0x1680, 0x1680), (0x2000, 0x200A),
   (0x2028, 0x2029), (0x202F, 0x202F), (0x205F, 0x205F), (0x3000, 0x3000)]

/-- Whether no range of a table meets one of the blanks. -/
def freeOfBlanks (table : List (Nat × Nat)) : Bool :=
  table.all fun r => blankRanges.all fun b => r.2 < b.1 || b.2 < r.1

/-- The code points between the ends of each run of letters. -/
def runRanges : List (Nat × Nat) := lowerRuns.map fun r => (r.first, r.last)

/-- The code points between the lower-case partners of these ends. -/
def partnerRanges : List (Nat × Nat) :=
  lowerRuns.map fun r => (((r.first : Int) + r.shift).toNat, ((r.last : Int) + r.shift).toNat)

variable {c d : Char} {before after s ws : List Char}

lemma exists_blankRange (h : isBlank c = true) :
    ∃ b ∈ blankRanges, b.1 ≤ c.toNat ∧ c.toNat ≤ b.2 := by
  simp only [isBlank, Bool.or_eq_true, Bool.and_eq_true, decide_eq_true_eq, beq_iff_eq] at h
  simp only [blankRanges, List.exists_mem_cons_iff, List.not_mem_nil, false_and, exists_false,
    or_false]
  omega

lemma not_between_of_isBlank {table : List (Nat × Nat)} (htable : freeOfBlanks table = true)
    {r : Nat × Nat} (hr : r ∈ table) (hc : isBlank c = true) :
    ¬ (r.1 ≤ c.toNat ∧ c.toNat ≤ r.2) := by
  obtain ⟨b, hb, hlow, hhigh⟩ := exists_blankRange hc
  have hapart := List.all_eq_true.1 (List.all_eq_true.1 htable r hr) b hb
  simp only [Bool.or_eq_true, decide_eq_true_eq] at hapart
  omega

lemma inRanges_of_isBlank {table : List (Nat × Nat)} (htable : freeOfBlanks table = true)
    (hc : isBlank c = true) : inRanges table c = false := by
  rw [inRanges, List.any_eq_false]
  intro r hr hin
  simp only [Bool.and_eq_true, decide_eq_true_eq] at hin
  exact not_between_of_isBlank htable hr hc hin

lemma isCased_of_isBlank (hc : isBlank c = true) : isCased c = false :=
  inRanges_of_isBlank (by decide +kernel) hc

lemma isCaseIgnorable_of_isBlank (hc : isBlank c = true) : isCaseIgnorable c = false :=
  inRanges_of_isBlank (by decide +kernel) hc

lemma between_of_covers {r : CaseRun} (h : r.covers c.toNat = true) :
    r.first ≤ c.toNat ∧ c.toNat ≤ r.last := by
  simp only [CaseRun.covers, Bool.and_eq_true, decide_eq_true_eq] at h
  exact h.1

lemma covers_of_isBlank (hc : isBlank c = true) {r : CaseRun} (hr : r ∈ lowerRuns) :
    r.covers c.toNat = false := by
  rw [Bool.eq_false_iff]
  intro hcovers
  have hfree : freeOfBlanks runRanges = true := by decide +kernel
  exact not_between_of_isBlank hfree (List.mem_map_of_mem hr) hc (between_of_covers hcovers)

lemma simpleLower_of_isBlank (hc : isBlank c = true) : simpleLower c = c := by
  have hnone : lowerRuns.find? (·.covers c.toNat) = none :=
    List.find?_eq_none.2 fun r hr => by simp [covers_of_isBlank hc hr]
  rw [simpleLower, hnone]

/-- The partner of a letter is no blank. -/
lemma isBlank_partner {r : CaseRun} (hr : r ∈ lowerRuns) (hcovers : r.covers c.toNat = true) :
    isBlank (Char.ofNat ((c.toNat : Int) + r.shift).toNat) = false := by
  obtain ⟨hfirst, hlast⟩ := between_of_covers hcovers
  have hfree : freeOfBlanks partnerRanges = true := by decide +kernel
  rw [Bool.eq_false_iff]
  intro hblank
  have hapart := not_between_of_isBlank hfree (List.mem_map_of_mem hr) hblank
  -- a number that is no code point stands for the character zero
  by_cases hvalid : ((c.toNat : Int) + r.shift).toNat.isValidChar
  · have hcode : (Char.ofNat ((c.toNat : Int) + r.shift).toNat).toNat =
        ((c.toNat : Int) + r.shift).toNat := by
      rw [Char.ofNat, dif_pos hvalid]
      rfl
    rw [hcode] at hapart
    omega
  · have hzero : (Char.ofNat ((c.toNat : Int) + r.shift).toNat) = Char.ofNat 0 := by
      rw [Char.ofNat, dif_neg hvalid]
      rfl
    rw [hzero] at hblank
    exact absurd hblank (by decide)

lemma isBlank_simpleLower (c : Char) : isBlank (simpleLower c) = isBlank c := by
  cases hc : isBlank c with
  | true => rw [simpleLower_of_isBlank hc, hc]
  | false =>
    rw [simpleLower]
    split
    · next r hr =>
      have hcovers : r.covers c.toNat = true :=
        List.find?_some (p := fun r : CaseRun => r.covers c.toNat) hr
      exact isBlank_partner (List.mem_of_find?_eq_some hr) hcovers
    · exact hc

/-! ### Characters -/

lemma lowerChar_of_isBlank (hc : isBlank c = true) : lowerChar before c after = [c] := by
  have hdot : c.toNat ≠ 0x130 := fun h => by simp [isBlank, h] at hc
  have hsigma : c.toNat ≠ 0x3A3 := fun h => by simp [isBlank, h] at hc
  rw [lowerChar, if_neg hdot, if_neg hsigma, simpleLower_of_isBlank hc]

lemma isBlank_of_mem_lowerChar (hd : d ∈ lowerChar before c after) : isBlank d = isBlank c := by
  rw [lowerChar] at hd
  split_ifs at hd with hdot hsigma hfinal
  · have hc : isBlank c = false := by simp [isBlank, hdot]
    simp only [List.mem_cons, List.not_mem_nil, or_false] at hd
    rcases hd with rfl | rfl <;> rw [hc] <;> rfl
  · have hc : isBlank c = false := by simp [isBlank, hsigma]
    rw [List.mem_singleton.1 hd, hc]
    rfl
  · have hc : isBlank c = false := by simp [isBlank, hsigma]
    rw [List.mem_singleton.1 hd, hc]
    rfl
  · rw [List.mem_singleton.1 hd, isBlank_simpleLower]

lemma lowerChar_ne_nil : lowerChar before c after ≠ [] := by
  rw [lowerChar]
  split_ifs <;> exact List.cons_ne_nil _ _

/-! ### Blanks around a text -/

/-- What meets no letter adds nothing behind a text. -/
lemma meetsCased_append (s : List Char) (hws : meetsCased ws = false) :
    meetsCased (s ++ ws) = meetsCased s := by
  induction s with
  | nil => rw [List.nil_append, hws]; rfl
  | cons c s ih =>
    cases hc : isCaseIgnorable c with
    | true =>
      rw [meetsCased, List.cons_append, List.dropWhile_cons_of_pos hc, ← meetsCased, ih, meetsCased,
        meetsCased, List.dropWhile_cons_of_pos hc]
    | false =>
      have hneg : ¬ isCaseIgnorable c = true := by simp [hc]
      rw [meetsCased, meetsCased, List.cons_append, List.dropWhile_cons_of_neg hneg,
        List.dropWhile_cons_of_neg hneg]

/-- Blanks are not looked through. -/
lemma meetsCased_of_blanks (hws : ∀ c ∈ ws, isBlank c = true) : meetsCased ws = false := by
  cases ws with
  | nil => rfl
  | cons c ws =>
    have hc : isBlank c = true := hws c List.mem_cons_self
    rw [meetsCased, List.dropWhile_cons_of_neg (by simp [isCaseIgnorable_of_isBlank hc])]
    exact isCased_of_isBlank hc

lemma lowerChar_append (before : List Char) (c : Char) (after : List Char)
    (hws : ∀ c ∈ ws, isBlank c = true) :
    lowerChar before c (after ++ ws) = lowerChar before c after := by
  have hfinal : isFinalSigma before (after ++ ws) = isFinalSigma before after := by
    rw [isFinalSigma, isFinalSigma, meetsCased_append after (meetsCased_of_blanks hws)]
  rw [lowerChar, lowerChar, hfinal]

lemma lowerChar_behind (before : List Char) (c : Char) (after : List Char)
    (hws : ∀ c ∈ ws, isBlank c = true) :
    lowerChar (before ++ ws) c after = lowerChar before c after := by
  have hfinal : isFinalSigma (before ++ ws) after = isFinalSigma before after := by
    rw [isFinalSigma, isFinalSigma, meetsCased_append before (meetsCased_of_blanks hws)]
  rw [lowerChar, lowerChar, hfinal]

/-- Blanks in front of a text stay as they are. -/
lemma lowerFrom_blanks_append (before s : List Char) (hws : ∀ c ∈ ws, isBlank c = true) :
    lowerFrom before (ws ++ s) = ws ++ lowerFrom (ws.reverse ++ before) s := by
  induction ws generalizing before with
  | nil => rfl
  | cons c ws ih =>
    rw [List.forall_mem_cons] at hws
    rw [List.cons_append, lowerFrom, lowerChar_of_isBlank hws.1, ih (c :: before) hws.2]
    simp

/-- So do those behind it, and they do not change its form. -/
lemma lowerFrom_append_blanks (before s : List Char) (hws : ∀ c ∈ ws, isBlank c = true) :
    lowerFrom before (s ++ ws) = lowerFrom before s ++ ws := by
  induction s generalizing before with
  | nil =>
    have hblanks := lowerFrom_blanks_append before [] hws
    rwa [List.append_nil, lowerFrom, List.append_nil] at hblanks
  | cons c s ih =>
    rw [List.cons_append, lowerFrom, lowerFrom, lowerChar_append before c s hws, ih,
      List.append_assoc]

/-- Neither do those in front of it. -/
lemma lowerFrom_behind (before s : List Char) (hws : ∀ c ∈ ws, isBlank c = true) :
    lowerFrom (before ++ ws) s = lowerFrom before s := by
  induction s generalizing before with
  | nil => rfl
  | cons c s ih =>
    rw [lowerFrom, lowerFrom, lowerChar_behind before c s hws, ← List.cons_append, ih]

/-- The lower-case form of a text with blanks around it is that of the text, with these blanks
around it. -/
lemma lowerFrom_between_blanks {ws' : List Char} (s : List Char)
    (hws : ∀ c ∈ ws, isBlank c = true) (hws' : ∀ c ∈ ws', isBlank c = true) :
    lowerFrom [] (ws ++ (s ++ ws')) = ws ++ (lowerFrom [] s ++ ws') := by
  have hreverse : ∀ c ∈ ws.reverse, isBlank c = true := fun c hc => hws c (List.mem_reverse.1 hc)
  have hinside : lowerFrom ws.reverse (s ++ ws') = lowerFrom [] (s ++ ws') :=
    lowerFrom_behind [] (s ++ ws') hreverse
  rw [lowerFrom_blanks_append [] _ hws, List.append_nil, hinside, lowerFrom_append_blanks [] s hws']

/-! ### Trimming -/

lemma lowerFrom_ne_nil (before : List Char) {s : List Char} (hs : s ≠ []) :
    lowerFrom before s ≠ [] := by
  cases s with
  | nil => exact absurd rfl hs
  | cons c s => exact List.append_ne_nil_of_left_ne_nil lowerChar_ne_nil _

/-- A text that starts with no blank does not do so in lower case either. -/
lemma head?_lowerFrom (before : List Char) (hs : ∀ c ∈ s.head?, isBlank c = false) :
    ∀ c ∈ (lowerFrom before s).head?, isBlank c = false := by
  cases s with
  | nil => simp [lowerFrom]
  | cons d s =>
    intro c hc
    rw [lowerFrom, List.head?_append_of_ne_nil _ lowerChar_ne_nil] at hc
    rw [isBlank_of_mem_lowerChar (List.mem_of_mem_head? hc)]
    exact hs d rfl

lemma getLast?_lowerFrom (before : List Char) (hs : ∀ c ∈ s.getLast?, isBlank c = false) :
    ∀ c ∈ (lowerFrom before s).getLast?, isBlank c = false := by
  induction s generalizing before with
  | nil => simp [lowerFrom]
  | cons d s ih =>
    intro c hc
    by_cases hempty : s = []
    · subst hempty
      rw [lowerFrom, lowerFrom, List.append_nil] at hc
      rw [isBlank_of_mem_lowerChar (List.mem_of_mem_getLast? hc)]
      exact hs d rfl
    · rw [lowerFrom, List.getLast?_append_of_ne_nil _ (lowerFrom_ne_nil _ hempty)] at hc
      refine ih (d :: before) (fun c' hc' => hs c' ?_) c hc
      obtain ⟨e, s', rfl⟩ := List.exists_cons_of_ne_nil hempty
      rwa [List.getLast?_cons_cons]

lemma trimmed_lowerFrom (h : Trimmed isBlank s) : Trimmed isBlank (lowerFrom [] s) :=
  ⟨head?_lowerFrom [] h.first, getLast?_lowerFrom [] h.last⟩

/-- Lower-casing and trimming commute. -/
lemma lower_trim (s : String) : lower (trim s) = trim (lower s) := by
  obtain ⟨ws, ws', hs, hws, hws'⟩ := exists_around_stripWhile isBlank s.toList
  have htrimmed := trimmed_lowerFrom (trimmed_stripWhile isBlank s.toList)
  rw [lower, trim, trim, lower, String.toList_ofList, String.toList_ofList]
  nth_rewrite 2 [hs]
  rw [lowerFrom_between_blanks _ hws hws', htrimmed.stripWhile_between hws hws']

end Text

/-! ### Comparing answers -/

variable {matching matching' : AnswerMatching} {trimmed trimmed' : Bool} {a b : String}

/-- Without regard to letter case, answers are trimmed before or after their lower-case forms are
taken. -/
lemma normalizeAnswer_caseInsensitive (trimmed : Bool) (a : String) :
    normalizeAnswer .caseInsensitive trimmed a =
      if trimmed then Text.trim (Text.lower a) else Text.lower a := by
  cases trimmed with
  | true => exact Text.lower_trim a
  | false => rfl

lemma normalizeAnswer_trimmed
    (h : normalizeAnswer matching trimmed a = normalizeAnswer matching trimmed b) :
    normalizeAnswer matching true a = normalizeAnswer matching true b := by
  cases trimmed with
  | true => exact h
  | false =>
    cases matching with
    | caseSensitive => exact congrArg Text.trim h
    | caseInsensitive =>
      simp only [normalizeAnswer_caseInsensitive] at h ⊢
      exact congrArg Text.trim h

lemma normalizeAnswer_caseless
    (h : normalizeAnswer matching trimmed a = normalizeAnswer matching trimmed b) :
    normalizeAnswer .caseInsensitive trimmed a = normalizeAnswer .caseInsensitive trimmed b := by
  cases matching with
  | caseSensitive => exact congrArg Text.lower h
  | caseInsensitive => exact h

/-- Answers that count as the same do so too when they are compared in a looser way. -/
lemma normalizeAnswer_loosen (hmatching : matching' = .caseInsensitive ∨ matching' = matching)
    (htrimmed : trimmed' = true ∨ trimmed' = trimmed)
    (h : normalizeAnswer matching trimmed a = normalizeAnswer matching trimmed b) :
    normalizeAnswer matching' trimmed' a = normalizeAnswer matching' trimmed' b := by
  have hcase : normalizeAnswer matching' trimmed a = normalizeAnswer matching' trimmed b := by
    rcases hmatching with rfl | rfl
    · exact normalizeAnswer_caseless h
    · exact h
  rcases htrimmed with rfl | rfl
  · exact normalizeAnswer_trimmed hcase
  · exact hcase

/-- An answer that is accepted is also accepted in every looser way of comparing: letter case may be
disregarded where it was not, and so may the blanks around the answers. -/
theorem answerMatches_loosen {accepted : List String} {answer : String}
    (hmatching : matching' = .caseInsensitive ∨ matching' = matching)
    (htrimmed : trimmed' = true ∨ trimmed' = trimmed)
    (h : answerMatches matching trimmed accepted answer = true) :
    answerMatches matching' trimmed' accepted answer = true := by
  obtain ⟨alternative, hmem, hsame⟩ := List.any_eq_true.1 h
  refine List.any_eq_true.2 ⟨alternative, hmem, ?_⟩
  rw [beq_iff_eq] at hsame ⊢
  exact normalizeAnswer_loosen hmatching htrimmed hsame

/-- The sigma at the end of a word is final, be there a blank behind it or not. -/
theorem answerMatches_loosen_street :
    answerMatches .caseInsensitive false ["πλατεῖα", " ὁδός\u2003"] " ὉΔΌΣ\u2003" = true ∧
      answerMatches .caseInsensitive true ["πλατεῖα", " ὁδός\u2003"] " ὉΔΌΣ\u2003" = true := by
  have hsame : answerMatches .caseInsensitive false ["πλατεῖα", " ὁδός\u2003"] " ὉΔΌΣ\u2003" =
      true := by decide +kernel
  exact ⟨hsame, answerMatches_loosen (Or.inr rfl) (Or.inl rfl) hsame⟩

end Walkthrough
