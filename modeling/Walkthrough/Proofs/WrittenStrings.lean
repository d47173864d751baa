import Mathlib.Data.List.Infix
import Walkthrough.Proofs.Cutting
import Walkthrough.Toml.Writer
import Walkthrough.Toml.Quoted

/-!
# TOML strings are read back

Main statement: a string is read back from how it is written, whatever characters are in it,
provided that no quote follows.  Each of the four readers takes one character at a time, so the
proofs follow the string.  Only between triple quotes is one character not enough to tell what it
means: there a quote may begin the end of the string.  It does exactly where the quotes left in the
string are few enough to stand before that end.
-/

namespace Walkthrough.Toml

variable {c quote : Char} {s rest tail : List Char} {quotes seen k : Nat}

/-! ### Characters that stand for themselves -/

lemma isPlain_of_isControl (hcontrol : isControl c = false) (hline : c ≠ '\n') :
    isPlain c = true := by
  simp only [isControl, Bool.or_eq_false_iff, Bool.and_eq_false_iff, decide_eq_false_iff_not,
    bne_eq_false_iff_eq, beq_eq_false_iff_ne, hline, or_false] at hcontrol
  simp only [isPlain, Bool.or_eq_true, beq_iff_eq, Bool.and_eq_true, decide_eq_true_eq,
    bne_iff_ne]
  obtain ⟨hlow | htab, hdelete⟩ := hcontrol
  · exact Or.inr ⟨by omega, hdelete⟩
  · exact Or.inl htab

lemma isBasic_iff : isBasic c = true ↔ (isPlain c = true ∧ c ≠ '"') ∧ c ≠ '\\' := by
  simp [isBasic]

lemma isBasic_of_needsEscape (hquote : c ≠ '"') (hline : c ≠ '\n') (h : needsEscape c = false) :
    isBasic c = true := by
  simp only [needsEscape, Bool.or_eq_false_iff, beq_eq_false_iff_ne] at h
  obtain ⟨⟨hslash, -⟩, hcontrol⟩ := h
  exact isBasic_iff.2 ⟨⟨isPlain_of_isControl hcontrol hline, hquote⟩, hslash⟩

lemma ne_return_of_isPlain (h : isPlain c = true) : c ≠ '\r' := by
  rintro rfl
  exact absurd h (by decide)

lemma ne_newline_of_isPlain (h : isPlain c = true) : c ≠ '\n' := by
  rintro rfl
  exact absurd h (by decide)

lemma newline?_cons (hline : c ≠ '\n') (hreturn : c ≠ '\r') (s : List Char) :
    newline? (c :: s) = none := by
  rw [newline?.eq_def]
  split
  · next h => exact absurd (List.cons.inj h).1 hline
  · next h => exact absurd (List.cons.inj h).1 hreturn
  · rfl

/-! ### Escapes -/

/-- Whether the characters behind a backslash write a character, and none of them is taken for a
line break. -/
structure Escapes (tail : List Char) (c : Char) : Prop where
  reads (s : List Char) : escape (tail ++ s) = .ok (c, s)
  stays (s : List Char) : escapedNewline? (tail ++ s) = none

lemma escapedNewline?_cons (hspace : isSpace c = false) (hline : c ≠ '\n') (hreturn : c ≠ '\r')
    (s : List Char) : escapedNewline? (c :: s) = none := by
  rw [escapedNewline?, List.dropWhile_cons_of_neg (by simp [hspace]),
    newline?_cons hline hreturn, Option.map_none]

lemma hexDigit?_upperHexDigit : ∀ n < 16, Text.hexDigit? (upperHexDigit n) = some n := by decide

lemma codePoint_upperHexDigits (h : c.toNat < 0x80) (s : List Char) :
    codePoint 4 ('0' :: '0' :: upperHexDigit (c.toNat / 16) :: upperHexDigit (c.toNat % 16) :: s) =
      .ok (c, s) := by
  have hzero : Text.hexDigit? '0' = some 0 := rfl
  have hvalid : c.toNat.isValidChar := c.valid
  have hdigits : Text.digitsInBase? 16 Text.hexDigit? 0
      ['0', '0', upperHexDigit (c.toNat / 16), upperHexDigit (c.toNat % 16)] = some c.toNat := by
    simp only [Text.digitsInBase?, hzero, hexDigit?_upperHexDigit (c.toNat / 16) (by omega),
      hexDigit?_upperHexDigit (c.toNat % 16) (by omega), Option.bind_some, Option.some.injEq]
    omega
  rw [codePoint, if_neg (by simp)]
  simp only [List.take_succ_cons, List.take_zero, List.drop_succ_cons, List.drop_zero, hdigits]
  rw [if_pos hvalid, Char.ofNat_toNat]

/-- What has no escape of its own is written by the number of its character. -/
lemma exists_escapeOf (h : c = '"' ∨ c = '\n' ∨ needsEscape c = true) :
    ∃ tail, escapeOf c = '\\' :: tail ∧ Escapes tail c := by
  have hcode {n : Nat} (h : c.toNat = n) : c = Char.ofNat n := by rw [← h, Char.ofNat_toNat]
  have hletter {d : Char} (hd : isSpace d = false ∧ d ≠ '\n' ∧ d ≠ '\r')
      (hreads : ∀ s, escape (d :: s) = .ok (c, s)) : Escapes [d] c :=
    ⟨hreads, escapedNewline?_cons hd.1 hd.2.1 hd.2.2⟩
  rw [escapeOf]
  split_ifs with hquote hslash hback htab hline hform hreturn
  · exact ⟨_, rfl, hletter (by decide) fun s => by rw [hquote]; rfl⟩
  · exact ⟨_, rfl, hletter (by decide) fun s => by rw [hslash]; rfl⟩
  · exact ⟨_, rfl, hletter (by decide) fun s => by rw [hcode hback]; rfl⟩
  · exact ⟨_, rfl, hletter (by decide) fun s => by rw [hcode htab]; rfl⟩
  · exact ⟨_, rfl, hletter (by decide) fun s => by rw [hcode hline]; rfl⟩
  · exact ⟨_, rfl, hletter (by decide) fun s => by rw [hcode hform]; rfl⟩
  · exact ⟨_, rfl, hletter (by decide) fun s => by rw [hcode hreturn]; rfl⟩
  · -- what has no short escape is a control character, so that two digits are enough
    have hlow : c.toNat < 0x80 := by
      rcases h with rfl | rfl | h
      · exact absurd rfl hquote
      · exact absurd rfl hline
      · simp only [needsEscape, isControl, Bool.or_eq_true, Bool.and_eq_true, beq_iff_eq,
          decide_eq_true_eq] at h
        rcases h with (rfl | rfl) | ⟨⟨hcontrol, -⟩, -⟩ | hdelete
        · exact absurd rfl hslash
        · exact absurd rfl htab
        · omega
        · omega
    exact ⟨_, rfl, fun s => codePoint_upperHexDigits hlow s,
      fun s => escapedNewline?_cons (by decide) (by decide) (by decide) _⟩

/-! ### Strings on one line -/

lemma basic_escape (h : Escapes tail c) (s : List Char) :
    basic ('\\' :: (tail ++ s)) = (basic s).map fun r => (c :: r.1, r.2) := by
  rw [basic, if_neg (by decide), if_pos rfl]
  split
  · next e rest hok =>
    rw [h.reads] at hok
    obtain ⟨rfl, rfl⟩ := Prod.mk.inj (Except.ok.inj hok)
    rfl
  · next hfault =>
    rw [h.reads] at hfault
    cases hfault
  · next hfault =>
    rw [h.reads] at hfault
    cases hfault

lemma basic_plain (h : isBasic c = true) (s : List Char) :
    basic (c :: s) = (basic s).map fun r => (c :: r.1, r.2) := by
  obtain ⟨⟨-, hquote⟩, hslash⟩ := isBasic_iff.1 h
  rw [basic, if_neg hquote, if_neg hslash, if_pos h]

lemma escapedLine_cons (c : Char) (s : List Char) :
    escapedLine (c :: s) =
      (if c = '"' ∨ c = '\n' ∨ needsEscape c = true then escapeOf c else [c]) ++ escapedLine s :=
  List.flatMap_cons

lemma basic_escapedLine (s rest : List Char) :
    basic (escapedLine s ++ '"' :: rest) = .ok (s, rest) := by
  induction s with
  | nil => rw [escapedLine, List.flatMap_nil, List.nil_append, basic, if_pos rfl]
  | cons c s ih =>
    rw [escapedLine_cons]
    split_ifs with hescape
    · obtain ⟨tail, htail, hreads⟩ := exists_escapeOf hescape
      rw [htail, List.cons_append, List.cons_append, List.append_assoc, basic_escape hreads, ih]
      rfl
    · simp only [not_or, Bool.not_eq_true] at hescape
      rw [List.singleton_append, List.cons_append,
        basic_plain (isBasic_of_needsEscape hescape.1 hescape.2.1 hescape.2.2), ih]
      rfl

lemma literal_self (h : ∀ c ∈ s, isLiteral c = true) (rest : List Char) :
    literal (s ++ '\'' :: rest) = .ok (s, rest) := by
  induction s with
  | nil => rw [List.nil_append, literal, if_pos rfl]
  | cons c s ih =>
    have hc := h c List.mem_cons_self
    have hquote : c ≠ '\'' := by
      rintro rfl
      exact absurd hc (by decide)
    rw [List.cons_append, literal, if_neg hquote, if_pos hc,
      ih fun d hd => h d (List.mem_cons_of_mem c hd)]
    rfl

/-! ### Quotes before the end -/

/-- Up to two quotes right before the end of a string are its last characters. -/
lemma closing_replicate (hk : k ≤ 2) (hrest : rest.head? ≠ some quote) :
    closing quote (List.replicate k quote ++ rest) = (List.replicate k quote, rest) := by
  -- of the two characters that are looked at, those behind the quotes of the string are none
  have hstop : ∀ n, (rest.take n).takeWhile (· == quote) = [] := by
    intro n
    cases rest with
    | nil => simp
    | cons c rest =>
      cases n with
      | zero => rfl
      | succ n =>
        have hc : c ≠ quote := by simpa using hrest
        rw [List.take_succ_cons, List.takeWhile_cons_of_neg (by simpa using hc)]
  have hextra : (((List.replicate k quote ++ rest).take 2).takeWhile (· == quote)).length = k := by
    rw [List.take_append, List.take_replicate, min_eq_right hk,
      List.takeWhile_append_of_pos (by simp), hstop, List.append_nil, List.length_replicate]
  rw [closing, hextra, List.drop_left' List.length_replicate]

/-- Where fewer quotes stand than three, the string does not end. -/
lemma dropFront?_quotes (h : ¬ List.replicate 3 quote <+: s) :
    Text.dropFront? [quote, quote, quote] s = none :=
  Text.dropFront?_eq_none.2 h

lemma dropFront?_of_ne (h : c ≠ quote) (s : List Char) :
    Text.dropFront? [quote, quote, quote] (c :: s) = none :=
  if_neg (Ne.symm h)

lemma not_prefix_of_ne (h : c ≠ quote) (hk : 0 < k) (s : List Char) :
    ¬ List.replicate k quote <+: c :: s := by
  obtain ⟨n, rfl⟩ : ∃ n, k = n + 1 := ⟨k - 1, by omega⟩
  rw [List.replicate_succ, List.cons_prefix_cons]
  exact fun hprefix => h hprefix.1.symm

lemma replicate_append_three (k : Nat) (quote : Char) (s : List Char) :
    List.replicate k quote ++ (List.replicate 3 quote ++ s) =
      quote :: quote :: quote :: (List.replicate k quote ++ s) := by
  rw [← List.append_assoc, List.replicate_append_replicate, Nat.add_comm,
    ← List.replicate_append_replicate, List.append_assoc]
  rfl

/-! ### Strings between triple double quotes -/

lemma longBasic_close (seen : Nat) (s : List Char) :
    longBasic seen ('"' :: '"' :: '"' :: s) = .ok (closing '"' s) := by
  rw [longBasic.eq_def]
  rfl

lemma longBasic_end (hk : k ≤ 2) (hrest : rest.head? ≠ some '"') (seen : Nat) :
    longBasic seen (List.replicate k '"' ++ (List.replicate 3 '"' ++ rest)) =
      .ok (List.replicate k '"', rest) := by
  rw [replicate_append_three, longBasic_close, closing_replicate hk hrest]

lemma longBasic_newline (seen : Nat) (s : List Char) :
    longBasic seen ('\n' :: s) = (longBasic 0 s).map fun r => ('\n' :: r.1, r.2) := by
  rw [longBasic.eq_def]
  rfl

lemma longBasic_escape (h : Escapes tail c) (seen : Nat) (s : List Char) :
    longBasic seen ('\\' :: (tail ++ s)) = (longBasic 0 s).map fun r => (c :: r.1, r.2) := by
  rw [longBasic.eq_def]
  simp only [dropFront?_of_ne (show '\\' ≠ '"' by decide), if_true]
  split
  · next hline => cases hline
  · split
    · next hline =>
      rw [h.stays] at hline
      cases hline
    · split
      · next e rest hok =>
        rw [h.reads] at hok
        obtain ⟨rfl, rfl⟩ := Prod.mk.inj (Except.ok.inj hok)
        rfl
      · next hfault =>
        rw [h.reads] at hfault
        cases hfault
      · next hfault =>
        rw [h.reads] at hfault
        cases hfault

lemma longBasic_quote (h : ¬ List.replicate 3 '"' <+: '"' :: s) (seen : Nat) :
    longBasic seen ('"' :: s) = (longBasic (seen + 1) s).map fun r => ('"' :: r.1, r.2) := by
  rw [longBasic.eq_def]
  simp only [dropFront?_quotes h]
  rfl

lemma longBasic_plain (h : isBasic c = true) (seen : Nat) (s : List Char) :
    longBasic seen (c :: s) = (longBasic 0 s).map fun r => (c :: r.1, r.2) := by
  obtain ⟨⟨hplain, hquote⟩, hslash⟩ := isBasic_iff.1 h
  have hnone := newline?_cons (ne_newline_of_isPlain hplain) (ne_return_of_isPlain hplain) s
  rw [longBasic.eq_def]
  simp only [dropFront?_of_ne hquote, if_neg hslash, if_neg hquote, if_pos h]
  split
  · next hline =>
    rw [hnone] at hline
    cases hline
  · rfl

lemma escapedLines_escape (hquote : c ≠ '"') (h : needsEscape c = true) :
    escapedLines quotes (c :: s) = escapeOf c ++ escapedLines 0 s := by
  rw [escapedLines, if_neg hquote, if_pos h]

lemma escapedLines_plain (hquote : c ≠ '"') (h : needsEscape c = false) :
    escapedLines quotes (c :: s) = c :: escapedLines 0 s := by
  rw [escapedLines, if_neg hquote, if_neg (by simp [h])]

/-- A run of quotes is written as it is while there are fewer than three. -/
lemma escapedLines_replicate (h : k + quotes ≤ 2) :
    escapedLines quotes (List.replicate k '"') = List.replicate k '"' := by
  induction k generalizing quotes with
  | zero => rfl
  | succ k ih =>
    rw [List.replicate_succ, escapedLines, if_pos rfl, if_neg (by omega), ih (by omega)]

/-- A string in which something else than quotes is left is not taken for ended, for every third
quote in a row is behind a backslash. -/
lemma not_prefix_escapedLines (hquotes : quotes ≤ 2)
    (h : ∀ k, k + quotes ≤ 2 → s ≠ List.replicate k '"') (rest : List Char) :
    ¬ List.replicate (3 - quotes) '"' <+: escapedLines quotes s ++ rest := by
  induction s generalizing quotes with
  | nil => exact absurd rfl (h 0 (by omega))
  | cons c s ih =>
    by_cases hquote : c = '"'
    · subst hquote
      rw [escapedLines, if_pos rfl]
      split_ifs with htwo
      · exact not_prefix_of_ne (by decide) (by omega) _
      · -- a quote is one of those that are missing, and the rest must still be no run of them
        have hleft : 3 - quotes = 3 - (quotes + 1) + 1 := by omega
        rw [hleft, List.replicate_succ, List.cons_append, List.cons_prefix_cons]
        rintro ⟨-, hprefix⟩
        refine ih (by omega) (fun k hk hs => h (k + 1) (by omega) ?_) hprefix
        rw [hs, List.replicate_succ]
    · cases hescape : needsEscape c with
      | true =>
        obtain ⟨tail, htail, -⟩ := exists_escapeOf (Or.inr (Or.inr hescape))
        rw [escapedLines_escape hquote hescape, htail]
        exact not_prefix_of_ne (by decide) (by omega) _
      | false =>
        rw [escapedLines_plain hquote hescape]
        exact not_prefix_of_ne hquote (by omega) _

/-- Where the string does not end, its first character is read.  The writer counts quotes anew after
an escape, the reader after every character that is no quote, so their counts differ. -/
lemma exists_longBasic_cons (hquotes : quotes ≤ 2)
    (hopen : ¬ List.replicate (3 - quotes) '"' <+: escapedLines quotes (c :: s) ++ tail)
    (seen : Nat) : ∃ quotes' seen', quotes' ≤ 2 ∧
      longBasic seen (escapedLines quotes (c :: s) ++ tail) =
        (longBasic seen' (escapedLines quotes' s ++ tail)).map fun r => (c :: r.1, r.2) := by
  by_cases hquote : c = '"'
  · subst hquote
    rw [escapedLines, if_pos rfl] at hopen ⊢
    split_ifs at hopen ⊢ with htwo
    · obtain ⟨behind, hbehind, hreads⟩ := exists_escapeOf (Or.inl (rfl : '"' = '"'))
      refine ⟨0, 0, by omega, ?_⟩
      rw [hbehind, List.cons_append, List.cons_append, List.append_assoc, longBasic_escape hreads]
    · have hthree : ¬ List.replicate 3 '"' <+: '"' :: (escapedLines (quotes + 1) s ++ tail) := by
        intro hprefix
        refine hopen (List.IsPrefix.trans ?_ hprefix)
        exact List.prefix_replicate_iff.2 ⟨by simp, by simp⟩
      refine ⟨quotes + 1, seen + 1, by omega, ?_⟩
      rw [List.cons_append, longBasic_quote hthree]
  · refine ⟨0, 0, by omega, ?_⟩
    cases hescape : needsEscape c with
    | true =>
      obtain ⟨behind, hbehind, hreads⟩ := exists_escapeOf (Or.inr (Or.inr hescape))
      rw [escapedLines_escape hquote hescape, hbehind, List.cons_append, List.cons_append,
        List.append_assoc, longBasic_escape hreads]
    | false =>
      rw [escapedLines_plain hquote hescape, List.cons_append]
      by_cases hline : c = '\n'
      · rw [hline, longBasic_newline]
      · rw [longBasic_plain (isBasic_of_needsEscape hquote hline hescape)]

/-- A string is read back from its text between triple double quotes. -/
lemma longBasic_escapedLines (hrest : rest.head? ≠ some '"') (hquotes : quotes ≤ 2) (seen : Nat)
    (s : List Char) :
    longBasic seen (escapedLines quotes s ++ (List.replicate 3 '"' ++ rest)) = .ok (s, rest) := by
  induction s generalizing quotes seen with
  | nil =>
    rw [escapedLines]
    exact longBasic_end (Nat.zero_le 2) hrest seen
  | cons c s ih =>
    by_cases hend : ∃ k, k + quotes ≤ 2 ∧ c :: s = List.replicate k '"'
    · obtain ⟨k, hk, hs⟩ := hend
      rw [hs, escapedLines_replicate hk, longBasic_end (by omega) hrest]
    · have hopen := not_prefix_escapedLines hquotes (fun k hk hs => hend ⟨k, hk, hs⟩)
        (List.replicate 3 '"' ++ rest)
      obtain ⟨quotes', seen', hquotes', hstep⟩ := exists_longBasic_cons hquotes hopen seen
      rw [hstep, ih hquotes']
      rfl

/-! ### Strings between triple single quotes -/

lemma longLiteral_close (seen : Nat) (s : List Char) :
    longLiteral seen ('\'' :: '\'' :: '\'' :: s) = .ok (closing '\'' s) := by
  rw [longLiteral.eq_def]
  rfl

lemma longLiteral_end (hk : k ≤ 2) (hrest : rest.head? ≠ some '\'') (seen : Nat) :
    longLiteral seen (List.replicate k '\'' ++ (List.replicate 3 '\'' ++ rest)) =
      .ok (List.replicate k '\'', rest) := by
  rw [replicate_append_three, longLiteral_close, closing_replicate hk hrest]

/-- Where the string does not end, its first character is read. -/
lemma exists_longLiteral_cons (hopen : ¬ List.replicate 3 '\'' <+: c :: s)
    (hc : c = '\n' ∨ isPlain c = true) (seen : Nat) : ∃ seen',
      longLiteral seen (c :: s) = (longLiteral seen' s).map fun r => (c :: r.1, r.2) := by
  rw [longLiteral.eq_def]
  simp only [dropFront?_quotes hopen]
  rcases hc with rfl | hplain
  · exact ⟨0, rfl⟩
  · have hnone := newline?_cons (ne_newline_of_isPlain hplain) (ne_return_of_isPlain hplain) s
    split
    · next hline =>
      rw [hnone] at hline
      cases hline
    · by_cases hquote : c = '\''
      · exact ⟨seen + 1, if_pos hquote⟩
      · exact ⟨0, (if_neg hquote).trans (if_pos hplain)⟩

/-- A string is read back from between triple single quotes. -/
lemma longLiteral_self (hrest : rest.head? ≠ some '\'') (hs : ∀ c ∈ s, c = '\n' ∨ isPlain c = true)
    (htriple : ¬ List.replicate 3 '\'' <:+: s) (seen : Nat) :
    longLiteral seen (s ++ (List.replicate 3 '\'' ++ rest)) = .ok (s, rest) := by
  induction s generalizing seen with
  | nil => exact longLiteral_end (Nat.zero_le 2) hrest seen
  | cons c s ih =>
    by_cases hend : ∃ k ≤ 2, c :: s = List.replicate k '\''
    · obtain ⟨k, hk, hs⟩ := hend
      rw [hs, longLiteral_end hk hrest]
    · have hopen : ¬ List.replicate 3 '\'' <+: c :: (s ++ (List.replicate 3 '\'' ++ rest)) := by
        intro hprefix
        -- the three quotes stand within the string, or they cover all of it
        have hself := List.prefix_append (c :: s) (List.replicate 3 '\'' ++ rest)
        rcases Nat.lt_or_ge (c :: s).length 3 with hshort | hlong
        · have hbelow := List.prefix_of_prefix_length_le hself hprefix (by simpa using hshort.le)
          exact hend ⟨_, by omega, (List.prefix_replicate_iff.1 hbelow).2⟩
        · have hwithin := List.prefix_of_prefix_length_le hprefix hself (by simpa using hlong)
          exact htriple hwithin.isInfix
      obtain ⟨seen', hstep⟩ := exists_longLiteral_cons hopen (hs c List.mem_cons_self) seen
      rw [List.cons_append, hstep, ih (fun d hd => hs d (List.mem_cons_of_mem c hd))
        fun hinfix => htriple (List.infix_cons hinfix)]
      rfl

lemma hasTriple_iff (s : List Char) : hasTriple quote s = true ↔ List.replicate 3 quote <:+: s := by
  fun_induction hasTriple quote s with
  | case1 a b c s ih =>
    rw [Bool.or_eq_true, ih]
    refine Iff.trans (or_congr ?_ Iff.rfl) List.infix_cons_iff.symm
    simp only [Bool.and_eq_true, beq_iff_eq, List.replicate_succ, List.replicate_zero,
      List.cons_prefix_cons, List.nil_prefix, and_true, and_assoc, @eq_comm _ quote]
  | case2 s hshort =>
    simp only [Bool.false_eq_true, false_iff]
    intro hinfix
    have := hinfix.length_le
    match s, hshort with
    | [], _ | [_], _ | [_, _], _ => simp at this
    | a :: b :: c :: s, hshort => exact hshort a b c s rfl

/-! ### Strings in any form -/

/-- What may follow a string: anything but a quote. -/
def Unquoted (rest : List Char) : Prop := rest.head? ≠ some '"' ∧ rest.head? ≠ some '\''

/-- A quote, a body that begins with no quote and another quote are not taken for three. -/
lemma dropFront?_quoted (hbody : ∀ c ∈ s.head?, c ≠ quote) (hrest : rest.head? ≠ some quote) :
    Text.dropFront? [quote, quote, quote] (quote :: (s ++ quote :: rest)) = none := by
  have hone : ∀ {t : List Char}, t.head? ≠ some quote →
      Text.dropFront? [quote] t = none := by
    intro t ht
    rw [Text.dropFront?_eq_none]
    rintro ⟨u, rfl⟩
    exact ht rfl
  rw [Text.dropFront?, if_pos rfl]
  cases s with
  | nil => rw [List.nil_append, Text.dropFront?, if_pos rfl, hone hrest]
  | cons c s => exact if_neg (Ne.symm (hbody c rfl))

lemma head?_escapedLine (s : List Char) : ∀ c ∈ (escapedLine s).head?, c ≠ '"' := by
  cases s with
  | nil => simp [escapedLine]
  | cons c s =>
    rw [escapedLine_cons]
    split_ifs with hescape
    · obtain ⟨tail, htail, -⟩ := exists_escapeOf hescape
      simp [htail]
    · simp only [not_or] at hescape
      simpa using hescape.1

lemma string_basic (hrest : Unquoted rest) (s : List Char) :
    string ('"' :: escapedLine s ++ '"' :: rest) = .ok (s, rest) := by
  rw [List.cons_append, string.eq_def]
  simp only [dropFront?_quoted (head?_escapedLine s) hrest.1]
  exact basic_escapedLine s rest

lemma string_literal (hrest : Unquoted rest) (hs : ∀ c ∈ s, isLiteral c = true) :
    string ('\'' :: s ++ '\'' :: rest) = .ok (s, rest) := by
  have hhead : ∀ c ∈ s.head?, c ≠ '\'' := by
    rintro c hc rfl
    exact absurd (hs _ (List.mem_of_mem_head? hc)) (by decide)
  rw [List.cons_append, string.eq_def]
  simp only [dropFront?_quoted hhead hrest.2]
  exact literal_self hs rest

/-- Between triple quotes a body starts behind the line break that was put in front of it, or else
with no line break at all. -/
lemma dropNewline_body {hasNewline : Bool} (hquote : quote ≠ '\n' ∧ quote ≠ '\r')
    (hbody : hasNewline = false → ∀ c ∈ s.head?, c ≠ '\n' ∧ c ≠ '\r') :
    dropNewline ((if hasNewline then ['\n'] else []) ++ (s ++ (List.replicate 3 quote ++ rest))) =
      s ++ (List.replicate 3 quote ++ rest) := by
  cases hasNewline with
  | true => rfl
  | false =>
    have hhead : ∃ c t, s ++ (List.replicate 3 quote ++ rest) = c :: t ∧ c ≠ '\n' ∧ c ≠ '\r' := by
      cases s with
      | nil => exact ⟨quote, _, rfl, hquote⟩
      | cons c s => exact ⟨c, _, rfl, hbody rfl c rfl⟩
    obtain ⟨c, t, ht, hline, hreturn⟩ := hhead
    rw [if_neg Bool.false_ne_true, List.nil_append, ht, dropNewline, newline?_cons hline hreturn,
      Option.getD_none]

lemma tripled_append (quote : Char) (hasNewline : Bool) (s rest : List Char) :
    tripled quote hasNewline s ++ rest = quote :: quote :: quote ::
      ((if hasNewline then ['\n'] else []) ++ (s ++ (List.replicate 3 quote ++ rest))) := by
  simp only [tripled, List.append_assoc]
  rfl

lemma head?_escapedLines (hs : s.any (· == '\n') = false) :
    ∀ c ∈ (escapedLines 0 s).head?, c ≠ '\n' ∧ c ≠ '\r' := by
  cases s with
  | nil => simp [escapedLines]
  | cons c s =>
    by_cases hquote : c = '"'
    · simp [hquote, escapedLines]
    · cases hescape : needsEscape c with
      | true =>
        obtain ⟨tail, htail, -⟩ := exists_escapeOf (Or.inr (Or.inr hescape))
        simp [escapedLines_escape hquote hescape, htail]
      | false =>
        have hline : c ≠ '\n' := by simpa using (List.any_eq_false.1 hs) c List.mem_cons_self
        have hplain := (isBasic_iff.1 (isBasic_of_needsEscape hquote hline hescape)).1.1
        simpa [escapedLines_plain hquote hescape] using ⟨hline, ne_return_of_isPlain hplain⟩

lemma string_basicLines (hrest : Unquoted rest) (s : List Char) :
    string (tripled '"' (s.any (· == '\n')) (escapedLines 0 s) ++ rest) = .ok (s, rest) := by
  rw [tripled_append, string.eq_def]
  have hbody := @dropNewline_body '"' (escapedLines 0 s) rest _ (by decide) head?_escapedLines
  exact (congrArg (longBasic 0) hbody).trans
    (longBasic_escapedLines hrest.1 (Nat.zero_le 2) 0 s)

lemma string_literalLines (hrest : Unquoted rest) (hs : ∀ c ∈ s, isControl c = false)
    (htriple : hasTriple '\'' s = false) :
    string (tripled '\'' (s.any (· == '\n')) s ++ rest) = .ok (s, rest) := by
  have hplain : ∀ c ∈ s, c = '\n' ∨ isPlain c = true := by
    intro c hc
    by_cases hline : c = '\n'
    · exact Or.inl hline
    · exact Or.inr (isPlain_of_isControl (hs c hc) hline)
  have hhead : s.any (· == '\n') = false → ∀ c ∈ s.head?, c ≠ '\n' ∧ c ≠ '\r' := by
    intro hnone c hc
    have hmem := List.mem_of_mem_head? hc
    have hline : c ≠ '\n' := by simpa using List.any_eq_false.1 hnone c hmem
    exact ⟨hline, ne_return_of_isPlain ((hplain c hmem).resolve_left hline)⟩
  have hinfix : ¬ List.replicate 3 '\'' <:+: s := by
    rw [← hasTriple_iff, htriple]
    exact Bool.false_ne_true
  have hbody := @dropNewline_body '\'' s rest _ (by decide) hhead
  rw [tripled_append, string.eq_def]
  exact (congrArg (longLiteral 0) hbody).trans (longLiteral_self hrest.2 hplain hinfix 0)

/-- A string is read back from how it is written. -/
lemma string_stringChars (hrest : Unquoted rest) (s : List Char) :
    string (stringChars s ++ rest) = .ok (s, rest) := by
  have hbasic : string (('"' :: escapedLine s ++ ['"']) ++ rest) = .ok (s, rest) := by
    rw [List.append_assoc]
    exact string_basic hrest s
  simp only [stringChars]
  -- the forms in the order in which they are tried; those with escapes hold any string
  split_ifs with hplain hliteral hlines hliterals hline
  · exact hbasic
  · simp only [Bool.and_eq_true, Bool.not_eq_true', List.any_eq_false, Bool.not_eq_true, beq_iff_eq]
      at hliteral
    obtain ⟨⟨hcontrol, hline⟩, hquote⟩ := hliteral
    rw [List.append_assoc]
    refine string_literal hrest fun c hc => ?_
    rw [isLiteral, isPlain_of_isControl (hcontrol c hc) (hline c hc), Bool.true_and, bne_iff_ne]
    exact hquote c hc
  · exact string_basicLines hrest s
  · simp only [Bool.and_eq_true, Bool.not_eq_true', List.any_eq_false, Bool.not_eq_true]
      at hliterals
    exact string_literalLines hrest hliterals.1 hliterals.2
  · exact string_basicLines hrest s
  · exact hbasic

/-- Of the four quotes at the end, the first belongs to the string. -/
example : stringText "l'\"été\"" = "\"\"\"l'\"été\"\"\"\"" := by decide

end Walkthrough.Toml
