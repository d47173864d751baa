import Mathlib.Data.List.Basic
import Walkthrough.Json.Printer
import Walkthrough.Json.Reader
import Walkthrough.Proofs.Cutting
import Walkthrough.Proofs.Numerals

/-!
# JSON values are read back

Main statement: a value whose numbers are natural numbers is read back from its text.  The text of a
value is read off the front with anything behind it that a printed value is followed by, a comma, a
line break or nothing, so that only a number has to say where it ends.  The readers count their
calls, and the length of a text is more than enough of them.
-/

namespace Walkthrough.Json

/-- A value whose numbers are natural numbers. -/
inductive Counted : Json → Prop
  | null : Counted .null
  | bool (value : Bool) : Counted (.bool value)
  | number (n : Nat) : Counted (.number (toString n))
  | string (text : String) : Counted (.string text)
  | array {elements : List Json} (h : ∀ e ∈ elements, Counted e) : Counted (.array elements)
  | object {members : List (String × Json)} (h : ∀ m ∈ members, Counted m.2) :
    Counted (.object members)

/-! ### Texts -/

section Texts

variable {c d : Char} {s rest : List Char}

lemma stringRest?_plain (hquote : c ≠ '"') (hslash : c ≠ '\\') (hcontrol : ¬ c.toNat < 0x20)
    (s : List Char) :
    stringRest? (c :: s) = (stringRest? s).map fun r => (c :: r.1, r.2) := by
  rw [stringRest?.eq_def]
  simp only [if_neg hquote, if_neg hslash, if_neg hcontrol]

lemma stringRest?_simple (hu : c ≠ 'u') (h : simpleEscape? c = some d) (s : List Char) :
    stringRest? ('\\' :: c :: s) = (stringRest? s).map fun r => (d :: r.1, r.2) := by
  rw [stringRest?, if_neg (by decide), if_pos rfl]
  simp only [if_neg hu, h]

lemma stringRest?_unicode (h : unicodeEscape? s = some (d, rest)) :
    stringRest? ('\\' :: 'u' :: s) = (stringRest? rest).map fun r => (d :: r.1, r.2) := by
  rw [stringRest?, if_neg (by decide), if_pos rfl]
  simp only [if_true]
  split
  · next u rest' hsome =>
    rw [h] at hsome
    obtain ⟨rfl, rfl⟩ := Prod.mk.inj (Option.some.inj hsome)
    rfl
  · next hnone =>
    rw [h] at hnone
    cases hnone

lemma hexDigit?_hexDigit : ∀ n < 16, Text.hexDigit? (hexDigit n) = some n := by decide

lemma unicodeEscape?_control {n : Nat} (hn : n < 0x20) (s : List Char) :
    unicodeEscape? ('0' :: '0' :: hexDigit (n / 16) :: hexDigit (n % 16) :: s) =
      some (Char.ofNat n, s) := by
  have hzero : Text.hexDigit? '0' = some 0 := rfl
  have hunit : codeUnit? ('0' :: '0' :: hexDigit (n / 16) :: hexDigit (n % 16) :: s) =
      some (n, s) := by
    simp only [codeUnit?, Text.digitsInBase?, hzero, hexDigit?_hexDigit (n / 16) (by omega),
      hexDigit?_hexDigit (n % 16) (by omega), Option.bind_some, Option.map_some,
      Option.some.injEq, Prod.mk.injEq, and_true]
    omega
  rw [unicodeEscape?, hunit]
  simp only
  rw [if_neg (by omega), if_neg (by omega)]

/-- A character is read back from how it is written. -/
lemma stringRest?_escapedChar (c : Char) (s : List Char) :
    stringRest? (escapedChar c ++ s) = (stringRest? s).map fun r => (c :: r.1, r.2) := by
  have hcode {n : Nat} (h : c.toNat = n) : c = Char.ofNat n := by rw [← h, Char.ofNat_toNat]
  rw [escapedChar]
  split_ifs with hquote hslash hback htab hline hform hreturn hcontrol
  · subst hquote
    exact stringRest?_simple (by decide) rfl s
  · subst hslash
    exact stringRest?_simple (by decide) rfl s
  · obtain rfl := hcode hback
    exact stringRest?_simple (by decide) rfl s
  · obtain rfl := hcode htab
    exact stringRest?_simple (by decide) rfl s
  · obtain rfl := hcode hline
    exact stringRest?_simple (by decide) rfl s
  · obtain rfl := hcode hform
    exact stringRest?_simple (by decide) rfl s
  · obtain rfl := hcode hreturn
    exact stringRest?_simple (by decide) rfl s
  · have hunicode := unicodeEscape?_control hcontrol s
    rw [Char.ofNat_toNat] at hunicode
    exact stringRest?_unicode hunicode
  · exact stringRest?_plain hquote hslash hcontrol s

lemma stringRest?_flatMap (text rest : List Char) :
    stringRest? (text.flatMap escapedChar ++ '"' :: rest) = some (text, rest) := by
  induction text with
  | nil =>
    rw [List.flatMap_nil, List.nil_append, stringRest?.eq_def]
    simp only [if_true]
  | cons c text ih =>
    rw [List.flatMap_cons, List.append_assoc, stringRest?_escapedChar, ih, Option.map_some]

end Texts

/-! ### Numbers -/

/-- What may follow a value: a comma, a line break or nothing. -/
def Follows (rest : List Char) : Prop := ∀ c ∈ rest.head?, c = ',' ∨ c = '\n'

section Numbers

variable {rest : List Char} {n : Nat}

lemma follows_nil : Follows [] := by simp [Follows]

lemma follows_cons {c : Char} (h : c = ',' ∨ c = '\n') (s : List Char) : Follows (c :: s) := by
  rintro d ⟨⟩
  exact h

lemma Follows.isDigit (h : Follows rest) : ∀ c ∈ rest.head?, Text.isDigit c = false := by
  intro c hc
  rcases h c hc with rfl | rfl <;> decide

lemma digits?_toDigits (h : Follows rest) (n : Nat) :
    digits? (Nat.toDigits 10 n ++ rest) = some (Nat.toDigits 10 n, rest) := by
  have hdigits : ∀ c ∈ Nat.toDigits 10 n, Text.isDigit c = true :=
    fun _ => Text.isDigit_of_mem_toDigits
  rw [digits?, Text.takeWhile_append_stop hdigits h.isDigit,
    Text.dropWhile_append_stop hdigits h.isDigit, if_neg (by simp)]

/-- Only the number zero starts with a zero. -/
lemma head?_toDigits (hn : n ≠ 0) : (Nat.toDigits 10 n).head? ≠ some '0' := by
  induction n using Nat.strong_induction_on with
  | _ n ih =>
    rw [Nat.toDigits_eq_if (by decide)]
    split_ifs with hsmall
    · simpa using hn
    · rw [List.head?_append_of_ne_nil _ Nat.toDigits_ne_nil]
      exact ih (n / 10) (by omega) (by omega)

lemma wholePart?_toDigits (h : Follows rest) (n : Nat) :
    wholePart? (Nat.toDigits 10 n ++ rest) = some (Nat.toDigits 10 n, rest) := by
  by_cases hn : n = 0
  · subst hn
    rfl
  · have hhead := head?_toDigits hn
    rw [← digits?_toDigits h n]
    obtain ⟨c, digits, hcons, -⟩ := Text.exists_toDigits_eq_cons n
    rw [hcons] at hhead ⊢
    have hc : c ≠ '0' := by simpa using hhead
    rw [List.cons_append]
    simp [wholePart?, hc]

/-- A number ends where something follows that is no part of it. -/
lemma number?_toDigits (h : Follows rest) (n : Nat) :
    number? (Nat.toDigits 10 n ++ rest) = some (Nat.toDigits 10 n, rest) := by
  have hwhole := wholePart?_toDigits h n
  have hfraction : fractionPart? rest = some ([], rest) := by
    cases rest with
    | nil => rfl
    | cons c rest => rcases h c rfl with rfl | rfl <;> rfl
  have hexponent : exponentPart? rest = some ([], rest) := by
    cases rest with
    | nil => rfl
    | cons c rest => rcases h c rfl with rfl | rfl <;> rfl
  obtain ⟨c, digits, hcons, hc⟩ := Text.exists_toDigits_eq_cons n
  have hminus : c ≠ '-' := by
    rintro rfl
    exact absurd hc (by decide)
  rw [hcons, List.cons_append] at hwhole ⊢
  simp [number?, hminus, hwhole, hfraction, hexponent]

end Numbers

/-! ### Values by their first character -/

section Values

variable {fuel depth : Nat} {c : Char} {s rest gap : List Char}

lemma newline_isSpace (depth : Nat) : ∀ c ∈ newline depth, isSpace c = true := by
  intro c hc
  rcases List.mem_cons.1 hc with rfl | hc
  · rfl
  · rw [List.eq_of_mem_replicate hc]
    rfl

/-- A gap in front of a value is passed over. -/
lemma value?_gap (hgap : ∀ c ∈ gap, isSpace c = true) (fuel : Nat) (s : List Char) :
    value? fuel (gap ++ s) = value? fuel s := by
  cases fuel with
  | zero => rfl
  | succ fuel => rw [value?, value?, List.dropWhile_append_of_pos hgap]

lemma value?_quote (fuel : Nat) (text rest : List Char) :
    value? (fuel + 1) ('"' :: (text.flatMap escapedChar ++ '"' :: rest)) =
      some (string (String.ofList text), rest) := by
  change (stringRest? (text.flatMap escapedChar ++ '"' :: rest)).map _ = _
  rw [stringRest?_flatMap, Option.map_some]

lemma value?_bracket (hs : s.dropWhile isSpace = c :: rest) (hc : c ≠ ']') (fuel : Nat) :
    value? (fuel + 1) ('[' :: s) = (elements? fuel s).map fun r => (array r.1, r.2) := by
  rw [value?, List.dropWhile_cons_of_neg (by decide)]
  simp [hs, hc]

lemma value?_brace (hs : s.dropWhile isSpace = c :: rest) (hc : c ≠ '\x7d') (fuel : Nat) :
    value? (fuel + 1) ('\x7b' :: s) = (members? fuel s).map fun r => (object r.1, r.2) := by
  rw [value?, List.dropWhile_cons_of_neg (by decide)]
  simp [hs, hc]

lemma ne_of_isDigit (hc : Text.isDigit c = true) :
    isSpace c = false ∧ c ≠ '"' ∧ c ≠ '[' ∧ c ≠ ']' ∧ c ≠ '\x7b' ∧ c ≠ 'n' ∧ c ≠ 't' ∧ c ≠ 'f' := by
  refine ⟨?_, ?_, ?_, ?_, ?_, ?_, ?_, ?_⟩
  · by_contra hspace
    rw [Bool.not_eq_false, isSpace] at hspace
    simp only [Bool.or_eq_true, beq_iff_eq] at hspace
    rcases hspace with ((rfl | rfl) | rfl) | rfl <;> exact absurd hc (by decide)
  all_goals
    rintro rfl
    exact absurd hc (by decide)

lemma value?_digit (hc : Text.isDigit c = true) (fuel : Nat) (s : List Char) :
    value? (fuel + 1) (c :: s) =
      (number? (c :: s)).map fun r => (number (String.ofList r.1), r.2) := by
  obtain ⟨hspace, hquote, hopen, -, hbrace, hn, ht, hf⟩ := ne_of_isDigit hc
  rw [value?, List.dropWhile_cons_of_neg (by simp [hspace])]
  simp only [if_neg hquote, if_neg hopen, if_neg hbrace, if_neg hn, if_neg ht, if_neg hf]

/-- A printed value starts with a character that neither is a space nor closes an array. -/
lemma Counted.exists_cons {j : Json} (h : Counted j) (depth : Nat) :
    ∃ c s, chars depth j = c :: s ∧ isSpace c = false ∧ c ≠ ']' := by
  cases h with
  | null => exact ⟨'n', _, rfl, by decide, by decide⟩
  | bool value => cases value <;> exact ⟨_, _, rfl, by decide, by decide⟩
  | number n =>
    obtain ⟨c, digits, hcons, hc⟩ := Text.exists_toDigits_eq_cons n
    obtain ⟨hspace, -, -, hclose, -⟩ := ne_of_isDigit hc
    refine ⟨c, digits, ?_, hspace, hclose⟩
    rw [chars, Nat.toString_eq_repr, Nat.toList_repr, hcons]
  | string text => exact ⟨'"', _, rfl, by decide, by decide⟩
  | array h =>
    rw [chars, enclosed]
    split_ifs <;> exact ⟨'[', _, rfl, by decide, by decide⟩
  | object h =>
    rw [chars, enclosed]
    split_ifs <;> exact ⟨'\x7b', _, rfl, by decide, by decide⟩

/-- A value is read off the front of a text that goes on behind it. -/
def Reads (j : Json) : Prop :=
  ∀ depth fuel rest, (chars depth j).length < fuel → Follows rest →
    value? fuel (chars depth j ++ rest) = some (j, rest)

/-- A text is never empty, so there is always a call left to start with. -/
lemma Reads.of_succ {j : Json} (h : ∀ depth fuel rest, (chars depth j).length ≤ fuel →
    Follows rest → value? (fuel + 1) (chars depth j ++ rest) = some (j, rest)) : Reads j := by
  intro depth fuel rest hfuel hrest
  obtain ⟨fuel, rfl⟩ : ∃ f, fuel = f + 1 := ⟨fuel - 1, by omega⟩
  exact h depth fuel rest (Nat.le_of_lt_succ hfuel) hrest

lemma dropWhile_newline (depth : Nat) (hc : isSpace c = false) (s : List Char) :
    (newline depth ++ c :: s).dropWhile isSpace = c :: s :=
  Text.dropWhile_append_stop (newline_isSpace depth) (Text.stop_cons hc s)

lemma follows_newline (depth : Nat) (s : List Char) : Follows (newline depth ++ s) :=
  follows_cons (Or.inr rfl) _

lemma length_newline (depth : Nat) : (newline depth).length = 2 * depth + 1 := by
  rw [newline, List.length_cons, List.length_replicate]

/-! ### Elements and members -/

lemma elements?_comma {e : Json} (h : value? fuel s = some (e, ',' :: rest)) :
    elements? (fuel + 1) s = (elements? fuel rest).map fun r => (e :: r.1, r.2) := by
  rw [elements?, h]
  rfl

lemma elements?_last {e : Json} (h : value? fuel s = some (e, gap))
    (hgap : gap.dropWhile isSpace = ']' :: rest) :
    elements? (fuel + 1) s = some ([e], rest) := by
  rw [elements?, h]
  simp only [hgap]

/-- The elements of an array are read off the front, each behind its line break. -/
lemma elements?_separated {elements : List Json} (hne : elements ≠ [])
    (h : ∀ e ∈ elements, Reads e) (depth outer fuel : Nat) (rest : List Char)
    (hfuel : (separated depth (elementChars depth elements)).length + 1 < fuel) :
    elements? fuel (newline depth ++ (separated depth (elementChars depth elements) ++
      (newline outer ++ ']' :: rest))) = some (elements, rest) := by
  induction elements generalizing fuel with
  | nil => exact absurd rfl hne
  | cons e elements ih =>
    obtain ⟨he, helements⟩ := List.forall_mem_cons.1 h
    obtain ⟨fuel, rfl⟩ : ∃ f, fuel = f + 1 := ⟨fuel - 1, by omega⟩
    cases elements with
    | nil =>
      simp only [elementChars, separated] at hfuel ⊢
      refine elements?_last ?_ (dropWhile_newline outer (by decide) rest)
      rw [value?_gap (newline_isSpace depth)]
      exact he depth fuel _ (by omega) (follows_newline _ _)
    | cons next elements =>
      have htail := ih (by simp) helements fuel
      simp only [elementChars, separated, List.length_append, List.length_cons, length_newline,
        List.append_assoc, List.cons_append] at hfuel htail ⊢
      rw [elements?_comma (e := e), htail (by omega), Option.map_some]
      rw [value?_gap (newline_isSpace depth)]
      exact he depth fuel _ (by omega) (follows_cons (Or.inl rfl) _)

section Member

variable {key : String} {v : Json}

/-- The name of a member, with a gap in front of it and a colon behind it. -/
lemma members?_key (hgap : ∀ c ∈ gap, isSpace c = true) (key : String) (fuel : Nat)
    (s : List Char) :
    members? (fuel + 1) (gap ++ (textChars key ++ ':' :: s)) =
      match value? fuel s with
      | none => none
      | some (v, s) =>
        match s.dropWhile isSpace with
        | ',' :: s => (members? fuel s).map fun r => ((key, v) :: r.1, r.2)
        | '\x7d' :: s => some ([(key, v)], s)
        | _ => none := by
  have hdrop : (gap ++ (textChars key ++ ':' :: s)).dropWhile isSpace =
      '"' :: (key.toList.flatMap escapedChar ++ '"' :: ':' :: s) := by
    rw [textChars, List.append_assoc]
    exact Text.dropWhile_append_stop hgap (Text.stop_cons (by decide) _)
  rw [members?, hdrop]
  simp only [stringRest?_flatMap, String.ofList_toList]
  rfl

lemma members?_comma (hgap : ∀ c ∈ gap, isSpace c = true)
    (h : value? fuel s = some (v, ',' :: rest)) :
    members? (fuel + 1) (gap ++ (textChars key ++ ':' :: s)) =
      (members? fuel rest).map fun r => ((key, v) :: r.1, r.2) := by
  rw [members?_key hgap, h]
  rfl

lemma members?_last (hgap : ∀ c ∈ gap, isSpace c = true) {last : List Char}
    (h : value? fuel s = some (v, last)) (hlast : last.dropWhile isSpace = '\x7d' :: rest) :
    members? (fuel + 1) (gap ++ (textChars key ++ ':' :: s)) = some ([(key, v)], rest) := by
  rw [members?_key hgap, h]
  simp only [hlast]

end Member

/-- The members of an object are read off the front, each behind its line break. -/
lemma members?_separated {members : List (String × Json)} (hne : members ≠ [])
    (h : ∀ m ∈ members, Reads m.2) (depth outer fuel : Nat) (rest : List Char)
    (hfuel : (separated depth (memberChars depth members)).length + 1 < fuel) :
    members? fuel (newline depth ++ (separated depth (memberChars depth members) ++
      (newline outer ++ '\x7d' :: rest))) = some (members, rest) := by
  have hspace : ∀ c ∈ [' '], isSpace c = true := List.forall_mem_singleton.2 rfl
  induction members generalizing fuel with
  | nil => exact absurd rfl hne
  | cons m members ih =>
    obtain ⟨key, v⟩ := m
    obtain ⟨hv, hmembers⟩ := List.forall_mem_cons.1 h
    have hv : Reads v := hv
    obtain ⟨fuel, rfl⟩ : ∃ f, fuel = f + 1 := ⟨fuel - 1, by omega⟩
    cases members with
    | nil =>
      simp only [memberChars, separated, List.length_append, List.length_cons, List.append_assoc,
        List.cons_append] at hfuel ⊢
      refine members?_last (newline_isSpace depth) ?_ (dropWhile_newline outer (by decide) rest)
      refine (value?_gap hspace fuel _).trans ?_
      exact hv depth fuel _ (by omega) (follows_newline _ _)
    | cons next members =>
      have htail := ih (by simp) hmembers fuel
      obtain ⟨key', v'⟩ := next
      simp only [memberChars, separated, List.length_append, List.length_cons, length_newline,
        List.append_assoc, List.cons_append] at hfuel htail ⊢
      rw [members?_comma (newline_isSpace depth) (v := v), htail (by omega), Option.map_some]
      refine (value?_gap hspace fuel _).trans ?_
      exact hv depth fuel _ (by omega) (follows_cons (Or.inl rfl) _)

/-! ### All values -/

lemma enclosed_of_ne_nil {items : List (List Char)} (h : items ≠ []) (depth : Nat)
    (first last : Char) :
    enclosed depth first last items =
      first :: (newline (depth + 1) ++
        (separated (depth + 1) items ++ (newline depth ++ [last]))) := by
  rw [enclosed, if_neg (by simpa using h)]
  simp only [List.cons_append, List.append_assoc]

lemma elementChars_cons_ne_nil (depth : Nat) (e : Json) (elements : List Json) :
    elementChars depth (e :: elements) ≠ [] := by simp [elementChars]

lemma memberChars_cons_ne_nil (depth : Nat) (m : String × Json) (members : List (String × Json)) :
    memberChars depth (m :: members) ≠ [] := by simp [memberChars]

/-- The items of an array or object start behind the line break. -/
lemma dropWhile_separated {item : List Char} (hitem : item = c :: s) (hc : isSpace c = false)
    (depth : Nat) (items : List (List Char)) (tail : List Char) :
    ∃ rest, (newline depth ++ (separated depth (item :: items) ++ tail)).dropWhile isSpace =
      c :: rest := by
  subst hitem
  cases items with
  | nil => exact ⟨_, dropWhile_newline depth hc _⟩
  | cons next items =>
    simp only [separated, List.cons_append]
    exact ⟨_, dropWhile_newline depth hc _⟩

lemma exists_dropWhile_elements {elements : List Json} (hne : elements ≠ [])
    (h : ∀ e ∈ elements, Counted e) (depth : Nat) (tail : List Char) :
    ∃ c rest, (newline depth ++ (separated depth (elementChars depth elements) ++ tail)).dropWhile
      isSpace = c :: rest ∧ c ≠ ']' := by
  obtain ⟨e, elements, rfl⟩ := List.exists_cons_of_ne_nil hne
  obtain ⟨c, s, hchars, hspace, hclose⟩ := (h e List.mem_cons_self).exists_cons depth
  obtain ⟨rest, hrest⟩ := dropWhile_separated hchars hspace depth (elementChars depth elements) tail
  exact ⟨c, rest, hrest, hclose⟩

lemma exists_dropWhile_members {members : List (String × Json)} (hne : members ≠ [])
    (depth : Nat) (tail : List Char) :
    ∃ rest, (newline depth ++ (separated depth (memberChars depth members) ++ tail)).dropWhile
      isSpace = '"' :: rest := by
  obtain ⟨⟨key, v⟩, members, rfl⟩ := List.exists_cons_of_ne_nil hne
  have hmember : textChars key ++ ':' :: ' ' :: chars depth v =
      '"' :: (key.toList.flatMap escapedChar ++ ['"'] ++ ':' :: ' ' :: chars depth v) := rfl
  exact dropWhile_separated hmember (by decide) depth (memberChars depth members) tail

lemma Counted.reads {j : Json} (h : Counted j) : Reads j := by
  induction h with
  | null => exact .of_succ fun _ _ _ _ _ => rfl
  | bool value =>
    refine .of_succ fun _ _ _ _ _ => ?_
    cases value <;> rfl
  | number n =>
    refine .of_succ fun depth fuel rest hfuel hrest => ?_
    have hnumber := number?_toDigits hrest n
    have hchars : chars depth (.number (toString n)) = Nat.toDigits 10 n := by
      rw [chars, Nat.toString_eq_repr, Nat.toList_repr]
    obtain ⟨c, digits, hcons, hc⟩ := Text.exists_toDigits_eq_cons n
    rw [hchars, Nat.toString_eq_ofList_toDigits]
    rw [hcons, List.cons_append] at hnumber ⊢
    rw [value?_digit hc, hnumber, Option.map_some]
  | string text =>
    refine .of_succ fun depth fuel rest hfuel _ => ?_
    have hquote := value?_quote fuel text.toList rest
    rw [String.ofList_toList] at hquote
    rw [chars, textChars, List.append_assoc]
    exact hquote
  | @array elements hcounted ih =>
    refine .of_succ fun depth fuel rest hfuel _ => ?_
    cases elements with
    | nil => rfl
    | cons e elements =>
      rw [chars, enclosed_of_ne_nil (elementChars_cons_ne_nil _ _ _)] at hfuel ⊢
      obtain ⟨c, first, hfirst, hclose⟩ := exists_dropWhile_elements (by simp) hcounted (depth + 1)
        (newline depth ++ ']' :: rest)
      simp only [List.length_cons, List.length_append, length_newline] at hfuel
      simp only [List.cons_append, List.append_assoc, List.nil_append]
      rw [value?_bracket hfirst hclose,
        elements?_separated (by simp) ih (depth + 1) depth fuel rest (by omega), Option.map_some]
  | @object members hcounted ih =>
    refine .of_succ fun depth fuel rest hfuel _ => ?_
    cases members with
    | nil => rfl
    | cons m members =>
      rw [chars, enclosed_of_ne_nil (memberChars_cons_ne_nil _ _ _)] at hfuel ⊢
      have hne : m :: members ≠ [] := List.cons_ne_nil m members
      obtain ⟨first, hfirst⟩ := exists_dropWhile_members hne (depth + 1)
        (newline depth ++ '\x7d' :: rest)
      simp only [List.length_cons, List.length_append, length_newline] at hfuel
      simp only [List.cons_append, List.append_assoc, List.nil_append]
      rw [value?_brace hfirst (by decide),
        members?_separated (by simp) ih (depth + 1) depth fuel rest (by omega), Option.map_some]

end Values

/-- A value whose numbers are natural numbers is read back from its text. -/
lemma ofText?_text {j : Json} (h : Counted j) : ofText? j.text = some j := by
  have hvalue := h.reads 0 ((chars 0 j).length + 1) [] (Nat.lt_succ_self _) follows_nil
  rw [List.append_nil] at hvalue
  have hlength : j.text.length = (chars 0 j).length := by
    rw [text, ← String.length_toList, String.toList_ofList]
  rw [ofText?, hlength, text, String.toList_ofList, hvalue]
  rfl

end Walkthrough.Json
