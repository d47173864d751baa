import Mathlib.Algebra.Ring.Nat
import Mathlib.Data.List.Basic
import Walkthrough.Moment.Written
import Walkthrough.Text.Blank
import Walkthrough.Text.Numeral

/-!
# Numbers in decimal digits

Indices, and the parts of a moment, are written in decimal digits, the latter with zeros in front up
to a fixed width.  Both are digits alone, and reading them gives the number back.
-/

namespace Walkthrough

namespace Text

variable {s : List Char} {n : Nat}

lemma digit?_eq (c : Char) : digit? c = if c.isDigit then some (c.toNat - '0'.toNat) else none := by
  have hiff : ('0' ≤ c ∧ c ≤ '9') ↔ c.isDigit = true := by
    rw [Char.isDigit, Bool.and_eq_true, decide_eq_true_iff, decide_eq_true_iff]
    exact Iff.rfl
  simp only [digit?, hiff]

lemma isDigit_eq (c : Char) : isDigit c = c.isDigit := by
  rw [isDigit, digit?_eq]
  cases c.isDigit <;> rfl

lemma digitsFrom?_eq (h : ∀ c ∈ s, isDigit c = true) (n : Nat) :
    digitsFrom? n s = some (Nat.ofDigitChars 10 s n) := by
  induction s generalizing n with
  | nil => rfl
  | cons c s ih =>
    obtain ⟨hc, hs⟩ := List.forall_mem_cons.1 h
    rw [isDigit_eq] at hc
    rw [digitsFrom?, digitsInBase?, digit?_eq, if_pos hc, Option.bind_some, Nat.ofDigitChars_cons]
    exact ih hs _

lemma natural?_eq (hne : s ≠ []) (h : ∀ c ∈ s, isDigit c = true) :
    natural? s = some (Nat.ofDigitChars 10 s 0) := by
  obtain ⟨c, s, rfl⟩ := List.exists_cons_of_ne_nil hne
  exact digitsFrom?_eq h 0

lemma isDigit_of_mem_toDigits {c : Char} (h : c ∈ Nat.toDigits 10 n) : isDigit c = true := by
  rw [isDigit_eq]
  exact Nat.isDigit_of_mem_toDigits (by decide) (by decide) h

lemma isDigit_of_mem_toString {c : Char} (n : Nat) (h : c ∈ (toString n).toList) :
    isDigit c = true := by
  rw [Nat.toString_eq_repr, Nat.toList_repr] at h
  exact isDigit_of_mem_toDigits h

lemma isBlank_of_isDigit {c : Char} (h : isDigit c = true) : isBlank c = false := by
  have hdigit : 48 ≤ c.toNat ∧ c.toNat ≤ 57 := by rwa [isDigit_eq, Char.isDigit_iff_toNat] at h
  simp only [isBlank, Bool.or_eq_false_iff, Bool.and_eq_false_iff, decide_eq_false_iff_not,
    beq_eq_false_iff_ne]
  omega

/-- A number starts with a digit. -/
lemma exists_toDigits_eq_cons (n : Nat) :
    ∃ c digits, Nat.toDigits 10 n = c :: digits ∧ isDigit c = true := by
  obtain ⟨c, digits, hcons⟩ := List.exists_cons_of_ne_nil (Nat.toDigits_ne_nil (n := n) (b := 10))
  exact ⟨c, digits, hcons, isDigit_of_mem_toDigits (hcons ▸ List.mem_cons_self)⟩

lemma natural?_toDigits (n : Nat) : natural? (Nat.toDigits 10 n) = some n := by
  rw [natural?_eq Nat.toDigits_ne_nil fun _ => isDigit_of_mem_toDigits,
    Nat.ofDigitChars_ten_toDigits]

lemma boundedCount?_toDigits (h : n < countBound) :
    boundedCount? (Nat.toDigits 10 n) = some n := by
  rw [boundedCount?, natural?_toDigits, Option.filter_some, if_pos (decide_eq_true h)]

/-! ### Numerals of any length -/

/-- Whether a text writes a number: decimal digits, however many, after an optional plus sign. -/
def IsNumeralOf (s : String) (n : Nat) : Prop :=
  ∃ digits, (s.toList = digits ∨ s.toList = '+' :: digits) ∧ digits ≠ [] ∧
    (∀ c ∈ digits, isDigit c = true) ∧ Nat.ofDigitChars 10 digits 0 = n

lemma isDigit_of_digitsFrom? (h : (digitsFrom? n s).isSome) : ∀ c ∈ s, isDigit c = true := by
  induction s generalizing n with
  | nil => simp
  | cons c s ih =>
    rw [digitsFrom?, digitsInBase?, Option.isSome_bind, Option.any_eq_true] at h
    obtain ⟨d, hd, hs⟩ := h
    refine List.forall_mem_cons.2 ⟨?_, ih hs⟩
    rw [isDigit, hd, Option.isSome_some]

lemma natural?_eq_some : natural? s = some n ↔
    s ≠ [] ∧ (∀ c ∈ s, isDigit c = true) ∧ Nat.ofDigitChars 10 s 0 = n := by
  constructor
  · intro h
    have hne : s ≠ [] := by
      rintro rfl
      cases h
    obtain ⟨c, s, rfl⟩ := List.exists_cons_of_ne_nil hne
    have hdigits : ∀ d ∈ c :: s, isDigit d = true :=
      isDigit_of_digitsFrom? (n := 0) (by
        rw [show digitsFrom? 0 (c :: s) = some n from h, Option.isSome_some])
    rw [natural?_eq hne hdigits, Option.some.injEq] at h
    exact ⟨hne, hdigits, h⟩
  · rintro ⟨hne, hdigits, rfl⟩
    exact natural?_eq hne hdigits

/-- A list without an optional plus sign at its front. -/
def dropPlus : List Char → List Char
  | '+' :: s => s
  | s => s

lemma dropPlus_eq (h : ∀ c ∈ s, isDigit c = true) : dropPlus s = s := by
  unfold dropPlus
  split
  · exact absurd (h '+' List.mem_cons_self) (by decide)
  · rfl

lemma isNumeralOf_iff {s : String} : IsNumeralOf s n ↔ natural? (dropPlus s.toList) = some n := by
  rw [natural?_eq_some]
  constructor
  · rintro ⟨digits, hs, hne, hdigits, hvalue⟩
    have hdrop : dropPlus s.toList = digits := by
      rcases hs with hs | hs
      · rw [hs, dropPlus_eq hdigits]
      · rw [hs, dropPlus]
    rw [hdrop]
    exact ⟨hne, hdigits, hvalue⟩
  · rintro ⟨hne, hdigits, hvalue⟩
    refine ⟨_, ?_, hne, hdigits, hvalue⟩
    unfold dropPlus
    split
    · next heq => exact Or.inr heq
    · exact Or.inl rfl

lemma IsNumeralOf.unique {s : String} {m : Nat} (h : IsNumeralOf s m) (h' : IsNumeralOf s n) :
    m = n := by
  rw [isNumeralOf_iff] at h h'
  exact Option.some.inj (h.symm.trans h')

/-- What is read as a count is a numeral whose number is small enough. -/
lemma count?_eq_some {s : String} : count? s = some n ↔ IsNumeralOf s n ∧ n < countBound := by
  have hcount : count? s = boundedCount? (dropPlus s.toList) := by
    rw [count?]
    split
    · next digits heq => rw [heq, dropPlus]
    · next digits hplus => rw [dropPlus.eq_2 _ hplus]
  rw [hcount, boundedCount?, Option.filter_eq_some_iff, isNumeralOf_iff, decide_eq_true_iff]

lemma isNumeralOf_toString (n : Nat) : IsNumeralOf (toString n) n := by
  refine ⟨Nat.toDigits 10 n, Or.inl ?_, Nat.toDigits_ne_nil, fun _ => isDigit_of_mem_toDigits,
    Nat.ofDigitChars_ten_toDigits⟩
  rw [Nat.toString_eq_repr, Nat.toList_repr]

end Text

section Padded

variable {width n : Nat}

lemma toList_padded (width n : Nat) :
    (padded width n).toList =
      List.replicate (width - (Nat.toDigits 10 n).length) '0' ++ Nat.toDigits 10 n := by
  rw [padded, String.toList_append, String.toList_ofList, Nat.toString_eq_repr, Nat.toList_repr,
    ← String.length_toList, Nat.toList_repr]

lemma isDigit_of_mem_padded {c : Char} (h : c ∈ (padded width n).toList) :
    Text.isDigit c = true := by
  rw [toList_padded, List.mem_append, List.mem_replicate] at h
  rcases h with ⟨-, rfl⟩ | h
  · rfl
  · exact Text.isDigit_of_mem_toDigits h

lemma ofDigitChars_padded (width n : Nat) :
    Nat.ofDigitChars 10 (padded width n).toList 0 = n := by
  rw [toList_padded, Nat.ofDigitChars_append, Nat.ofDigitChars_replicate_zero, Nat.mul_zero,
    Nat.ofDigitChars_ten_toDigits]

lemma padded_ne_nil (width n : Nat) : (padded width n).toList ≠ [] := by
  rw [toList_padded]
  exact List.append_ne_nil_of_right_ne_nil _ Nat.toDigits_ne_nil

lemma length_padded (hwidth : 0 < width) (hn : n < 10 ^ width) :
    (padded width n).toList.length = width := by
  have hle := (Nat.length_toDigits_le_iff (by decide) hwidth).2 hn
  rw [toList_padded, List.length_append, List.length_replicate]
  omega

end Padded

end Walkthrough
