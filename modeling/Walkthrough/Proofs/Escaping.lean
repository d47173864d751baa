import Mathlib.Data.List.Basic
import Walkthrough.Markup.Reference
import Walkthrough.Markup.Tag
import Walkthrough.Proofs.Trimming

/-!
# Escaped texts

An escaped text has none of the characters that end a tag or a value, and it starts and ends with
blanks just where the text itself does.  Main statement: replacing its references gives the text
back.
-/

namespace Walkthrough.Markup

variable {c d : Char} {s name rest : List Char} {total : Nat}

/-! ### References -/

lemma reference?_append (hname : ∀ c ∈ name, c ≠ ';' ∧ c ≠ '&') (rest : List Char) :
    reference? (name ++ ';' :: rest) = some (name, rest) := by
  induction name with
  | nil => rfl
  | cons c name ih =>
    obtain ⟨hsemicolon, hampersand⟩ := hname c List.mem_cons_self
    rw [List.cons_append, reference?, if_neg hsemicolon, if_neg hampersand,
      ih fun d hd => hname d (List.mem_cons_of_mem _ hd), Option.map_some]

lemma referenced_of_named (h : namedCharacter? name = some c) (first last : Nat) :
    referenced first last name = .ok c := by
  unfold referenced
  split
  · next number => simp [namedCharacter?] at h
  · rw [h]

lemma unescapeFrom_reference (h : reference? s = some (name, rest))
    (hc : namedCharacter? name = some c) :
    unescapeFrom total ('&' :: s) = (unescapeFrom total rest).map (c :: ·) := by
  rw [unescapeFrom, if_pos rfl]
  split
  · next hnone =>
    rw [hnone] at h
    cases h
  · next name' rest' hsome =>
    rw [hsome] at h
    obtain ⟨rfl, rfl⟩ := Prod.mk.inj (Option.some.inj h)
    simp only [referenced_of_named hc]
    rfl

lemma unescapeFrom_plain (hc : c ≠ '&') :
    unescapeFrom total (c :: s) = (unescapeFrom total s).map (c :: ·) := by
  rw [unescapeFrom, if_neg hc]
  rfl

/-! ### Escaped characters -/

/-- A character is written as it stands, or as a reference by its name. -/
lemma escapedChar_cases (c : Char) :
    (escapedChar c = [c] ∧ c ≠ '<' ∧ c ≠ '>' ∧ c ≠ '&' ∧ c ≠ '\'' ∧ c ≠ '"') ∨
      ∃ name, escapedChar c = '&' :: (name ++ [';']) ∧ namedCharacter? name = some c ∧
        ∀ d ∈ name, d.isAlpha = true := by
  rw [escapedChar]
  split_ifs with hlt hgt hamp hapos hquot
  · exact Or.inr ⟨['l', 't'], rfl, hlt ▸ rfl, by simp⟩
  · exact Or.inr ⟨['g', 't'], rfl, hgt ▸ rfl, by simp⟩
  · exact Or.inr ⟨['a', 'm', 'p'], rfl, hamp ▸ rfl, by simp⟩
  · exact Or.inr ⟨['a', 'p', 'o', 's'], rfl, hapos ▸ rfl, by simp⟩
  · exact Or.inr ⟨['q', 'u', 'o', 't'], rfl, hquot ▸ rfl, by simp⟩
  · exact Or.inl ⟨rfl, hlt, hgt, hamp, hapos, hquot⟩

lemma escape_cons (c : Char) (s : List Char) : escape (c :: s) = escapedChar c ++ escape s :=
  List.flatMap_cons

lemma escape_append (s s' : List Char) : escape (s ++ s') = escape s ++ escape s' :=
  List.flatMap_append

/-- Replacing the references of an escaped text gives the text back. -/
lemma unescapeFrom_escape (total : Nat) (s : List Char) :
    unescapeFrom total (escape s) = .ok s := by
  induction s with
  | nil => rw [escape, List.flatMap_nil, unescapeFrom]
  | cons c s ih =>
    rw [escape_cons]
    rcases escapedChar_cases c with ⟨hplain, -, -, hamp, -⟩ | ⟨name, hname, hc, halpha⟩
    · rw [hplain, List.singleton_append, unescapeFrom_plain hamp, ih]
      rfl
    · have hreference : reference? (name ++ ';' :: escape s) = some (name, escape s) := by
        refine reference?_append (fun d hd => ?_) _
        have hd := halpha d hd
        constructor <;> rintro rfl <;> exact absurd hd (by decide)
      rw [hname, List.cons_append, List.append_assoc, List.singleton_append,
        unescapeFrom_reference hreference hc, ih]
      rfl

lemma unescape_escape (s : List Char) : unescape (escape s) = .ok (String.ofList s) := by
  rw [unescape, unescapeFrom_escape]
  rfl

/-! ### What is not in an escaped text -/

/-- The characters that an escaped text does not have. -/
def isMark (c : Char) : Bool := c == '<' || c == '>' || c == '\'' || c == '"'

lemma not_mem_escape (hc : isMark c = true) : c ∉ escape s := by
  intro h
  obtain ⟨d, -, hd⟩ := List.mem_flatMap.1 h
  rcases escapedChar_cases d with ⟨hplain, hlt, hgt, -, hapos, hquot⟩ | ⟨name, hname, -, halpha⟩
  · rw [hplain, List.mem_singleton] at hd
    subst hd
    simp [isMark, hlt, hgt, hapos, hquot] at hc
  · rw [hname, List.mem_cons, List.mem_append, List.mem_singleton] at hd
    rcases hd with rfl | hd | rfl
    · exact absurd hc (by decide)
    · have hletter := halpha c hd
      simp only [isMark, Bool.or_eq_true, beq_iff_eq] at hc
      rcases hc with ((rfl | rfl) | rfl) | rfl <;> exact absurd hletter (by decide)
    · exact absurd hc (by decide)

/-! ### The ends of an escaped text -/

lemma escapedChar_ne_nil (c : Char) : escapedChar c ≠ [] := by
  rcases escapedChar_cases c with ⟨h, -⟩ | ⟨name, h, -⟩ <;> rw [h] <;> simp

lemma escape_ne_nil (h : s ≠ []) : escape s ≠ [] := by
  obtain ⟨c, s, rfl⟩ := List.exists_cons_of_ne_nil h
  rw [escape_cons]
  exact List.append_ne_nil_of_left_ne_nil (escapedChar_ne_nil c) _

lemma head?_escapedChar (c : Char) :
    (escapedChar c).head? = some c ∨ (escapedChar c).head? = some '&' := by
  rcases escapedChar_cases c with ⟨h, -⟩ | ⟨name, h, -⟩
  · exact Or.inl (h ▸ rfl)
  · exact Or.inr (h ▸ rfl)

lemma getLast?_escapedChar (c : Char) :
    (escapedChar c).getLast? = some c ∨ (escapedChar c).getLast? = some ';' := by
  rcases escapedChar_cases c with ⟨h, -⟩ | ⟨name, h, -⟩
  · exact Or.inl (h ▸ rfl)
  · rw [h, ← List.cons_append, List.getLast?_concat]
    exact Or.inr rfl

/-- A text that neither starts nor ends with a blank does not do so when it is escaped. -/
lemma trimmed_escape (h : Text.Trimmed isSpace s) : Text.Trimmed isSpace (escape s) := by
  constructor
  · intro d hd
    cases s with
    | nil => cases hd
    | cons c s =>
      rw [escape_cons, List.head?_append_of_ne_nil _ (escapedChar_ne_nil c)] at hd
      rcases head?_escapedChar c with hc | hc <;> rw [hc, Option.mem_some_iff] at hd
      · exact hd ▸ h.first c rfl
      · exact hd ▸ rfl
  · intro d hd
    cases s using List.reverseRecOn with
    | nil => cases hd
    | append_singleton s c =>
      have hone : escape [c] = escapedChar c := List.flatMap_singleton _ _
      rw [escape_append, hone, List.getLast?_append_of_ne_nil _ (escapedChar_ne_nil c)] at hd
      rcases getLast?_escapedChar c with hc | hc <;> rw [hc, Option.mem_some_iff] at hd
      · exact hd ▸ h.last c List.getLast?_concat
      · exact hd ▸ rfl

end Walkthrough.Markup
