import Walkthrough.Glossary
import Walkthrough.Proofs.Cutting
import Walkthrough.Proofs.Loosening

/-!
# The hints for a text

A word is explained below a text when its lower-case form occurs in the lower-case form of the text.
That is not quite the same as occurring in the text: both forms are taken by themselves, and a
capital sigma at the end of the word is final there, while in the text letters may follow it.  Main
step: the form that a word takes inside a text is compared with its own form, character by
character.  All characters but the capital sigma have the same form everywhere, so the two forms
agree just when each capital sigma of the word is final in both or in neither.  A word that occurs
is therefore found unless such a sigma changes its form; it is always found where no letter adjoins
it.
-/

namespace Walkthrough

namespace Text

variable {c : Char} {seen before word after : List Char}

/-! ### Lower case inside a text -/

/-- The form that the characters of `word` take between those `before` them, nearest first, and
those `after` them. -/
def lowerBetween (before : List Char) : List Char → List Char → List Char
  | [], _ => []
  | c :: word, after => lowerChar before c (word ++ after) ++ lowerBetween (c :: before) word after

lemma lowerFrom_append (before word after : List Char) :
    lowerFrom before (word ++ after) =
      lowerBetween before word after ++ lowerFrom (word.reverse ++ before) after := by
  induction word generalizing before with
  | nil => rfl
  | cons c word ih =>
    rw [List.cons_append, lowerFrom, ih, lowerBetween, List.reverse_cons, List.append_assoc,
      List.append_assoc, List.singleton_append]

/-- The lower-case form of a text shows that of each of its parts, as it is inside the text. -/
lemma infix_lowerFrom (before word after : List Char) :
    lowerBetween before.reverse word after <:+: lowerFrom [] (before ++ (word ++ after)) := by
  rw [lowerFrom_append [] before, lowerFrom_append, List.append_nil]
  exact List.infix_append' _ _ _

/-! ### Sigmas -/

/-- Whether each capital sigma of `word` is final between `before`, nearest first, and `after` just
if it is final in the word. -/
def KeepsSigmas (before word after : List Char) : Prop :=
  ∀ left c right, word = left ++ c :: right → c.toNat = 0x3A3 →
    isFinalSigma (left.reverse ++ before) (right ++ after) = isFinalSigma left.reverse right

lemma lowerChar_eq_iff {before' after' : List Char} :
    lowerChar before c after = lowerChar before' c after' ↔
      (c.toNat = 0x3A3 → isFinalSigma before after = isFinalSigma before' after') := by
  rw [lowerChar, lowerChar]
  by_cases hdot : c.toNat = 0x130
  · simp [hdot]
  · by_cases hsigma : c.toNat = 0x3A3
    · cases isFinalSigma before after <;> cases isFinalSigma before' after' <;> simp [hsigma]
    · simp [hdot, hsigma]

/-- What stands around a character has no influence on the length of its form. -/
lemma length_lowerChar (before before' : List Char) (c : Char) (after after' : List Char) :
    (lowerChar before c after).length = (lowerChar before' c after').length := by
  rw [lowerChar, lowerChar]
  split_ifs <;> rfl

/-- The induction takes the characters of the word over to `seen`, which both forms look back at. -/
lemma lowerBetween_eq_lowerFrom_iff :
    lowerBetween (seen ++ before) word after = lowerFrom seen word ↔
      ∀ left c right, word = left ++ c :: right → c.toNat = 0x3A3 →
        isFinalSigma (left.reverse ++ (seen ++ before)) (right ++ after) =
          isFinalSigma (left.reverse ++ seen) right := by
  induction word generalizing seen with
  | nil =>
    refine iff_of_true rfl ?_
    intro left c right hsplit
    exact absurd hsplit.symm (by simp)
  | cons d word ih =>
    have hlength := length_lowerChar (seen ++ before) seen d (word ++ after) word
    have hsame : lowerBetween (seen ++ before) (d :: word) after = lowerFrom seen (d :: word) ↔
        lowerChar (seen ++ before) d (word ++ after) = lowerChar seen d word ∧
          lowerBetween (d :: seen ++ before) word after = lowerFrom (d :: seen) word := by
      rw [lowerBetween, lowerFrom]
      exact ⟨fun h => List.append_inj h hlength, fun h => by rw [h.1, ← h.2]; rfl⟩
    rw [hsame, lowerChar_eq_iff, ih]
    constructor
    · rintro ⟨hfirst, hlater⟩ left c right hsplit hsigma
      cases left with
      | nil =>
        obtain ⟨rfl, rfl⟩ := List.cons.inj hsplit
        exact hfirst hsigma
      | cons e left =>
        obtain ⟨rfl, hword⟩ := List.cons.inj hsplit
        simpa using hlater left c right hword hsigma
    · intro h
      refine ⟨fun hsigma => h [] d word rfl hsigma, ?_⟩
      intro left c right hsplit hsigma
      simpa using h (d :: left) c right (congrArg (d :: ·) hsplit) hsigma

/-- Inside a text a word has the form it has by itself just if all its sigmas keep theirs. -/
theorem lowerBetween_eq_iff :
    lowerBetween before word after = lowerFrom [] word ↔ KeepsSigmas before word after := by
  rw [← List.nil_append before, lowerBetween_eq_lowerFrom_iff]
  simp only [List.append_nil, KeepsSigmas]

/-- Sigmas keep their form where no letter adjoins the word. -/
lemma keepsSigmas_of_meetsCased (hbefore : meetsCased before = false)
    (hafter : meetsCased after = false) : KeepsSigmas before word after := by
  intro left c right _ _
  rw [isFinalSigma, isFinalSigma, meetsCased_append _ hbefore, meetsCased_append _ hafter]

lemma keepsSigmas_of_forall_ne (h : ∀ c ∈ word, c.toNat ≠ 0x3A3) :
    KeepsSigmas before word after := by
  intro left c right hsplit hsigma
  exact absurd hsigma (h c (by simp [hsplit]))

/-! ### Occurrences -/

/-- A text contains the lower-case form of what stands in it, if the sigmas keep theirs. -/
lemma contains_lower {before word after : String}
    (h : KeepsSigmas before.toList.reverse word.toList after.toList) :
    contains (lower (before ++ (word ++ after))) (lower word) = true := by
  have hinside := infix_lowerFrom before.toList word.toList after.toList
  rw [lowerBetween_eq_iff.2 h] at hinside
  rw [contains, occursIn_eq_true, lower, lower, String.toList_ofList, String.toList_ofList,
    String.toList_append, String.toList_append]
  exact hinside

end Text

namespace Glossary

variable {g : Glossary} {text before word after : String} {entry : String × String}

lemma mem_hintsIn : entry ∈ g.hintsIn text ↔ entry ∈ g.hints.entries ∧ entry.1 ≠ "" ∧
    Text.contains (Text.lower text) (Text.lower entry.1) = true := by
  simp [hintsIn, occurs]

lemma mem_hintsIn_of_keepsSigmas (hentry : entry ∈ g.hints.entries) (hword : entry.1 ≠ "")
    (hlower : Text.lower word = Text.lower entry.1)
    (hsigmas : Text.KeepsSigmas before.toList.reverse word.toList after.toList) :
    entry ∈ g.hintsIn (before ++ (word ++ after)) := by
  refine mem_hintsIn.2 ⟨hentry, hword, ?_⟩
  rw [← hlower]
  exact Text.contains_lower hsigmas

/-- The hints for a text stand in the order of the glossary, none is for the empty word, and a word
that is found is so in lower case.  Each word that occurs in the text, be it in other letters of the
same lower-case form, is found if its capital sigmas have the form there that they have in the word
by itself. -/
theorem hintsIn_of_occurs (g : Glossary) (text : String) :
    (g.hintsIn text).Sublist g.hints.entries ∧
      (∀ entry ∈ g.hintsIn text, entry.1 ≠ "" ∧
        (Text.lower entry.1).toList <:+: (Text.lower text).toList) ∧
      ∀ entry ∈ g.hints.entries, entry.1 ≠ "" → ∀ before word after : String,
        text = before ++ (word ++ after) → Text.lower word = Text.lower entry.1 →
          Text.KeepsSigmas before.toList.reverse word.toList after.toList →
            entry ∈ g.hintsIn text := by
  refine ⟨List.filter_sublist, ?_, ?_⟩
  · intro entry hentry
    obtain ⟨-, hword, hcontains⟩ := mem_hintsIn.1 hentry
    exact ⟨hword, Text.occursIn_eq_true.1 hcontains⟩
  · rintro entry hentry hword before word after rfl hlower hsigmas
    exact mem_hintsIn_of_keepsSigmas hentry hword hlower hsigmas

/-- The sigma of the road is final, for a full stop follows it. -/
theorem hintsIn_of_occurs_road :
    ("ΟΔΟΣ", "street") ∈
      hintsIn ⟨"Greek", Table.empty.insert "ΟΔΟΣ" "street"⟩ "ΑΥΤΗ Η ΟΔΟΣ." := by
  have hsigmas : Text.KeepsSigmas "ΑΥΤΗ Η ".toList.reverse "ΟΔΟΣ".toList ".".toList :=
    Text.keepsSigmas_of_meetsCased (by decide +kernel) (by decide +kernel)
  exact (hintsIn_of_occurs ⟨"Greek", Table.empty.insert "ΟΔΟΣ" "street"⟩ "ΑΥΤΗ Η ΟΔΟΣ.").2.2
    ("ΟΔΟΣ", "street") (by decide +kernel) (by decide) "ΑΥΤΗ Η " "ΟΔΟΣ" "." (by decide +kernel) rfl
    hsigmas

/-- The light in the name of the morning star is not found: letters follow its sigma there, which
is final in the word. -/
theorem not_forall_mem_hintsIn :
    ¬ ∀ (g : Glossary) (text : String), ∀ entry ∈ g.hints.entries, entry.1 ≠ "" →
      ∀ before after : String, text = before ++ (entry.1 ++ after) → entry ∈ g.hintsIn text := by
  intro h
  have hmem := h ⟨"Greek", Table.empty.insert "ΦΩΣ" "light"⟩ "ΦΩΣΦΟΡΟΣ" ("ΦΩΣ", "light")
    (by decide +kernel) (by decide) "" "ΦΟΡΟΣ" (by decide +kernel)
  exact absurd (mem_hintsIn.1 hmem).2.2 (by decide +kernel)

/-- A word is found wherever it occurs if it has no capital sigma, or if no letter adjoins it. -/
theorem mem_hintsIn_of_apart (hentry : entry ∈ g.hints.entries) (hword : entry.1 ≠ "")
    (hlower : Text.lower word = Text.lower entry.1)
    (hapart : (∀ c ∈ word.toList, c.toNat ≠ 0x3A3) ∨
      Text.meetsCased before.toList.reverse = false ∧ Text.meetsCased after.toList = false) :
    entry ∈ g.hintsIn (before ++ (word ++ after)) := by
  rcases hapart with hsigma | ⟨hbefore, hafter⟩
  · exact mem_hintsIn_of_keepsSigmas hentry hword hlower (Text.keepsSigmas_of_forall_ne hsigma)
  · exact mem_hintsIn_of_keepsSigmas hentry hword hlower
      (Text.keepsSigmas_of_meetsCased hbefore hafter)

end Glossary

end Walkthrough
