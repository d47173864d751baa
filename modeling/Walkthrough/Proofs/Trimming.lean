import Mathlib.Data.List.DropRight
import Walkthrough.Text.Blank

/-!
# Trimmed lists

Answers and runs of character data are trimmed before anything is made of them.  What is left has
none of the unwanted characters at either end and no character that was not there before, and a
list that is trimmed already is found again behind anything that is trimmed away.
-/

namespace Walkthrough.Text

/-- A list without the characters satisfying `p` at either end. -/
structure Trimmed (p : Char → Bool) (s : List Char) : Prop where
  first : ∀ c ∈ s.head?, p c = false
  last : ∀ c ∈ s.getLast?, p c = false

variable {p : Char → Bool} {s ws : List Char}

lemma dropEndWhile_eq_rdropWhile (p : Char → Bool) (s : List Char) :
    dropEndWhile p s = s.rdropWhile p := rfl

lemma prefix_dropEndWhile (p : Char → Bool) (s : List Char) : dropEndWhile p s <+: s :=
  List.rdropWhile_prefix p s

lemma last_dropEndWhile : ∀ c ∈ (dropEndWhile p s).getLast?, p c = false := by
  intro c hc
  rw [dropEndWhile_eq_rdropWhile] at hc
  obtain ⟨hne, rfl⟩ := List.mem_getLast?_eq_getLast hc
  simpa using List.rdropWhile_last_not p s hne

lemma first_dropWhile : ∀ c ∈ (s.dropWhile p).head?, p c = false := by
  intro c hc
  have h := List.head?_dropWhile_not p s
  rw [Option.mem_def.1 hc] at h
  simpa using h

/-- A list that starts otherwise than with `p` still does so without its end. -/
lemma first_dropEndWhile (h : ∀ c ∈ s.head?, p c = false) :
    ∀ c ∈ (dropEndWhile p s).head?, p c = false := by
  intro c hc
  obtain ⟨back, hback⟩ := prefix_dropEndWhile p s
  refine h c ?_
  rw [← hback, List.head?_append, Option.mem_def.1 hc]
  rfl

/-- What is left of any list is trimmed. -/
lemma trimmed_stripWhile (p : Char → Bool) (s : List Char) : Trimmed p (stripWhile p s) :=
  ⟨first_dropEndWhile first_dropWhile, last_dropEndWhile⟩

lemma mem_of_mem_stripWhile {c : Char} (h : c ∈ stripWhile p s) : c ∈ s :=
  (List.dropWhile_suffix p).subset ((prefix_dropEndWhile p _).subset h)

/-- What is taken off the end of a list is found again behind it. -/
lemma dropEndWhile_append (hs : ∀ c ∈ s.getLast?, p c = false) (hws : ∀ c ∈ ws, p c = true) :
    dropEndWhile p (s ++ ws) = s := by
  induction ws using List.reverseRecOn with
  | nil =>
    rw [List.append_nil, dropEndWhile_eq_rdropWhile, List.rdropWhile_eq_self_iff]
    intro hne
    simpa using hs _ (List.getLast_mem_getLast? hne)
  | append_singleton ws c ih =>
    have hc : p c = true := hws c (by simp)
    rw [← List.append_assoc, dropEndWhile_eq_rdropWhile, List.rdropWhile_concat_pos _ _ _ hc]
    exact ih fun d hd => hws d (List.mem_append_left _ hd)

/-- What is taken off a list stands around what is left. -/
lemma exists_around_stripWhile (p : Char → Bool) (s : List Char) :
    ∃ ws ws', s = ws ++ (stripWhile p s ++ ws') ∧ (∀ c ∈ ws, p c = true) ∧
      ∀ c ∈ ws', p c = true := by
  refine ⟨s.takeWhile p, (s.dropWhile p).rtakeWhile p, ?_, fun c hc => List.mem_takeWhile_imp hc,
    fun c hc => List.mem_rtakeWhile_imp hc⟩
  rw [stripWhile, dropEndWhile_eq_rdropWhile, List.rdropWhile_append_rtakeWhile,
    List.takeWhile_append_dropWhile]

/-- A trimmed list is what is left when it stands between things that are taken off. -/
lemma Trimmed.stripWhile_between {ws' : List Char} (h : Trimmed p s)
    (hws : ∀ c ∈ ws, p c = true) (hws' : ∀ c ∈ ws', p c = true) :
    stripWhile p (ws ++ (s ++ ws')) = s := by
  rw [stripWhile, List.dropWhile_append_of_pos hws]
  cases s with
  | nil =>
    rw [List.nil_append, List.dropWhile_eq_nil_iff.2 hws']
    rfl
  | cons c s =>
    rw [List.cons_append, List.dropWhile_cons_of_neg (by simp [h.first c rfl]), ← List.cons_append]
    exact dropEndWhile_append h.last hws'

/-- A list that is trimmed already stays as it is. -/
lemma Trimmed.stripWhile_eq (h : Trimmed p s) : stripWhile p s = s := by
  have hbetween : stripWhile p ([] ++ (s ++ [])) = s := h.stripWhile_between (by simp) (by simp)
  rwa [List.nil_append, List.append_nil] at hbetween

lemma Trimmed.trim_eq {s : String} (h : Trimmed isBlank s.toList) : trim s = s := by
  rw [trim, h.stripWhile_eq, String.ofList_toList]

lemma trimmed_of_forall (h : ∀ c ∈ s, p c = false) : Trimmed p s :=
  ⟨fun c hc => h c (List.mem_of_mem_head? hc), fun c hc => h c (List.mem_of_mem_getLast? hc)⟩

end Walkthrough.Text
