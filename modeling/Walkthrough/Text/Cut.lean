/-!
# Cutting texts at separators

Node names, options and expected answers are cut at separators: at every one of them (`pieces`),
or at one that is chosen among all (`cuts`).  The list of all cuts, in the order in which the
separators stand, is the common ground: its head cuts at the first separator, its last element at
the last, and a search in it prefers the longest right-hand side.
-/

namespace Walkthrough.Text

/-- What is left of `s` once `pre` is taken off its front, if it starts with that. -/
def dropFront? : List Char → List Char → Option (List Char)
  | [], s => some s
  | _ :: _, [] => none
  | p :: pre, c :: s => if p = c then dropFront? pre s else none

/-- All ways to write a list as `left ++ sep ++ right`, shortest left-hand side first. -/
def cutsOf (sep : List Char) : List Char → List (List Char × List Char)
  | [] => []
  | c :: s =>
    let later := (cutsOf sep s).map fun cut => (c :: cut.1, cut.2)
    match dropFront? sep (c :: s) with
    | some right => ([], right) :: later
    | none => later

/-- All ways to write a text as `left ++ sep ++ right`, shortest left-hand side first. -/
def cuts (sep s : String) : List (String × String) :=
  (cutsOf sep.toList s.toList).map fun cut => (String.ofList cut.1, String.ofList cut.2)

/-- The first of all cuts, found without looking for the others. -/
def cutFirstOf? (sep : List Char) : List Char → Option (List Char × List Char)
  | [] => none
  | c :: s =>
    match dropFront? sep (c :: s) with
    | some right => some ([], right)
    | none => (cutFirstOf? sep s).map fun cut => (c :: cut.1, cut.2)

theorem head?_cutsOf (sep s : List Char) : (cutsOf sep s).head? = cutFirstOf? sep s := by
  induction s with
  | nil => rfl
  | cons c s ih =>
    unfold cutsOf cutFirstOf?
    split
    · rfl
    · rw [← ih, List.head?_map]

theorem length_dropWhile_le (p : Char → Bool) (s : List Char) :
    (s.dropWhile p).length ≤ s.length :=
  (List.dropWhile_suffix p).length_le

theorem length_of_dropFront? {pre s rest : List Char} (h : dropFront? pre s = some rest) :
    rest.length ≤ s.length := by
  induction pre generalizing s with
  | nil =>
    simp only [dropFront?, Option.some.injEq] at h
    simp [h]
  | cons p pre ih =>
    cases s with
    | nil => simp [dropFront?] at h
    | cons c s =>
      unfold dropFront? at h
      split at h
      · have := ih h
        simp only [List.length_cons]
        omega
      · simp at h

theorem length_of_cutFirstOf? {sep s : List Char} {cut : List Char × List Char}
    (h : cutFirstOf? sep s = some cut) : cut.2.length ≤ s.length := by
  induction s generalizing cut with
  | nil => simp [cutFirstOf?] at h
  | cons c s ih =>
    unfold cutFirstOf? at h
    split at h
    · next hdrop =>
      cases h
      exact length_of_dropFront? hdrop
    · obtain ⟨cut', hcut', rfl⟩ := Option.map_eq_some_iff.1 h
      have := ih hcut'
      simp only [List.length_cons]
      omega

/-- The text before and after the first occurrence of a separator. -/
def cutFirst? (sep s : String) : Option (String × String) :=
  (cutFirstOf? sep.toList s.toList).map fun cut => (String.ofList cut.1, String.ofList cut.2)

/-- The text before and after the last occurrence of a separator. -/
def cutLast? (sep s : String) : Option (String × String) := (cuts sep s).getLast?

/-- The stretches between the elements satisfying `p`, of which there is one more than of these
elements. -/
def piecesOf (p : Char → Bool) : List Char → List (List Char)
  | [] => [[]]
  | c :: s =>
    match p c, piecesOf p s with
    | true, rest => [] :: rest
    | false, piece :: rest => (c :: piece) :: rest
    | false, [] => [[c]]

/-- The pieces of a text between the occurrences of a separator. -/
def pieces (sep : Char) (s : String) : List String :=
  (piecesOf (· == sep) s.toList).map String.ofList

/-- Whether `word` stands somewhere in a list. -/
def occursIn (word : List Char) : List Char → Bool
  | [] => word.isEmpty
  | c :: s => (dropFront? word (c :: s)).isSome || occursIn word s

/-- Whether a text contains another. -/
def contains (s word : String) : Bool := occursIn word.toList s.toList

end Walkthrough.Text
