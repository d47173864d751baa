import Mathlib.Data.List.Infix
import Mathlib.Data.List.TakeWhile
import Walkthrough.NodeName
import Walkthrough.Text.Cut

/-!
# Where a text is cut

A text is cut at the first character of a sort, at the end of a word or at the first place where a
separator stands.  This file says what the two sides of a cut are, and that a cut stays where it is
when the text goes on behind it.  All cuts of a text are all ways to part it at a separator, in the
order of their places, so that nothing of the separator stands behind the last one.  The pieces of a
text are the stretches between all separators: those before any one of them and those behind it.
With separators between them they are the text again.
-/

namespace Walkthrough

namespace Text

section Stop

variable {p : Char → Bool} {u s : List Char}

/-- A stretch of characters satisfying `p` is taken off up to the first that does not. -/
lemma takeWhile_append_stop (hu : ∀ c ∈ u, p c = true) (hs : ∀ c ∈ s.head?, p c = false) :
    (u ++ s).takeWhile p = u := by
  rw [List.takeWhile_append_of_pos hu]
  cases s with
  | nil => simp
  | cons c s =>
    rw [List.takeWhile_cons_of_neg (by simp [hs c rfl]), List.append_nil]

lemma dropWhile_append_stop (hu : ∀ c ∈ u, p c = true) (hs : ∀ c ∈ s.head?, p c = false) :
    (u ++ s).dropWhile p = s := by
  rw [List.dropWhile_append_of_pos hu]
  cases s with
  | nil => rfl
  | cons c s => exact List.dropWhile_cons_of_neg (by simp [hs c rfl])

/-- A character that stops a stretch of others, as the end of that stretch. -/
lemma stop_cons {c : Char} (hc : p c = false) (s : List Char) :
    ∀ d ∈ (c :: s).head?, p d = false := by
  rintro d ⟨⟩
  exact hc

lemma bne_of_not_mem {c : Char} (h : c ∉ u) : ∀ d ∈ u, (d != c) = true := by
  intro d hd
  rw [bne_iff_ne]
  rintro rfl
  exact h hd

lemma beq_of_not_mem {c : Char} (h : c ∉ u) : ∀ d ∈ u, (d == c) = false := by
  intro d hd
  rw [beq_eq_false_iff_ne]
  rintro rfl
  exact h hd

lemma eq_of_dropWhile_eq_cons {c : Char} (h : s.dropWhile p = c :: u) :
    s = s.takeWhile p ++ c :: u ∧ p c = false := by
  refine ⟨?_, ?_⟩
  · rw [← h, List.takeWhile_append_dropWhile]
  · have hhead := List.head?_dropWhile_not p s
    rw [h] at hhead
    simpa using hhead

lemma dropWhile_append_of_cons {c : Char} (h : s.dropWhile p = c :: u) (q : List Char) :
    (s ++ q).dropWhile p = c :: (u ++ q) := by
  obtain ⟨hs, hc⟩ := eq_of_dropWhile_eq_cons h
  rw [hs, List.append_assoc]
  exact dropWhile_append_stop (fun d hd => List.mem_takeWhile_imp hd) (stop_cons hc _)

lemma takeWhile_append_of_cons {c : Char} (h : s.dropWhile p = c :: u) (q : List Char) :
    (s ++ q).takeWhile p = s.takeWhile p := by
  obtain ⟨hs, hc⟩ := eq_of_dropWhile_eq_cons h
  conv_lhs => rw [hs, List.append_assoc]
  exact takeWhile_append_stop (fun d hd => List.mem_takeWhile_imp hd) (stop_cons hc _)

end Stop

variable {pre sep s u r q : List Char}

lemma dropFront?_eq_some : dropFront? pre s = some r ↔ s = pre ++ r := by
  induction pre generalizing s with
  | nil => simp [dropFront?]
  | cons c pre ih =>
    cases s with
    | nil => simp [dropFront?]
    | cons d s =>
      rw [dropFront?]
      split_ifs with h
      · rw [ih, h, List.cons_append, List.cons.injEq]
        simp
      · simp only [List.cons_append, List.cons.injEq, false_iff, not_and]
        intro hd
        exact absurd hd.symm h

lemma dropFront?_append (pre r : List Char) : dropFront? pre (pre ++ r) = some r :=
  dropFront?_eq_some.2 rfl

lemma dropFront?_eq_none : dropFront? pre s = none ↔ ¬ pre <+: s := by
  rw [Option.eq_none_iff_forall_ne_some, List.IsPrefix, not_exists]
  exact forall_congr' fun r => not_congr (dropFront?_eq_some.trans eq_comm)

lemma dropFront?_append_of_some (h : dropFront? pre s = some r) (q : List Char) :
    dropFront? pre (s ++ q) = some (r ++ q) := by
  rw [dropFront?_eq_some.1 h, List.append_assoc, dropFront?_append]

lemma cutFirstOf?_cons_of_some {c : Char}
    (h : dropFront? sep (c :: s) = some r) : cutFirstOf? sep (c :: s) = some ([], r) := by
  rw [cutFirstOf?, h]

lemma cutFirstOf?_cons_of_none {c : Char}
    (h : dropFront? sep (c :: s) = none) :
    cutFirstOf? sep (c :: s) = (cutFirstOf? sep s).map fun cut => (c :: cut.1, cut.2) := by
  rw [cutFirstOf?, h]

lemma eq_of_cutFirstOf? (h : cutFirstOf? sep s = some (u, r)) : s = u ++ (sep ++ r) := by
  induction s generalizing u with
  | nil => cases h
  | cons c s ih =>
    cases hfront : dropFront? sep (c :: s) with
    | some r' =>
      rw [cutFirstOf?_cons_of_some hfront] at h
      obtain ⟨rfl, rfl⟩ := Prod.mk.inj (Option.some.inj h)
      rw [List.nil_append]
      exact dropFront?_eq_some.1 hfront
    | none =>
      rw [cutFirstOf?_cons_of_none hfront] at h
      obtain ⟨⟨u', r'⟩, hcut, heq⟩ := Option.map_eq_some_iff.1 h
      obtain ⟨rfl, rfl⟩ := Prod.mk.inj heq
      rw [ih hcut, List.cons_append]

/-- The first place where a separator stands is the first also when more follows. -/
lemma cutFirstOf?_append (h : cutFirstOf? sep s = some (u, r)) (q : List Char) :
    cutFirstOf? sep (s ++ q) = some (u, r ++ q) := by
  induction s generalizing u with
  | nil => cases h
  | cons c s ih =>
    cases hfront : dropFront? sep (c :: s) with
    | some r' =>
      rw [cutFirstOf?_cons_of_some hfront] at h
      obtain ⟨rfl, rfl⟩ := Prod.mk.inj (Option.some.inj h)
      have hlonger : c :: (s ++ q) = sep ++ (r' ++ q) := by
        rw [← List.cons_append, dropFront?_eq_some.1 hfront, List.append_assoc]
      exact cutFirstOf?_cons_of_some (dropFront?_eq_some.2 hlonger)
    | none =>
      rw [cutFirstOf?_cons_of_none hfront] at h
      obtain ⟨⟨u', r'⟩, hcut, heq⟩ := Option.map_eq_some_iff.1 h
      obtain ⟨rfl, rfl⟩ := Prod.mk.inj heq
      have hnone : dropFront? sep (c :: (s ++ q)) = none := by
        -- the separator stands further on in the shorter text, so that it fits into that text
        have hlength : sep.length ≤ (c :: s).length := by
          rw [List.length_cons, eq_of_cutFirstOf? hcut]
          simp only [List.length_append]
          omega
        rw [Option.eq_none_iff_forall_not_mem]
        intro r'' hr''
        have hfits : sep <+: c :: s :=
          List.prefix_of_prefix_length_le ⟨r'', (dropFront?_eq_some.1 hr'').symm⟩
            (List.prefix_append (c :: s) q) hlength
        obtain ⟨k, hk⟩ := hfits
        rw [dropFront?_eq_some.2 hk.symm] at hfront
        cases hfront
      rw [List.cons_append, cutFirstOf?_cons_of_none hnone, ih hcut]
      rfl

lemma eq_of_mem_cutsOf {cut : List Char × List Char} (h : cut ∈ cutsOf sep s) :
    s = cut.1 ++ (sep ++ cut.2) := by
  induction s generalizing cut with
  | nil => cases h
  | cons c s ih =>
    have hlater : cut ∈ (cutsOf sep s).map (fun cut => (c :: cut.1, cut.2)) →
        c :: s = cut.1 ++ (sep ++ cut.2) := by
      intro hmem
      obtain ⟨later, hlater, rfl⟩ := List.mem_map.1 hmem
      exact congrArg (c :: ·) (ih hlater)
    rw [cutsOf] at h
    split at h
    · next right hright =>
      have hfirst : c :: s = sep ++ right := dropFront?_eq_some.1 hright
      rcases List.mem_cons.1 h with rfl | h
      · exact hfirst
      · exact hlater h
    · exact hlater h

lemma occursIn_eq_true : occursIn sep s = true ↔ sep <:+: s := by
  induction s with
  | nil => rw [occursIn, List.isEmpty_iff, List.infix_nil]
  | cons c s ih =>
    rw [occursIn, Bool.or_eq_true, ih, List.infix_cons_iff, Option.isSome_iff_exists]
    refine or_congr_left ⟨?_, ?_⟩
    · rintro ⟨r, hr⟩
      exact ⟨r, (dropFront?_eq_some.1 hr).symm⟩
    · rintro ⟨r, hr⟩
      exact ⟨r, dropFront?_eq_some.2 hr.symm⟩

lemma contains_eq_false {s word : String} : contains s word = false ↔
    ∀ front back, s ≠ front ++ (word ++ back) := by
  rw [contains, ← Bool.not_eq_true, occursIn_eq_true]
  constructor
  · rintro h front back rfl
    exact h ⟨front.toList, back.toList, by simp⟩
  · rintro h ⟨front, back, hs⟩
    refine h (String.ofList front) (String.ofList back) ?_
    rw [← String.toList_inj]
    simpa using hs.symm

/-- A text contains a text of one character just if it has that character. -/
lemma contains_char_eq_false {c : Char} {s word : String} (hword : word.toList = [c]) :
    contains s word = false ↔ c ∉ s.toList := by
  rw [contains, hword, ← Bool.not_eq_true, occursIn_eq_true, List.singleton_infix_iff]

/-! ### All cuts -/

lemma mem_cutsOf (hsep : sep ≠ []) : (u, r) ∈ cutsOf sep s ↔ s = u ++ (sep ++ r) := by
  refine ⟨eq_of_mem_cutsOf, ?_⟩
  rintro rfl
  induction u with
  | nil =>
    obtain ⟨c, sep, rfl⟩ := List.exists_cons_of_ne_nil hsep
    rw [List.nil_append, List.cons_append, cutsOf, ← List.cons_append, dropFront?_append]
    exact List.mem_cons_self
  | cons c u ih =>
    have hlater : (c :: u, r) ∈
        (cutsOf sep (u ++ (sep ++ r))).map fun cut => (c :: cut.1, cut.2) :=
      List.mem_map.2 ⟨_, ih, rfl⟩
    rw [List.cons_append, cutsOf]
    split
    · exact List.mem_cons_of_mem _ hlater
    · exact hlater

/-- Cuts stand in the order of the places where they part the text. -/
lemma pairwise_cutsOf (sep s : List Char) :
    (cutsOf sep s).Pairwise fun cut cut' => cut.1.length < cut'.1.length := by
  induction s with
  | nil => exact List.Pairwise.nil
  | cons c s ih =>
    have hlater : ((cutsOf sep s).map fun cut => (c :: cut.1, cut.2)).Pairwise
        fun cut cut' => cut.1.length < cut'.1.length := by
      rw [List.pairwise_map]
      exact ih.imp Nat.succ_lt_succ
    rw [cutsOf]
    split
    · refine List.pairwise_cons.2 ⟨fun cut hcut => ?_, hlater⟩
      obtain ⟨cut, -, rfl⟩ := List.mem_map.1 hcut
      exact Nat.succ_pos _
    · exact hlater

/-! ### The last cut -/

lemma cutsOf_cons_of_none {c : Char} (h : dropFront? sep (c :: s) = none) :
    cutsOf sep (c :: s) = (cutsOf sep s).map fun cut => (c :: cut.1, cut.2) := by
  rw [cutsOf, h]

/-- Nothing is cut where the separator does not stand. -/
lemma cutsOf_eq_nil (h : occursIn sep s = false) : cutsOf sep s = [] := by
  induction s with
  | nil => rfl
  | cons c s ih =>
    rw [occursIn, Bool.or_eq_false_iff, Option.isSome_eq_false_iff, Option.isNone_iff_eq_none] at h
    rw [cutsOf_cons_of_none h.1, ih h.2, List.map_nil]

/-- No cut starts among characters other than the first of the separator. -/
lemma cutsOf_append_of_not_mem {c : Char} (hu : c ∉ u) (s : List Char) :
    cutsOf (c :: sep) (u ++ s) = (cutsOf (c :: sep) s).map fun cut => (u ++ cut.1, cut.2) := by
  induction u with
  | nil => simp
  | cons d u ih =>
    rw [List.mem_cons, not_or] at hu
    have hnone : dropFront? (c :: sep) (d :: (u ++ s)) = none := if_neg hu.1
    rw [List.cons_append, cutsOf_cons_of_none hnone, ih hu.2, List.map_map]
    rfl

/-- The last cut of a text is its last cut also when more stands in front of the text. -/
lemma getLast?_cutsOf_append (h : (cutsOf sep s).getLast? = some (u, r)) (front : List Char) :
    (cutsOf sep (front ++ s)).getLast? = some (front ++ u, r) := by
  induction front with
  | nil => exact h
  | cons c front ih =>
    have hlater : ((cutsOf sep (front ++ s)).map fun cut => (c :: cut.1, cut.2)).getLast? =
        some (c :: (front ++ u), r) := by
      rw [List.getLast?_map, ih, Option.map_some]
    rw [List.cons_append, cutsOf]
    split
    · rw [List.getLast?_cons, hlater]
      rfl
    · exact hlater

/-- A separator behind which there is no further one, and which starts nowhere within itself, is
where a text is cut last. -/
lemma getLast?_cutsOf {c : Char} (hsep : c ∉ sep) (hr : occursIn (c :: sep) r = false)
    (u : List Char) : (cutsOf (c :: sep) (u ++ (c :: sep ++ r))).getLast? = some (u, r) := by
  have hfirst : cutsOf (c :: sep) (c :: sep ++ r) = [([], r)] := by
    have hlater : cutsOf (c :: sep) (sep ++ r) = [] := by
      rw [cutsOf_append_of_not_mem hsep, cutsOf_eq_nil hr, List.map_nil]
    rw [List.cons_append, cutsOf, ← List.cons_append, dropFront?_append, hlater]
    rfl
  have hlast : (cutsOf (c :: sep) (c :: sep ++ r)).getLast? = some ([], r) := by
    rw [hfirst]
    rfl
  rw [getLast?_cutsOf_append hlast, List.append_nil]

/-- The right-hand side of the last cut has no separator in it. -/
lemma cutLast?_append {c : Char} {sep right : String} (hsep : sep.toList = c :: u) (hc : c ∉ u)
    (hright : contains right sep = false) (left : String) :
    cutLast? sep (left ++ (sep ++ right)) = some (left, right) := by
  have hlast : (cutsOf sep.toList (left.toList ++ (sep.toList ++ right.toList))).getLast? =
      some (left.toList, right.toList) := by
    rw [contains, hsep] at hright
    rw [hsep]
    exact getLast?_cutsOf hc hright left.toList
  rw [cutLast?, cuts, String.toList_append, String.toList_append, List.getLast?_map, hlast,
    Option.map_some, String.ofList_toList, String.ofList_toList]

section Strings

variable {sep s left right : String}

/-- The cuts of a text are all ways to part it at a separator. -/
lemma mem_cuts (hsep : sep ≠ "") : (left, right) ∈ cuts sep s ↔ s = left ++ (sep ++ right) := by
  have hne : sep.toList ≠ [] := by rwa [ne_eq, String.toList_eq_nil_iff]
  have hlists : (left, right) ∈ cuts sep s ↔
      (left.toList, right.toList) ∈ cutsOf sep.toList s.toList := by
    rw [cuts, List.mem_map]
    constructor
    · rintro ⟨cut, hcut, heq⟩
      obtain ⟨rfl, rfl⟩ := Prod.mk.inj heq
      simpa using hcut
    · intro hcut
      exact ⟨_, hcut, by simp⟩
  rw [hlists, mem_cutsOf hne, ← String.toList_inj]
  simp

/-- The right-hand sides of cuts become shorter. -/
lemma pairwise_cuts (sep s : String) :
    (cuts sep s).Pairwise fun cut cut' => cut'.2.length < cut.2.length := by
  rw [cuts, List.pairwise_map]
  refine (pairwise_cutsOf sep.toList s.toList).imp_of_mem fun {cut cut'} hcut hcut' hlt => ?_
  have hlength := congrArg List.length (eq_of_mem_cutsOf hcut)
  have hlength' := congrArg List.length (eq_of_mem_cutsOf hcut')
  simp only [List.length_append, String.length_ofList] at hlength hlength' ⊢
  omega

/-- A text is parted at one place only with a given length behind it. -/
lemma eq_of_cut_eq {left' right' : String}
    (h : left ++ (sep ++ right) = left' ++ (sep ++ right'))
    (hlength : right.length = right'.length) :
    left = left' ∧ right = right' := by
  rw [← String.toList_inj] at h
  simp only [String.toList_append, ← List.append_assoc] at h
  obtain ⟨hleft, hright⟩ := List.append_inj' h (by simpa only [String.length_toList] using hlength)
  exact ⟨String.toList_inj.1 (List.append_cancel_right hleft), String.toList_inj.1 hright⟩

/-- The last cut is the one with nothing of the separator behind it. -/
lemma cutLast?_eq_some (hsep : sep ≠ "") (h : cutLast? sep s = some (left, right)) :
    s = left ++ (sep ++ right) ∧ contains right sep = false := by
  have hs := (mem_cuts hsep).1 (List.mem_of_getLast? h)
  refine ⟨hs, contains_eq_false.2 ?_⟩
  rintro front back rfl
  -- a separator further behind would make a later cut
  have hlater : (left ++ (sep ++ front), back) ∈ cuts sep s := by
    rw [mem_cuts hsep, hs]
    simp only [String.append_assoc]
  obtain ⟨before, hbefore⟩ := List.getLast?_eq_some_iff.1 h
  have hpairwise := pairwise_cuts sep s
  rw [hbefore] at hlater hpairwise
  rcases List.mem_append.1 hlater with hlater | hlater
  · have hlt := (List.pairwise_append.1 hpairwise).2.2 _ hlater _ List.mem_cons_self
    simp only [String.length_append] at hlt
    omega
  · obtain ⟨-, hback⟩ := Prod.mk.inj (List.mem_singleton.1 hlater)
    have hlength := congrArg String.length hback
    have hpos : 0 < sep.length := by
      rw [Nat.pos_iff_ne_zero, ne_eq, String.length_eq_zero_iff]
      exact hsep
    simp only [String.length_append] at hlength
    omega

lemma cutLast?_eq_none (hsep : sep ≠ "") : cutLast? sep s = none ↔ contains s sep = false := by
  rw [cutLast?, List.getLast?_eq_none_iff, cuts, List.map_eq_nil_iff]
  refine ⟨fun h => contains_eq_false.2 fun left right hs => ?_, cutsOf_eq_nil⟩
  have hmem : (left, right) ∈ cuts sep s := (mem_cuts hsep).2 hs
  rw [cuts, h] at hmem
  cases hmem

/-! Behind the last of the characters at which a text is cut there is no further one. -/

section Char

variable {c : Char}

lemma ne_empty_of_char (hsep : sep.toList = [c]) : sep ≠ "" := by
  rintro rfl
  cases hsep

lemma cutLast?_char_eq_some (hsep : sep.toList = [c]) (h : cutLast? sep s = some (left, right)) :
    s = left ++ (sep ++ right) ∧ c ∉ right.toList := by
  obtain ⟨hs, hright⟩ := cutLast?_eq_some (ne_empty_of_char hsep) h
  exact ⟨hs, (contains_char_eq_false hsep).1 hright⟩

lemma cutLast?_char_eq_none (hsep : sep.toList = [c]) :
    cutLast? sep s = none ↔ c ∉ s.toList := by
  rw [cutLast?_eq_none (ne_empty_of_char hsep), contains_char_eq_false hsep]

lemma cutFirstOf?_char_eq_some {s u r : List Char} :
    cutFirstOf? [c] s = some (u, r) ↔ s = u ++ c :: r ∧ c ∉ u := by
  have hcut : ∀ {u r : List Char}, c ∉ u → cutFirstOf? [c] (u ++ c :: r) = some (u, r) := by
    intro u r hu
    have hhere : cutFirstOf? [c] (c :: r) = some ([], r) :=
      cutFirstOf?_cons_of_some (dropFront?_append [c] r)
    rw [← head?_cutsOf, cutsOf_append_of_not_mem hu, List.head?_map, head?_cutsOf, hhere,
      Option.map_some, List.append_nil]
  constructor
  · intro h
    refine ⟨eq_of_cutFirstOf? h, fun hmem => ?_⟩
    -- an earlier separator would have been the first
    obtain ⟨front, back, rfl, hfront⟩ := List.eq_append_cons_of_mem hmem
    have hearlier := hcut (r := back ++ c :: r) hfront
    rw [eq_of_cutFirstOf? h, List.append_assoc, List.cons_append, List.singleton_append,
      hearlier] at h
    have hlength := congrArg List.length (Prod.mk.inj (Option.some.inj h)).1
    simp at hlength
  · rintro ⟨rfl, hu⟩
    exact hcut hu

/-- The first of the characters at which a text is cut has none of them before it. -/
lemma cutFirst?_char_eq_some (hsep : sep.toList = [c]) :
    cutFirst? sep s = some (left, right) ↔ s = left ++ (sep ++ right) ∧ c ∉ left.toList := by
  have hlists : cutFirst? sep s = some (left, right) ↔
      cutFirstOf? [c] s.toList = some (left.toList, right.toList) := by
    rw [cutFirst?, hsep, Option.map_eq_some_iff]
    constructor
    · rintro ⟨cut, hcut, heq⟩
      obtain ⟨rfl, rfl⟩ := Prod.mk.inj heq
      simpa using hcut
    · intro hcut
      exact ⟨_, hcut, by simp⟩
  rw [hlists, cutFirstOf?_char_eq_some, ← String.toList_inj, String.toList_append,
    String.toList_append, hsep, List.singleton_append]

end Char

end Strings

section Pieces

variable {p : Char → Bool} {s piece : List Char}

/-- To cut at every separator is what the standard library calls splitting. -/
lemma piecesOf_eq_splitOnP (p : Char → Bool) (s : List Char) : piecesOf p s = s.splitOnP p := by
  induction s with
  | nil => rfl
  | cons c s ih =>
    obtain ⟨piece, later, hpieces⟩ := List.exists_cons_of_ne_nil (List.splitOnP_ne_nil p s)
    rw [piecesOf, ih, List.splitOnP_cons_eq_if_modifyHead, hpieces]
    cases p c <;> rfl

lemma piecesOf_eq_singleton (h : ∀ c ∈ s, p c = false) : piecesOf p s = [s] := by
  rw [piecesOf_eq_splitOnP, List.splitOnP_eq_singleton h]

/-- A separator parts the pieces before it from those behind it. -/
lemma piecesOf_append_cons {c : Char} (hc : p c = true) (s rest : List Char) :
    piecesOf p (s ++ c :: rest) = piecesOf p s ++ piecesOf p rest := by
  simp only [piecesOf_eq_splitOnP, List.splitOnP_append_cons s rest hc]

/-- There is one piece more than there are separators. -/
lemma length_piecesOf (p : Char → Bool) (s : List Char) :
    (piecesOf p s).length = s.countP p + 1 := by
  induction s with
  | nil => rfl
  | cons c s ih =>
    obtain ⟨piece, later, hpieces⟩ := List.exists_cons_of_ne_nil (NodeName.piecesOf_ne_nil p s)
    rw [hpieces] at ih
    rw [piecesOf, hpieces]
    cases hc : p c with
    | true => rw [List.countP_cons_of_pos hc, List.length_cons, ih]
    | false =>
      rw [List.countP_cons_of_neg (by simp [hc]), ← ih, List.length_cons, List.length_cons]

lemma eq_false_of_mem_piecesOf (h : piece ∈ piecesOf p s) :
    ∀ c ∈ piece, p c = false := by
  induction s generalizing piece with
  | nil =>
    obtain rfl := List.mem_singleton.1 h
    simp
  | cons c s ih =>
    rw [piecesOf] at h
    split at h
    · rcases List.mem_cons.1 h with rfl | h
      · simp
      · exact ih h
    · next hc hs =>
      rw [hs] at ih
      rcases List.mem_cons.1 h with rfl | h
      · intro d hd
        rcases List.mem_cons.1 hd with rfl | hd
        · exact hc
        · exact ih List.mem_cons_self d hd
      · exact ih (List.mem_cons_of_mem _ h)
    · next hc hs => exact absurd hs (NodeName.piecesOf_ne_nil p s)

/-- What is added behind the last separator is added to the last piece. -/
lemma exists_piecesOf_append (s : List Char) {u : List Char} (hu : ∀ c ∈ u, p c = false) :
    ∃ front last, piecesOf p s = front ++ [last] ∧ piecesOf p (s ++ u) = front ++ [last ++ u] := by
  induction s with
  | nil => exact ⟨[], [], rfl, piecesOf_eq_singleton hu⟩
  | cons c s ih =>
    obtain ⟨front, last, hpieces, hpieces'⟩ := ih
    rw [List.cons_append, piecesOf, piecesOf, hpieces, hpieces']
    cases p c with
    | true => exact ⟨[] :: front, last, rfl, rfl⟩
    | false =>
      cases front with
      | nil => exact ⟨[], c :: last, rfl, rfl⟩
      | cons piece front => exact ⟨(c :: piece) :: front, last, rfl, rfl⟩

/-- Whether a stretch of a list lies between two separators, or between one and an end. -/
structure IsPiece (p : Char → Bool) (s piece : List Char) : Prop where
  free : ∀ c ∈ piece, p c = false
  between : ∃ before after, s = before ++ (piece ++ after) ∧
    (∀ c ∈ before.getLast?, p c = true) ∧ ∀ c ∈ after.head?, p c = true

/-- A list goes on behind its first separator, if it has one. -/
lemma free_or_separator (p : Char → Bool) (s : List Char) :
    (∀ c ∈ s, p c = false) ∨ ∃ u c rest, s = u ++ c :: rest ∧ (∀ d ∈ u, p d = false) ∧
      p c = true := by
  cases hrest : s.dropWhile fun c => !p c with
  | nil => exact Or.inl (by simpa [List.dropWhile_eq_nil_iff] using hrest)
  | cons c rest =>
    obtain ⟨hs, hc⟩ := eq_of_dropWhile_eq_cons hrest
    refine Or.inr ⟨_, c, rest, hs, fun d hd => ?_, by simpa using hc⟩
    simpa using List.mem_takeWhile_imp hd

/-- The pieces are the stretches between the separators. -/
lemma mem_piecesOf : piece ∈ piecesOf p s ↔ IsPiece p s piece := by
  constructor
  · intro h
    refine ⟨eq_false_of_mem_piecesOf h, ?_⟩
    induction hn : s.length using Nat.strong_induction_on generalizing s with
    | _ n ih =>
      rcases free_or_separator p s with hs | ⟨u, c, rest, rfl, hu, hc⟩
      · rw [piecesOf_eq_singleton hs, List.mem_singleton] at h
        exact ⟨[], [], by simp [h], by simp, by simp⟩
      · rw [piecesOf_append_cons hc, piecesOf_eq_singleton hu, List.singleton_append,
          List.mem_cons] at h
        rcases h with rfl | h
        · exact ⟨[], c :: rest, by simp, by simp, by simpa using hc⟩
        · obtain ⟨before, after, rfl, hbefore, hafter⟩ :=
            ih rest.length (by simp at hn; omega) h rfl
          refine ⟨u ++ c :: before, after, by simp, ?_, hafter⟩
          cases before with
          | nil => simpa using hc
          | cons b before => simpa [List.getLast?_append] using hbefore
  · rintro ⟨hpiece, before, after, rfl, hbefore, hafter⟩
    have hlast : piece ∈ piecesOf p (piece ++ after) := by
      cases after with
      | nil => simp [piecesOf_eq_singleton hpiece]
      | cons c after =>
        rw [piecesOf_append_cons (hafter c rfl), piecesOf_eq_singleton hpiece]
        exact List.mem_cons_self
    rcases before.eq_nil_or_concat' with rfl | ⟨before, c, rfl⟩
    · exact hlast
    · rw [List.append_assoc, List.singleton_append, piecesOf_append_cons (hbefore c (by simp))]
      exact List.mem_append_right _ hlast

/-- The pieces of a text are the stretches between the occurrences of the separator. -/
lemma mem_pieces {sep : Char} {s piece : String} :
    piece ∈ pieces sep s ↔ IsPiece (· == sep) s.toList piece.toList := by
  rw [pieces, List.mem_map, ← mem_piecesOf]
  constructor
  · rintro ⟨piece, hpiece, rfl⟩
    simpa using hpiece
  · intro hpiece
    exact ⟨_, hpiece, String.ofList_toList⟩

/-! Pieces that are put together again with separators between them are the text that was cut, and
cutting that text gives them back. -/

section Joining

variable {c : Char} {sep : String}

lemma pieces_eq_splitOn (c : Char) (s : String) :
    pieces c s = (s.toList.splitOn c).map String.ofList := by
  rw [pieces, piecesOf_eq_splitOnP, List.splitOn_eq_splitOnP]

lemma not_mem_of_mem_pieces {s piece : String} (h : piece ∈ pieces c s) : c ∉ piece.toList := by
  intro hc
  simpa using (mem_pieces.1 h).free c hc

lemma intercalate_pieces (hsep : sep.toList = [c]) (s : String) :
    sep.intercalate (pieces c s) = s := by
  have hlists : String.toList ∘ String.ofList = id := funext fun _ => String.toList_ofList
  rw [← String.toList_inj, String.toList_intercalate, hsep, pieces_eq_splitOn, List.map_map, hlists,
    List.map_id, List.intercalate_splitOn]

lemma pieces_intercalate (hsep : sep.toList = [c]) {texts : List String} (hne : texts ≠ [])
    (h : ∀ t ∈ texts, c ∉ t.toList) : pieces c (sep.intercalate texts) = texts := by
  have htexts : String.ofList ∘ String.toList = id := funext fun _ => String.ofList_toList
  have hfree : ∀ l ∈ texts.map String.toList, c ∉ l := List.forall_mem_map.2 h
  rw [pieces_eq_splitOn, String.toList_intercalate, hsep,
    List.splitOn_intercalate c hfree (by simpa using hne), List.map_map, htexts, List.map_id]

/-- What is joined ends with its last text. -/
lemma exists_intercalate_concat (sep : String) (texts : List String) (last : String) :
    ∃ before, sep.intercalate (texts ++ [last]) = before ++ last := by
  have hsuffix : ∀ pieces : List (List Char),
      last.toList <:+ sep.toList.intercalate (pieces ++ [last.toList]) := by
    intro pieces
    induction pieces with
    | nil => simp
    | cons piece pieces ih =>
      obtain ⟨next, rest, hrest⟩ := List.exists_cons_of_ne_nil
        (List.append_ne_nil_of_right_ne_nil pieces (List.cons_ne_nil last.toList []))
      rw [List.cons_append, hrest, List.intercalate_cons_cons, ← hrest]
      exact ih.trans (List.suffix_append _ _)
  obtain ⟨before, hbefore⟩ := hsuffix (texts.map String.toList)
  refine ⟨String.ofList before, ?_⟩
  rw [← String.toList_inj, String.toList_intercalate, String.toList_append, String.toList_ofList,
    hbefore, List.map_append, List.map_singleton]

end Joining

end Pieces

end Text

end Walkthrough
