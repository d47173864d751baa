import Walkthrough.Proofs.Cutting
import Walkthrough.Proofs.FullAnswers

/-!
# Sessions are resumed

A session keeps nothing in mind between its lines: what a line does is up to the walk alone, and
what is shown leaves the walk as it is.  Main statement: a text that ends with a line break can be
entered in one session and a further text in the next, and unless a line of the first text quits,
the walk and the outcome are those of a single session with both texts.  If the first session ran
out of lines, then the single session shows what the two show, but for the first view and the first
prompt of the second one.
-/

namespace Walkthrough

/-! ### Lines of two texts -/

lemma textLines_eq (s : String) :
    textLines s =
      if (Text.pieces '\n' s).getLast? = some "" then (Text.pieces '\n' s).dropLast
      else Text.pieces '\n' s := rfl

lemma pieces_ne_nil (c : Char) (s : String) : Text.pieces c s ≠ [] :=
  fun h => NodeName.piecesOf_ne_nil _ _ (List.map_eq_nil_iff.1 h)

/-- The lines of a text that ends with a line break are followed by those of the next text. -/
lemma textLines_append {a : String} (ha : a = "" ∨ a.toList.getLast? = some '\n') (b : String) :
    textLines (a ++ b) = textLines a ++ textLines b := by
  rcases ha with rfl | ha
  · rw [String.empty_append]
    rfl
  · obtain ⟨s, hs⟩ := List.getLast?_eq_some_iff.1 ha
    have hwhole : Text.pieces '\n' (a ++ b) =
        (Text.piecesOf (· == '\n') s).map String.ofList ++ Text.pieces '\n' b := by
      rw [Text.pieces, String.toList_append, hs, List.append_assoc, List.singleton_append,
        Text.piecesOf_append_cons (by decide), List.map_append]
      rfl
    have hfirst : Text.pieces '\n' a = (Text.piecesOf (· == '\n') s).map String.ofList ++ [""] := by
      rw [Text.pieces, hs, Text.piecesOf_append_cons (by decide), List.map_append]
      rfl
    rw [textLines_eq (a ++ b), textLines_eq a, textLines_eq b, hwhole, hfirst,
      List.getLast?_append_of_ne_nil _ (pieces_ne_nil '\n' b), List.getLast?_concat, if_pos rfl,
      List.dropLast_concat, List.dropLast_append_of_ne_nil (pieces_ne_nil '\n' b)]
    split_ifs <;> rfl

namespace Session

variable {zone : Zone} {colored : Bool} {w : Walk} {first second : List (Moment × String)}

/-- Whether the session stops because the next line quits. -/
def StopsAtQuit (zone : Zone) (colored : Bool) (w : Walk) (lines : List (Moment × String)) : Prop :=
  (playAt zone colored w lines).outcome = .quit ∧
    ∃ now line, lines[(turns zone w lines).length]? = some (now, line) ∧ Text.trim line = "q"

/-- A session that does not stop at the end or at a line that quits takes every line. -/
lemma length_turns (hquit : (playAt zone colored w first).outcome = .quit)
    (hstop : ¬StopsAtQuit zone colored w first) : (turns zone w first).length = first.length :=
  (Walk.quit_playAt zone colored w first hquit).resolve_right fun h => hstop ⟨hquit, h⟩

/-! ### One line -/

section Line

variable {now : Moment} {line : String} {rest : List (Moment × String)} {w' : Walk}
  {refusal : Option Refusal}

lemma playAt_cons (hend : w.atEnd = false)
    (hline : (w.setClock now).enter? zone line = some (w', refusal)) :
    playAt zone colored w ((now, line) :: rest) =
      { playAt zone colored w' rest with
        output := w.view colored ++ prompt ++ warning colored refusal ++
          (playAt zone colored w' rest).output } := by
  rw [playAt, if_neg (by simp [hend]), hline]

lemma turns_cons (hend : w.atEnd = false)
    (hline : (w.setClock now).enter? zone line = some (w', refusal)) :
    turns zone w ((now, line) :: rest) = (w, w') :: turns zone w' rest := by
  rw [turns, if_neg (by simp [hend]), hline]

end Line

lemma playAt_of_atEnd (hend : w.atEnd = true) (lines : List (Moment × String)) :
    playAt zone colored w lines = ⟨.finished, w.view colored, w⟩ := by
  cases lines with
  | nil => rw [playAt, if_pos hend]
  | cons line rest => rw [playAt, if_pos hend]

lemma atEnd_of_quit {lines : List (Moment × String)}
    (h : (playAt zone colored w lines).outcome = .quit) : w.atEnd = false := by
  rw [Bool.eq_false_iff]
  intro hend
  rw [playAt_of_atEnd hend] at h
  cases h

/-- A session starts with the first view, and with a prompt if the walk is not at its end. -/
lemma exists_output (hend : w.atEnd = false) (lines : List (Moment × String)) :
    ∃ later, (playAt zone colored w lines).output = w.view colored ++ prompt ++ later := by
  cases lines with
  | nil =>
    refine ⟨"", ?_⟩
    rw [playAt, if_neg (by simp [hend]), String.append_empty]
  | cons line rest =>
    obtain ⟨now, line⟩ := line
    cases hline : (w.setClock now).enter? zone line with
    | none =>
      refine ⟨"", ?_⟩
      rw [playAt, if_neg (by simp [hend]), hline, String.append_empty]
    | some turn =>
      rw [playAt_cons hend hline]
      exact ⟨_, String.append_assoc⟩

/-! ### One session after another -/

/-- A session that has come to the end takes no further line. -/
lemma playAt_append_of_finished (h : (playAt zone colored w first).outcome = .finished)
    (second : List (Moment × String)) :
    playAt zone colored w (first ++ second) = playAt zone colored w first := by
  induction first generalizing w with
  | nil =>
    rw [playAt] at h
    split_ifs at h with hend
    rw [List.nil_append, playAt_of_atEnd hend, playAt_of_atEnd hend]
  | cons line rest ih =>
    obtain ⟨now, line⟩ := line
    cases hend : w.atEnd with
    | true => rw [playAt_of_atEnd hend, playAt_of_atEnd hend]
    | false =>
      cases hline : (w.setClock now).enter? zone line with
      | none =>
        rw [playAt, if_neg (by simp [hend]), hline] at h
        cases h
      | some turn =>
        obtain ⟨w', refusal⟩ := turn
        rw [playAt_cons hend hline] at h
        rw [List.cons_append, playAt_cons hend hline, playAt_cons hend hline, ih h]

/-- Behind lines that are all taken a session goes on like one that starts where they led to, whose
first view and prompt it has shown already. -/
lemma playAt_append_of_quit (h : (playAt zone colored w first).outcome = .quit)
    (hall : (turns zone w first).length = first.length) {later : String}
    (hlater : (playAt zone colored (playAt zone colored w first).walk second).output =
      (playAt zone colored w first).walk.view colored ++ prompt ++ later) :
    playAt zone colored w (first ++ second) =
      { playAt zone colored (playAt zone colored w first).walk second with
        output := (playAt zone colored w first).output ++ later } := by
  have hend := atEnd_of_quit h
  induction first generalizing w with
  | nil =>
    have hnil : playAt zone colored w [] = ⟨.quit, w.view colored ++ prompt, w⟩ := by
      rw [playAt, if_neg (by simp [hend])]
    rw [hnil] at hlater ⊢
    rw [List.nil_append, ← hlater]
  | cons line rest ih =>
    obtain ⟨now, line⟩ := line
    cases hline : (w.setClock now).enter? zone line with
    | none =>
      rw [turns, if_neg (by simp [hend]), hline] at hall
      cases hall
    | some turn =>
      obtain ⟨w', refusal⟩ := turn
      rw [playAt_cons hend hline] at h hlater ⊢
      rw [turns_cons hend hline] at hall
      rw [List.cons_append, playAt_cons hend hline,
        ih h (Nat.succ_inj.1 hall) hlater (atEnd_of_quit h)]
      simp only [String.append_assoc]

/-- Sessions compose at line breaks.  The lines of two texts, the first of them empty or ending with
a line break, are the lines of both texts together; and unless a session with the first lines stops
at one that quits, a second session with the further lines leaves the same walk, with the same
outcome, as one session with all of them.  If the first session ran out of lines, that session shows
what the first one shows and then what the second one shows behind its first view and prompt. -/
theorem playAt_append (zone : Zone) (colored : Bool) (w : Walk) {a b : String}
    (ha : a = "" ∨ a.toList.getLast? = some '\n') {first second : List (Moment × String)}
    (hfirst : first.map Prod.snd = textLines a) (hsecond : second.map Prod.snd = textLines b) :
    (first ++ second).map Prod.snd = textLines (a ++ b) ∧
      (¬StopsAtQuit zone colored w first →
        let before := playAt zone colored w first
        let after := playAt zone colored before.walk second
        let whole := playAt zone colored w (first ++ second)
        after.walk = whole.walk ∧ after.outcome = whole.outcome ∧
          (before.outcome = .quit → ∃ later,
            after.output = before.walk.view colored ++ prompt ++ later ∧
              whole.output = before.output ++ later)) := by
  refine ⟨?_, fun hstop => ?_⟩
  · rw [List.map_append, hfirst, hsecond, textLines_append ha]
  intro before after whole
  cases hbefore : before.outcome with
  | finished =>
    have hend : before.walk.atEnd = true := (Walk.outcome_playAt zone colored w first).1 hbefore
    have hafter : after = ⟨.finished, before.walk.view colored, before.walk⟩ :=
      playAt_of_atEnd hend second
    have hwhole : whole = before := playAt_append_of_finished hbefore second
    rw [hafter, hwhole]
    exact ⟨rfl, hbefore.symm, nofun⟩
  | quit =>
    have hall := length_turns hbefore hstop
    have hend : before.walk.atEnd = false := by
      rw [Bool.eq_false_iff, ne_eq, ← Walk.outcome_playAt zone colored w first]
      exact fun h => nomatch hbefore.symm.trans h
    obtain ⟨later, hlater⟩ := exists_output hend second
    have hwhole := playAt_append_of_quit hbefore hall hlater
    refine ⟨?_, ?_, fun _ => ⟨later, hlater, ?_⟩⟩
    · exact (congrArg Session.walk hwhole).symm
    · exact (congrArg Session.outcome hwhole).symm
    · exact congrArg Session.output hwhole

/-- The lines of a text, entered at midnight. -/
def atMidnight (text : String) : List (Moment × String) :=
  (textLines text).map fun line => (Errand.midnight, line)

lemma map_snd_atMidnight (text : String) : (atMidnight text).map Prod.snd = textLines text := by
  rw [atMidnight, List.map_map]
  exact List.map_id _

/-- An errand is left at the closed shop and taken up again. -/
theorem playAt_append_errand :
    ∃ w, Walk.start Errand.tree Errand.midnight = .ok w ∧
      let before := playAt .universal false w (atMidnight "1\n 7\n")
      let after := playAt .universal false before.walk (atMidnight "\n2")
      let whole := playAt .universal false w (atMidnight "1\n 7\n" ++ atMidnight "\n2")
      before.outcome = .quit ∧ after.outcome = .finished ∧ after.walk = whole.walk ∧
        after.outcome = whole.outcome ∧ ∃ later,
          after.output = before.walk.view false ++ prompt ++ later ∧
            whole.output = before.output ++ later := by
  obtain ⟨w, hw⟩ := Errand.exists_start
  have houtcome : (playAt .universal false w (atMidnight "1\n 7\n")).outcome = .quit := by
    obtain rfl := Except.ok.inj hw
    rfl
  have hall : (turns .universal w (atMidnight "1\n 7\n")).length = 2 := by
    obtain rfl := Except.ok.inj hw
    rfl
  have hstop : ¬StopsAtQuit .universal false w (atMidnight "1\n 7\n") := by
    rintro ⟨-, now, line, hline, -⟩
    rw [hall] at hline
    cases hline
  obtain ⟨hwalk, hsame, houtput⟩ := (playAt_append .universal false w (a := "1\n 7\n") (b := "\n2")
    (Or.inr (by decide)) (map_snd_atMidnight _) (map_snd_atMidnight _)).2 hstop
  refine ⟨w, hw, houtcome, ?_, hwalk, hsame, houtput houtcome⟩
  obtain rfl := Except.ok.inj hw
  rfl

end Session

end Walkthrough
