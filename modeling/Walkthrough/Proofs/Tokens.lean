import Walkthrough.Markup.Reader
import Walkthrough.Proofs.Cutting
import Walkthrough.Proofs.Trimming

/-!
# Reading token by token

A text is read by taking a token off its front and going on with what follows.  This file unfolds
the list of tokens into that form, `Reading.readOn`, and says which token is taken off the front of
a text that starts with blanks, with a comment, with a tag or with character data.
-/

namespace Walkthrough

namespace Markup

/-! ### Token by token -/

namespace Token

variable {s rest : List Char} {token : Token}

lemma scan_of_error {cause : Error} (h : next? s = .error cause) : scan s = [.error cause] := by
  rw [scan]
  split <;> simp_all

lemma scan_of_none (h : next? s = .ok none) : scan s = [] := by
  rw [scan]
  split <;> simp_all

lemma scan_of_some (h : next? s = .ok (some (token, rest))) :
    scan s = .ok token :: scan rest := by
  rw [scan]
  split <;> simp_all

lemma next?_of_space {c : Char} (hc : isSpace c = true) : next? (c :: s) = next? s := by
  rw [next?, next?, List.dropWhile_cons_of_pos hc]

lemma scan_of_space {c : Char} (hc : isSpace c = true) : scan (c :: s) = scan s := by
  have hskip := next?_of_space hc (s := s)
  cases hnext : next? s with
  | error cause => rw [scan_of_error hnext, scan_of_error (hskip.trans hnext)]
  | ok first =>
    cases first with
    | none => rw [scan_of_none hnext, scan_of_none (hskip.trans hnext)]
    | some first => rw [scan_of_some hnext, scan_of_some (hskip.trans hnext)]

end Token

namespace Reading

/-- The state after a text is read. -/
def readOn (r : Reading) (s : List Char) : Except Error Reading := r.run (Token.scan s)

variable {r r' : Reading} {s rest : List Char} {token : Token}

lemma run_cons (r : Reading) (token : Token) (tokens : List (Except Error Token)) :
    r.run (.ok token :: tokens) = (r.step token).bind fun r' => r'.run tokens := by
  rw [run, List.foldlM_cons]
  rfl

lemma readOn_nil (r : Reading) : r.readOn [] = .ok r := by
  rw [readOn, Token.scan_of_none rfl]
  rfl

lemma readOn_of_step (h : Token.next? s = .ok (some (token, rest)))
    (hstep : r.step token = .ok r') : r.readOn s = r'.readOn rest := by
  rw [readOn, Token.scan_of_some h, run_cons, hstep]
  rfl

end Reading

/-! ### Single tokens -/

namespace Token

variable {s content gap : List Char} {c : Char}

lemma next?_bracket (s : List Char) : next? ('<' :: s) = markup? s := by
  rw [next?, List.dropWhile_cons_of_neg (by decide)]
  rfl

/-- A comment ends at the first place where it can end. -/
lemma next?_comment (hcontent : ¬ ['-', '-'] <:+: content) (s : List Char) :
    next? ('<' :: '!' :: '-' :: '-' :: (content ++ '-' :: '-' :: '>' :: s)) =
      .ok (some (silent, s)) := by
  have hcut : Text.cutFirstOf? ['-', '-', '>'] (content ++ '-' :: '-' :: '>' :: s) =
      some (content, s) := by
    induction content with
    | nil => exact Text.cutFirstOf?_cons_of_some (Text.dropFront?_append ['-', '-', '>'] s)
    | cons c content ih =>
      have hlater : ¬ ['-', '-'] <:+: content := fun h =>
        hcontent (h.trans (List.infix_cons List.infix_rfl))
      have hnone : Text.dropFront? ['-', '-', '>']
          (c :: (content ++ '-' :: '-' :: '>' :: s)) = none := by
        -- the comment cannot end here, for two dashes stand nowhere in its content
        rw [Option.eq_none_iff_forall_not_mem]
        intro r hr
        rw [Option.mem_def, Text.dropFront?_eq_some] at hr
        cases content with
        | nil => simp at hr
        | cons d content =>
          simp only [List.cons_append, List.nil_append, List.cons.injEq] at hr
          obtain ⟨rfl, rfl, -⟩ := hr
          exact hcontent ⟨[], content, rfl⟩
      rw [List.cons_append, Text.cutFirstOf?_cons_of_none hnone, ih hlater, Option.map_some]
  rw [next?_bracket, markup?, declaration, if_pos rfl, Text.dropFront?, if_pos rfl,
    Text.dropFront?, Option.bind_some, hcut]
  rfl

/-! #### Tags -/

/-- A tag goes on over everything that is no closing bracket. -/
lemma tagContent_append (quote : Option Char) (hcontent : '>' ∉ content) (s : List Char) :
    tagContent quote (content ++ s) =
      (content ++ (tagContent (content.foldl quoteAfter quote) s).1,
        (tagContent (content.foldl quoteAfter quote) s).2) := by
  induction content generalizing quote with
  | nil => rfl
  | cons c content ih =>
    rw [List.mem_cons, not_or] at hcontent
    have hgo : ¬ (quote = none ∧ c = '>') := fun h => hcontent.1 h.2.symm
    rw [List.cons_append, tagContent, if_neg hgo, ih _ hcontent.2]
    rfl

/-- A tag in which every quote is closed ends at its first closing bracket. -/
lemma tagContent_closed (hcontent : '>' ∉ content) (hquotes : content.foldl quoteAfter none = none)
    (s : List Char) : tagContent none (content ++ '>' :: s) = (content, s) := by
  rw [tagContent_append none hcontent, hquotes, tagContent, if_pos ⟨rfl, rfl⟩, List.append_nil]

/-- The start tag of a content. -/
def ofContent (content : List Char) : Token :=
  match content.reverse with
  | '/' :: front => single front.reverse
  | _ => opening content

lemma tag_eq (s : List Char) :
    tag s = (ofContent (tagContent none s).1, (tagContent none s).2) := by
  rw [tag, ofContent]
  simp only
  generalize (tagContent none s).1.reverse = back
  split <;> simp_all

/-- A tag that ends in a slash is a whole element. -/
lemma ofContent_slash (content : List Char) : ofContent (content ++ ['/']) = single content := by
  rw [ofContent, List.reverse_append]
  simp

/-- A tag that does not end in a slash opens an element. -/
lemma ofContent_of_last (h : ∀ c ∈ content.getLast?, c ≠ '/') :
    ofContent content = opening content := by
  unfold ofContent
  split
  · next front hfront =>
    refine absurd rfl (h '/' ?_)
    rw [← List.head?_reverse, hfront]
    rfl
  · rfl

/-- A text between angle brackets is a start tag unless its first character says otherwise. -/
lemma markup?_eq_tag (hc : c ≠ '/' ∧ c ≠ '?' ∧ c ≠ '!') (s : List Char) :
    markup? (c :: s) = .ok (some (tag (c :: s))) := by
  obtain ⟨hslash, hmark, hbang⟩ := hc
  unfold markup?
  split
  · next h => cases h
  · next h => exact absurd (List.cons.inj h).1 hslash
  · next h => exact absurd (List.cons.inj h).1 hmark
  · next h => exact absurd (List.cons.inj h).1 hbang
  · rfl

lemma next?_closing (hcontent : '>' ∉ content) (s : List Char) :
    next? ('<' :: '/' :: (content ++ '>' :: s)) = .ok (some (closing content, s)) := by
  have hall := Text.bne_of_not_mem hcontent
  have hstop := Text.stop_cons (p := (· != '>')) (c := '>') rfl s
  have hbracket : upToBracket (content ++ '>' :: s) = (content, s) := by
    rw [upToBracket, Text.takeWhile_append_stop hall hstop, Text.dropWhile_append_stop hall hstop]
    rfl
  rw [next?_bracket, markup?, hbracket]

/-! #### Character data -/

/-- A run of character data goes up to the next bracket and is trimmed. -/
lemma next?_text (hne : content ≠ []) (hcontent : '<' ∉ content)
    (htrimmed : Text.Trimmed isSpace content) (hgap : ∀ c ∈ gap, isSpace c = true) (s : List Char) :
    next? (content ++ (gap ++ '<' :: s)) = .ok (some (text content, '<' :: s)) := by
  obtain ⟨c, content, rfl⟩ := List.exists_cons_of_ne_nil hne
  have hc : isSpace c = false := htrimmed.first c rfl
  have hbracket : ¬ c = '<' := fun h => hcontent (h ▸ List.mem_cons_self)
  have hrun : '<' ∉ content ++ gap := by
    rw [List.mem_append, not_or]
    exact ⟨fun h => hcontent (List.mem_cons_of_mem _ h), fun h => absurd (hgap _ h) (by decide)⟩
  have hall := Text.bne_of_not_mem hrun
  have hstop := Text.stop_cons (p := (· != '<')) (c := '<') rfl s
  have hend : Text.dropEndWhile isSpace ((c :: content) ++ gap) = c :: content :=
    Text.dropEndWhile_append htrimmed.last hgap
  rw [next?, List.cons_append, List.dropWhile_cons_of_neg (by simp [hc]), ← List.append_assoc]
  simp only [if_neg hbracket, Text.takeWhile_append_stop hall hstop,
    Text.dropWhile_append_stop hall hstop]
  rw [← List.cons_append, hend]

end Token

end Markup

end Walkthrough
