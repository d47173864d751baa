import Walkthrough.Markup.Tag
import Walkthrough.Text.Blank
import Walkthrough.Text.Cut

/-!
# Tokens

A marked-up text is a sequence of tokens: runs of character data, and the constructs between
angle brackets.  `Token.next?` takes one token off the front of a text, and `Token.scan` lists
them all; a fault ends the list.  Comments, instructions and document types are recognised, for a
fault in them is a fault of the text, and carry no content.
-/

namespace Walkthrough.Markup

/-- One token of a marked-up text. -/
inductive Token
  /-- Character data without the blanks around it, its references not yet replaced. -/
  | text (raw : List Char)
  /-- Character data that stands for itself. -/
  | cdata (content : List Char)
  /-- A start tag. -/
  | opening (content : List Char)
  /-- A tag that opens and closes an element at once. -/
  | single (content : List Char)
  /-- An end tag. -/
  | closing (content : List Char)
  /-- A comment, an instruction or a document type. -/
  | silent
  deriving DecidableEq, Repr

namespace Token

/-- The quote that is open after a character, `quote` being the one that is open before it. -/
def quoteAfter (quote : Option Char) (c : Char) : Option Char :=
  match quote with
  | some q => if c = q then none else some q
  | none => if c = '"' ∨ c = '\'' then some c else none

/-- The content of a tag up to the first closing bracket outside quotes or the end, and what
follows that bracket.  `quote` is the quote that is open. -/
def tagContent (quote : Option Char) : List Char → List Char × List Char
  | [] => ([], [])
  | c :: s =>
    if quote = none ∧ c = '>' then ([], s)
    else
      let r := tagContent (quoteAfter quote c) s
      (c :: r.1, r.2)

/-- The content of a document type up to the closing bracket that balances, and what follows that
bracket.  `depth` is the number of brackets open inside. -/
def balancedContent? (depth : Nat) : List Char → Option (List Char × List Char)
  | [] => none
  | c :: s =>
    if c = '>' ∧ depth = 0 then some ([], s)
    else
      let depth' := if c = '<' then depth + 1 else if c = '>' then depth - 1 else depth
      (balancedContent? depth' s).map fun r => (c :: r.1, r.2)

/-- What is left of a list once a word of capital letters, in any letter case, is taken off its
front. -/
def dropWord? : List Char → List Char → Option (List Char)
  | [], s => some s
  | _ :: _, [] => none
  | w :: word, c :: s => if c.toUpper = w then dropWord? word s else none

/-- The content up to the next closing bracket or the end, and what follows. -/
def upToBracket (s : List Char) : List Char × List Char :=
  (s.takeWhile (· != '>'), (s.dropWhile (· != '>')).tail)

/-- The token that starts with an exclamation mark, for a text that starts after the mark. -/
def declaration (s : List Char) : Except Error (Token × List Char) :=
  match s with
  | [] => .error (.unfinished .declaration)
  | c :: s =>
    if c = '-' then
      -- the two dashes that open a comment do not also close it
      match (Text.dropFront? ['-'] s).bind (Text.cutFirstOf? ['-', '-', '>']) with
      | some (_, rest) => .ok (silent, rest)
      | none => .error (.unfinished .comment)
    else if c = '[' then
      match (dropWord? "CDATA[".toList s).bind (Text.cutFirstOf? [']', ']', '>']) with
      | some (content, rest) => .ok (cdata content, rest)
      | none => .error (.unfinished .cdata)
    else if c = 'D' ∨ c = 'd' then
      -- a document type may declare entities between brackets of its own
      match (dropWord? "OCTYPE".toList s).bind (balancedContent? 0) with
      | some (content, rest) =>
        if content.all isSpace then .error .emptyDoctype else .ok (silent, rest)
      | none => .error (.unfinished .doctype)
    else .error (.unknownDeclaration (firstByte c))

/-- The token that starts with a question mark, for a text that starts after the mark.  Another
mark has to come before the closing bracket, and something between the two. -/
def instruction (s : List Char) : Except Error (Token × List Char) :=
  let (content, rest) := upToBracket s
  match content.reverse with
  | '?' :: _ :: _ => .ok (silent, rest)
  | _ => .error (.unfinished .instruction)

/-- The start tag at the front of a text that starts after the opening bracket. -/
def tag (s : List Char) : Token × List Char :=
  let (content, rest) := tagContent none s
  match content.reverse with
  | '/' :: front => (single front.reverse, rest)
  | _ => (opening content, rest)

/-- The token between angle brackets at the front of a text that starts after the opening
bracket.  A bracket at the very end of a text ends it. -/
def markup? (s : List Char) : Except Error (Option (Token × List Char)) :=
  match s with
  | [] => .ok none
  | '/' :: s =>
    let (content, rest) := upToBracket s
    .ok (some (closing content, rest))
  | '?' :: s => some <$> instruction s
  | '!' :: s => some <$> declaration s
  | s => .ok (some (tag s))

/-- The first token of a text and what follows it. -/
def next? (s : List Char) : Except Error (Option (Token × List Char)) :=
  match s.dropWhile isSpace with
  | [] => .ok none
  | c :: s =>
    if c = '<' then markup? s
    else
      let run := c :: s.takeWhile (· != '<')
      .ok (some (text (Text.dropEndWhile isSpace run), s.dropWhile (· != '<')))

/-! ### Every token takes something off the text -/

theorem length_tagContent_le (quote : Option Char) (s : List Char) :
    (tagContent quote s).2.length ≤ s.length := by
  induction s generalizing quote with
  | nil => simp [tagContent]
  | cons c s ih =>
    unfold tagContent
    split
    · simp
    · exact Nat.le_succ_of_le (ih (quoteAfter quote c))

theorem length_of_balancedContent? {depth : Nat} {s : List Char} {r : List Char × List Char}
    (h : balancedContent? depth s = some r) : r.2.length < s.length := by
  induction s generalizing depth r with
  | nil => simp [balancedContent?] at h
  | cons c s ih =>
    unfold balancedContent? at h
    split at h
    · cases h
      simp
    · obtain ⟨r', hr', rfl⟩ := Option.map_eq_some_iff.1 h
      have := ih hr'
      simp only [List.length_cons]
      omega

theorem length_of_dropWord? {word s rest : List Char} (h : dropWord? word s = some rest) :
    rest.length ≤ s.length := by
  induction word generalizing s with
  | nil =>
    simp only [dropWord?, Option.some.injEq] at h
    simp [h]
  | cons w word ih =>
    cases s with
    | nil => simp [dropWord?] at h
    | cons c s =>
      unfold dropWord? at h
      split at h
      · have := ih h
        simp only [List.length_cons]
        omega
      · simp at h

theorem length_upToBracket_le (s : List Char) : (upToBracket s).2.length ≤ s.length := by
  have := Text.length_dropWhile_le (· != '>') s
  simp only [upToBracket, List.length_tail]
  omega

theorem length_of_declaration {s : List Char} {t : Token × List Char}
    (h : declaration s = .ok t) : t.2.length < s.length := by
  unfold declaration at h
  split at h
  · simp at h
  · next c s' =>
    simp only [List.length_cons]
    split at h
    · split at h
      · next hcut =>
        cases h
        obtain ⟨s₁, hs₁, hs₂⟩ := Option.bind_eq_some_iff.1 hcut
        have h₁ := Text.length_of_dropFront? hs₁
        have h₂ := Text.length_of_cutFirstOf? hs₂
        simp only at *
        omega
      · simp at h
    · split at h
      · split at h
        · next hcut =>
          cases h
          obtain ⟨s₁, hs₁, hs₂⟩ := Option.bind_eq_some_iff.1 hcut
          have h₁ := length_of_dropWord? hs₁
          have h₂ := Text.length_of_cutFirstOf? hs₂
          simp only at *
          omega
        · simp at h
      · split at h
        · split at h
          · next hcut =>
            obtain ⟨s₁, hs₁, hs₂⟩ := Option.bind_eq_some_iff.1 hcut
            have h₁ := length_of_dropWord? hs₁
            have h₂ := length_of_balancedContent? hs₂
            split at h
            · simp at h
            · cases h
              simp only at *
              omega
          · simp at h
        · simp at h

theorem length_of_instruction {s : List Char} {t : Token × List Char}
    (h : instruction s = .ok t) : t.2.length ≤ s.length := by
  have hs := length_upToBracket_le s
  unfold instruction at h
  simp only at h
  split at h
  · cases h
    exact hs
  · simp at h

theorem length_tag_le (s : List Char) : (tag s).2.length ≤ s.length := by
  have := length_tagContent_le none s
  unfold tag
  split
  simp_all only
  split <;> exact this

theorem length_of_markup? {s : List Char} {t : Token × List Char}
    (h : markup? s = .ok (some t)) : t.2.length ≤ s.length := by
  unfold markup? at h
  split at h
  · simp at h
  · next s' =>
    have hs := length_upToBracket_le s'
    cases h
    exact Nat.le_succ_of_le hs
  · next s' =>
    cases hi : instruction s' with
    | error e => simp [hi, Functor.map, Except.map] at h
    | ok t' =>
      simp only [hi, Functor.map, Except.map, Except.ok.injEq, Option.some.injEq] at h
      have := length_of_instruction hi
      subst h
      simp only [List.length_cons]
      omega
  · next s' =>
    cases hd : declaration s' with
    | error e => simp [hd, Functor.map, Except.map] at h
    | ok t' =>
      simp only [hd, Functor.map, Except.map, Except.ok.injEq, Option.some.injEq] at h
      have := length_of_declaration hd
      subst h
      simp only [List.length_cons]
      omega
  · cases h
    exact length_tag_le s

/-- A token leaves less of the text than there was. -/
theorem length_of_next? {s : List Char} {t : Token × List Char}
    (h : next? s = .ok (some t)) : t.2.length < s.length := by
  have hs := Text.length_dropWhile_le isSpace s
  unfold next? at h
  split at h
  · simp at h
  · next c s' hd =>
    rw [hd] at hs
    simp only [List.length_cons] at hs
    split at h
    · have := length_of_markup? h
      omega
    · have := Text.length_dropWhile_le (· != '<') s'
      cases h
      simp only
      omega

/-- The tokens of a text in order.  The last of them is a fault if the text has one. -/
def scan (s : List Char) : List (Except Error Token) :=
  match _ : next? s with
  | .error cause => [.error cause]
  | .ok none => []
  | .ok (some (token, rest)) => .ok token :: scan rest
termination_by s.length
decreasing_by
  have := length_of_next? ‹_›
  simp only at this
  omega

end Token

end Walkthrough.Markup
