import Walkthrough.Proofs.Tokens

/-!
# Tokens at the end of a text

The first token of a text is also the first token of a longer text, unless it runs to the end of
the text.  A token that does so may be another one in the longer text, or a fault there.  Of the
tokens that complete an element only two can run to the end: an end tag, which is then an end tag
in the longer text too, and a tag that breaks off right after a slash.
-/

namespace Walkthrough.Markup.Token

variable {s q rest content : List Char} {token : Token}

/-- Whether a token can complete an element. -/
def completes : Token → Bool
  | single _ | closing _ => true
  | _ => false

/-- What a tag that breaks off right after a slash can be in a longer text.  `content` stands before
the slash. -/
inductive PastSlash (content : List Char) : Token → Prop
  | single (more : List Char) : PastSlash content (.single (content ++ '/' :: more))
  | opening (more : List Char) : PastSlash content (.opening (content ++ '/' :: more))

/-- What a token that completes an element and runs to the end of a text can be in a longer one. -/
inductive GoesOn : Token → Token → Prop
  | same (token : Token) : GoesOn token token
  | closing (content more : List Char) : GoesOn (.closing content) (.closing (content ++ more))
  | tag {content : List Char} {token : Token} (h : PastSlash content token) :
      GoesOn (.single content) token

/-- What becomes of a token and the rest behind it when `q` follows: nothing changes, or the token
runs to the end of the text.  Then `next` is still a token if it can complete an element. -/
def Persists (token : Token) (rest q : List Char)
    (next : Except Error (Option (Token × List Char))) : Prop :=
  next = .ok (some (token, rest ++ q)) ∨
    rest = [] ∧ (token.completes = true →
      ∃ token' rest', next = .ok (some (token', rest')) ∧ GoesOn token token')

/-! ### Tags -/

lemma tagContent_append_cases (quote : Option Char) (s q : List Char) :
    tagContent quote (s ++ q) = ((tagContent quote s).1, (tagContent quote s).2 ++ q) ∨
      tagContent quote s = (s, []) ∧
        ∃ more rest, tagContent quote (s ++ q) = (s ++ more, rest) := by
  induction s generalizing quote with
  | nil => exact Or.inr ⟨rfl, (tagContent quote q).1, (tagContent quote q).2, rfl⟩
  | cons c s ih =>
    by_cases hend : quote = none ∧ c = '>'
    · left
      rw [List.cons_append, tagContent, if_pos hend, tagContent, if_pos hend]
    · rw [List.cons_append, tagContent, if_neg hend, tagContent, if_neg hend]
      rcases ih (quoteAfter quote c) with h | ⟨h, more, rest, hmore⟩
      · left
        rw [h]
      · right
        rw [h, hmore]
        exact ⟨rfl, more, rest, rfl⟩

lemma upToBracket_append_cases (s q : List Char) :
    upToBracket (s ++ q) = ((upToBracket s).1, (upToBracket s).2 ++ q) ∨
      upToBracket s = (s, []) ∧ ∃ more rest, upToBracket (s ++ q) = (s ++ more, rest) := by
  simp only [upToBracket]
  cases hs : s.dropWhile (· != '>') with
  | nil =>
    have hall := List.dropWhile_eq_nil_iff.1 hs
    rw [List.takeWhile_append_of_pos hall, List.takeWhile_eq_self_iff.2 hall]
    exact Or.inr ⟨rfl, _, _, rfl⟩
  | cons c u =>
    rw [Text.takeWhile_append_of_cons hs, Text.dropWhile_append_of_cons hs]
    exact Or.inl rfl

lemma ofContent_cases (content : List Char) :
    (∃ front, content = front ++ ['/'] ∧ ofContent content = single front) ∨
      ofContent content = opening content := by
  cases content using List.reverseRecOn with
  | nil => exact Or.inr rfl
  | append_singleton front c =>
    by_cases hc : c = '/'
    · subst hc
      exact Or.inl ⟨front, rfl, ofContent_slash front⟩
    · refine Or.inr (ofContent_of_last ?_)
      intro d hd
      rw [List.getLast?_concat, Option.mem_some_iff] at hd
      exact hd ▸ hc

/-- A tag that breaks off after a slash is finished there, or goes on. -/
lemma goesOn_ofContent (content more : List Char) :
    GoesOn (single content) (ofContent (content ++ '/' :: more)) := by
  rcases ofContent_cases (content ++ '/' :: more) with ⟨front, hfront, htoken⟩ | htoken
  · rw [htoken]
    cases more using List.reverseRecOn with
    | nil =>
      obtain rfl : content = front := by simpa using hfront
      exact .same _
    | append_singleton more c =>
      rw [← List.cons_append, ← List.append_assoc] at hfront
      obtain ⟨rfl, -⟩ := List.append_inj' hfront rfl
      exact .tag (.single more)
  · rw [htoken]
    exact .tag (.opening more)

lemma persists_tag (s q : List Char) :
    Persists (tag s).1 (tag s).2 q (.ok (some (tag (s ++ q)))) := by
  rw [tag_eq, tag_eq]
  rcases tagContent_append_cases none s q with hsame | ⟨hend, more, rest, hmore⟩
  · left
    rw [hsame]
  · right
    rw [hend, hmore]
    refine ⟨rfl, fun hcompletes => ⟨_, _, rfl, ?_⟩⟩
    rcases ofContent_cases s with ⟨front, rfl, htoken⟩ | htoken
    · rw [htoken, List.append_assoc]
      exact goesOn_ofContent front more
    · rw [htoken] at hcompletes
      cases hcompletes

/-! ### Constructs that are read to their end -/

lemma dropWord?_append {word : List Char} (h : dropWord? word s = some rest) (q : List Char) :
    dropWord? word (s ++ q) = some (rest ++ q) := by
  induction word generalizing s with
  | nil =>
    obtain rfl := Option.some.inj h
    rfl
  | cons w word ih =>
    cases s with
    | nil => cases h
    | cons c s =>
      rw [dropWord?] at h
      split_ifs at h with hc
      rw [List.cons_append, dropWord?, if_pos hc, ih h]

lemma balancedContent?_append {depth : Nat} (h : balancedContent? depth s = some (content, rest))
    (q : List Char) : balancedContent? depth (s ++ q) = some (content, rest ++ q) := by
  induction s generalizing depth content with
  | nil => cases h
  | cons c s ih =>
    rw [balancedContent?] at h
    rw [List.cons_append, balancedContent?]
    by_cases hend : c = '>' ∧ depth = 0
    · rw [if_pos hend] at h ⊢
      obtain ⟨rfl, rfl⟩ := Prod.mk.inj (Option.some.inj h)
      rfl
    · rw [if_neg hend] at h ⊢
      simp only at h ⊢
      obtain ⟨⟨content', rest'⟩, hr, heq⟩ := Option.map_eq_some_iff.1 h
      obtain ⟨rfl, rfl⟩ := Prod.mk.inj heq
      rw [ih hr]
      rfl

/-- A construct that is read in two steps. -/
lemma bind_append {front : List Char → Option (List Char)}
    {cut : List Char → Option (List Char × List Char)}
    (hfront : ∀ {s rest}, front s = some rest → ∀ q, front (s ++ q) = some (rest ++ q))
    (hcut : ∀ {s content rest}, cut s = some (content, rest) →
      ∀ q, cut (s ++ q) = some (content, rest ++ q))
    (h : (front s).bind cut = some (content, rest)) (q : List Char) :
    (front (s ++ q)).bind cut = some (content, rest ++ q) := by
  obtain ⟨s', hs', hcontent⟩ := Option.bind_eq_some_iff.1 h
  rw [hfront hs', Option.bind_some, hcut hcontent]

lemma declaration_append (h : declaration s = .ok (token, rest)) (q : List Char) :
    declaration (s ++ q) = .ok (token, rest ++ q) := by
  cases s with
  | nil => cases h
  | cons c s =>
    rw [List.cons_append]
    unfold declaration at h ⊢
    simp only at h ⊢
    split_ifs at h ⊢ with hdash hbracket hletter
    · split at h
      · next hcut =>
        obtain ⟨rfl, rfl⟩ := Prod.mk.inj (Except.ok.inj h)
        rw [bind_append Text.dropFront?_append_of_some Text.cutFirstOf?_append hcut]
      · cases h
    · split at h
      · next hcut =>
        obtain ⟨rfl, rfl⟩ := Prod.mk.inj (Except.ok.inj h)
        rw [bind_append dropWord?_append Text.cutFirstOf?_append hcut]
      · cases h
    · split at h
      · next hcut =>
        rw [bind_append dropWord?_append balancedContent?_append hcut]
        simp only
        split_ifs at h ⊢
        obtain ⟨rfl, rfl⟩ := Prod.mk.inj (Except.ok.inj h)
        rfl
      · cases h

/-! ### The first token -/

lemma persists_instruction (h : instruction s = .ok (token, rest)) (q : List Char) :
    Persists token rest q (some <$> instruction (s ++ q)) := by
  unfold instruction at h ⊢
  simp only at h ⊢
  split at h
  · next hmark =>
    obtain ⟨rfl, rfl⟩ := Prod.mk.inj (Except.ok.inj h)
    rcases upToBracket_append_cases s q with hsame | ⟨hend, -⟩
    · left
      rw [hsame]
      simp only [hmark]
      rfl
    · right
      rw [hend]
      exact ⟨rfl, fun hcompletes => by cases hcompletes⟩
  · cases h

lemma persists_closing (s q : List Char) :
    Persists (closing (upToBracket s).1) (upToBracket s).2 q
      (.ok (some (closing (upToBracket (s ++ q)).1, (upToBracket (s ++ q)).2))) := by
  rcases upToBracket_append_cases s q with hsame | ⟨hend, more, rest, hmore⟩
  · left
    rw [hsame]
  · right
    rw [hend, hmore]
    exact ⟨rfl, fun _ => ⟨_, _, rfl, .closing s more⟩⟩

/-- A step that fails or gives a token and what follows it. -/
lemma exists_of_map_eq_ok {next : Except Error (Token × List Char)}
    (h : some <$> next = .ok (some (token, rest))) : next = .ok (token, rest) := by
  cases next with
  | error cause => cases h
  | ok t => rw [Option.some.inj (Except.ok.inj h)]

lemma persists_markup? (h : markup? s = .ok (some (token, rest))) (q : List Char) :
    Persists token rest q (markup? (s ++ q)) := by
  cases s with
  | nil => cases h
  | cons c s =>
    rw [List.cons_append]
    by_cases hslash : c = '/'
    · subst hslash
      obtain ⟨rfl, rfl⟩ := Prod.mk.inj (Option.some.inj (Except.ok.inj h))
      exact persists_closing s q
    by_cases hmark : c = '?'
    · subst hmark
      exact persists_instruction (exists_of_map_eq_ok h) q
    by_cases hbang : c = '!'
    · subst hbang
      left
      have hmore := declaration_append (exists_of_map_eq_ok h) q
      rw [markup?, hmore]
      rfl
    · have hstart := markup?_eq_tag ⟨hslash, hmark, hbang⟩
      rw [hstart] at h
      rw [hstart, ← List.cons_append]
      obtain ⟨rfl, rfl⟩ := Prod.mk.inj (Option.some.inj (Except.ok.inj h))
      exact persists_tag (c :: s) q

/-- The first token of a text is the first token of a longer text, or runs to the end. -/
lemma persists_next? (h : next? s = .ok (some (token, rest))) (q : List Char) :
    Persists token rest q (next? (s ++ q)) := by
  unfold next? at h ⊢
  cases hs : s.dropWhile isSpace with
  | nil =>
    rw [hs] at h
    cases h
  | cons c s' =>
    rw [hs] at h
    rw [Text.dropWhile_append_of_cons hs]
    simp only at h ⊢
    split_ifs at h ⊢ with hbracket
    · exact persists_markup? h q
    · obtain ⟨rfl, rfl⟩ := Prod.mk.inj (Option.some.inj (Except.ok.inj h))
      cases hrun : s'.dropWhile (· != '<') with
      | nil => exact Or.inr ⟨rfl, fun hcompletes => by cases hcompletes⟩
      | cons d u =>
        left
        rw [Text.takeWhile_append_of_cons hrun, Text.dropWhile_append_of_cons hrun]
        rfl

end Walkthrough.Markup.Token
