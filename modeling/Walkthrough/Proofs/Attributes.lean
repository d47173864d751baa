import Walkthrough.Markup.Tag
import Walkthrough.Proofs.Cutting
import Walkthrough.Proofs.Tables

/-!
# Reading attributes

The next attribute of a tag is a key, an equals sign and a quoted value; `RawAttribute.Leads` says
so without a reader.  A tag is read attribute by attribute, each of which goes to the end of the
table, and what stands behind an attribute does not change how it is read.  Hence a tag that goes
on behind its last attribute has more attributes, or a fault.
-/

namespace Walkthrough

/-- If two steps in a row succeed, each of them does. -/
lemma exists_of_bind_eq_ok {ε α β : Type} {first : Except ε α} {next : α → Except ε β} {b : β}
    (h : first >>= next = .ok b) : ∃ a, first = .ok a ∧ next a = .ok b := by
  cases first with
  | error cause => cases h
  | ok a => exact ⟨a, rfl, h⟩

namespace Markup

/-- Blanks, or nothing. -/
def IsGap (s : List Char) : Prop := ∀ c ∈ s, isSpace c = true

variable {s q value rest : List Char} {quote : Char} {total total' : Nat}
  {seen seen' : List (List Char × Nat)} {table table' table₁ table₂ : Table String}

/-! ### Values -/

lemma quotedValue_append {after : List Char} (hafter : IsGap after)
    (hquote : quote = '"' ∨ quote = '\'') (hvalue : quote ∉ value) (total : Nat)
    (rest : List Char) :
    quotedValue total (after ++ quote :: (value ++ quote :: rest)) = .ok (value, rest) := by
  have hspace : isSpace quote = false := by rcases hquote with rfl | rfl <;> decide
  have hall := Text.bne_of_not_mem hvalue
  have hstop := Text.stop_cons (p := (· != quote)) (c := quote) (by simp) rest
  rw [quotedValue, Text.dropWhile_append_stop hafter (Text.stop_cons hspace _)]
  simp only [if_pos hquote, Text.takeWhile_append_stop hall hstop,
    Text.dropWhile_append_stop hall hstop]

lemma exists_of_quotedValue (h : quotedValue total s = .ok (value, rest)) :
    ∃ after quote, s = after ++ quote :: (value ++ quote :: rest) ∧ IsGap after ∧
      (quote = '"' ∨ quote = '\'') ∧ quote ∉ value := by
  unfold quotedValue at h
  split at h
  · cases h
  · next quote s' hs =>
    split_ifs at h with hquote
    split at h
    · cases h
    · next c rest' hrest =>
      obtain ⟨rfl, rfl⟩ := Prod.mk.inj (Except.ok.inj h)
      obtain ⟨hs, -⟩ := Text.eq_of_dropWhile_eq_cons hs
      obtain ⟨hs', hc⟩ := Text.eq_of_dropWhile_eq_cons hrest
      obtain rfl : c = quote := by simpa using hc
      refine ⟨s.takeWhile isSpace, c, ?_, fun d hd => List.mem_takeWhile_imp hd, hquote, ?_⟩
      · rw [← hs']
        exact hs
      · intro hmem
        simpa using List.mem_takeWhile_imp hmem

/-! ### The next attribute -/

namespace RawAttribute

/-- An attribute at the front of the rest of a tag: blanks, the key, an equals sign, and the value
between quotes. -/
inductive Leads : RawAttribute → List Char → Prop
  | intro {gap t before after value rest : List Char} {first quote : Char} {position : Nat}
      (hgap : IsGap gap) (hfirst : isSpace first = false) (ht : ∀ c ∈ t, isKeyChar c = true)
      (hbefore : IsGap before) (hafter : IsGap after) (hquote : quote = '"' ∨ quote = '\'')
      (hvalue : quote ∉ value) :
      Leads ⟨first :: t, position, value, rest⟩
        (gap ++ first :: (t ++ (before ++ '=' :: (after ++ quote :: (value ++ quote :: rest)))))

variable {a : RawAttribute}

lemma Leads.append (h : a.Leads s) (q : List Char) :
    Leads { a with rest := a.rest ++ q } (s ++ q) := by
  cases h with
  | @intro gap t before after value rest first quote position hgap hfirst ht hbefore hafter hquote
      hvalue =>
    have hleads : Leads ⟨first :: t, position, value, rest ++ q⟩ _ :=
      .intro hgap hfirst ht hbefore hafter hquote hvalue
    simpa using hleads

lemma isKeyChar_stop {before : List Char} (hbefore : IsGap before) (s : List Char) :
    ∀ c ∈ (before ++ '=' :: s).head?, isKeyChar c = false := by
  intro c hc
  cases before with
  | nil =>
    obtain rfl := Option.some.inj hc
    decide
  | cons d before =>
    obtain rfl := Option.some.inj hc
    simp [isKeyChar, hbefore d List.mem_cons_self]

/-- An attribute with a new key is read. -/
lemma Leads.next? (h : a.Leads s) (hnew : a.key ∉ seen.map Prod.fst) (total : Nat) :
    ∃ position, RawAttribute.next? total seen s = .ok (some { a with position := position }) := by
  cases h with
  | @intro gap t before after value rest first quote position hgap hfirst ht hbefore hafter hquote
      hvalue =>
    have hstop := isKeyChar_stop hbefore (after ++ quote :: (value ++ quote :: rest))
    have hfind : (seen.find? fun k => k.1 == first :: t) = none := by
      rw [List.find?_eq_none]
      intro k hk hsame
      exact hnew (List.mem_map.2 ⟨k, hk, eq_of_beq hsame⟩)
    rw [RawAttribute.next?, Text.dropWhile_append_stop hgap (Text.stop_cons hfirst _)]
    simp only [Text.takeWhile_append_stop ht hstop, Text.dropWhile_append_stop ht hstop,
      Text.dropWhile_append_stop hbefore (Text.stop_cons (by decide : isSpace '=' = false) _),
      hfind, quotedValue_append hafter hquote hvalue, if_true]
    exact ⟨_, rfl⟩

lemma leads_of_next? (h : RawAttribute.next? total seen s = .ok (some a)) :
    a.Leads s ∧ a.key ∉ seen.map Prod.fst := by
  unfold RawAttribute.next? at h
  split at h
  · cases h
  · next first s₁ hs =>
    simp only at h
    split at h
    · cases h
    · next c s₂ hs₂ =>
      split_ifs at h with hequals
      subst hequals
      split at h
      · cases h
      · next hfind =>
        cases hvalue : quotedValue total s₂ with
        | error cause =>
          rw [hvalue] at h
          cases h
        | ok v =>
          obtain ⟨value, rest⟩ := v
          rw [hvalue] at h
          obtain rfl := Option.some.inj (Except.ok.inj h)
          obtain ⟨after, quote, rfl, hafter, hquote, hvalue⟩ := exists_of_quotedValue hvalue
          obtain ⟨hs, hfirst⟩ := Text.eq_of_dropWhile_eq_cons hs
          obtain ⟨hs₂, -⟩ := Text.eq_of_dropWhile_eq_cons hs₂
          have hblank : ∀ u : List Char, IsGap (u.takeWhile isSpace) := fun u c hc =>
            List.mem_takeWhile_imp hc
          have hshape : s = s.takeWhile isSpace ++ first :: (s₁.takeWhile isKeyChar ++
              ((s₁.dropWhile isKeyChar).takeWhile isSpace ++ '=' ::
                (after ++ quote :: (value ++ quote :: rest)))) := by
            rw [← hs₂, List.takeWhile_append_dropWhile]
            exact hs
          refine ⟨?_, ?_⟩
          · rw [hshape]
            exact .intro (hblank s) hfirst (fun c hc => List.mem_takeWhile_imp hc) (hblank _) hafter
              hquote hvalue
          · intro hmem
            obtain ⟨k, hk, hsame⟩ := List.mem_map.1 hmem
            exact List.find?_eq_none.1 hfind k hk (beq_iff_eq.2 hsame)

end RawAttribute

/-! ### All attributes -/

lemma next?_eq_none : RawAttribute.next? total seen s = .ok none ↔ IsGap s := by
  constructor
  · intro h
    unfold RawAttribute.next? at h
    split at h
    · next hs => exact List.dropWhile_eq_nil_iff.1 hs
    · simp only at h
      split at h
      · cases h
      · split_ifs at h
        split at h
        · cases h
        · cases hvalue : quotedValue total _ <;> rw [hvalue] at h <;> cases h
  · intro h
    rw [RawAttribute.next?, List.dropWhile_eq_nil_iff.2 h]

lemma attributesFrom_of_gap (h : IsGap s) : attributesFrom total seen table s = .ok table := by
  rw [attributesFrom]
  split <;> simp_all [next?_eq_none.2 h]

lemma attributesFrom_of_some {a : RawAttribute} {value : String}
    (h : RawAttribute.next? total seen s = .ok (some a)) (hvalue : unescape a.value = .ok value) :
    attributesFrom total seen table s =
      attributesFrom total (seen ++ [(a.key, a.position)])
        (table.insert (String.ofList a.key) value) a.rest := by
  rw [attributesFrom]
  split
  · simp_all
  · simp_all
  · next a' h' =>
    rw [h] at h'
    obtain rfl := Option.some.inj (Except.ok.inj h')
    rw [hvalue]

lemma exists_of_attributesFrom (h : attributesFrom total seen table s = .ok table')
    (hs : ¬ IsGap s) :
    ∃ a value, RawAttribute.next? total seen s = .ok (some a) ∧ unescape a.value = .ok value ∧
      attributesFrom total (seen ++ [(a.key, a.position)])
        (table.insert (String.ofList a.key) value) a.rest = .ok table' := by
  rw [attributesFrom] at h
  split at h
  · cases h
  · next hnone => exact absurd (next?_eq_none.1 hnone) hs
  · next a ha =>
    split at h
    · cases h
    · next value hvalue => exact ⟨a, value, ha, hvalue, h⟩

/-- The keys seen in a tag are the keys of the table that its attributes are read into. -/
def AreKeys (seen : List (List Char × Nat)) (table : Table String) : Prop :=
  seen.map Prod.fst = table.keys.map String.toList

lemma areKeys_empty : AreKeys [] Table.empty := rfl

namespace AreKeys

variable {key : List Char}

lemma not_mem (h : AreKeys seen table) (hkey : key ∉ seen.map Prod.fst) :
    String.ofList key ∉ table.keys := by
  intro hmem
  rw [h] at hkey
  exact hkey (List.mem_map.2 ⟨_, hmem, String.toList_ofList⟩)

lemma insert (h : AreKeys seen table) (hkey : key ∉ seen.map Prod.fst) (position : Nat)
    (value : String) :
    AreKeys (seen ++ [(key, position)]) (table.insert (String.ofList key) value) := by
  rw [AreKeys, Table.keys_insert (h.not_mem hkey), List.map_append, List.map_append, h]
  simp

end AreKeys

/-- Reading attributes adds entries to the table, and adds one if there is anything to read. -/
lemma size_of_attributesFrom (hkeys : AreKeys seen table)
    (h : attributesFrom total seen table s = .ok table') :
    table.size ≤ table'.size ∧ (¬ IsGap s → table.size < table'.size) := by
  induction hn : s.length using Nat.strong_induction_on generalizing seen table s with
  | h n ih =>
    by_cases hgap : IsGap s
    · rw [attributesFrom_of_gap hgap] at h
      obtain rfl := Except.ok.inj h
      exact ⟨le_rfl, fun hs => absurd hgap hs⟩
    · obtain ⟨a, value, hnext, -, hrest⟩ := exists_of_attributesFrom h hgap
      have hnew := (RawAttribute.leads_of_next? hnext).2
      have hshorter : a.rest.length < n := hn ▸ length_of_next? hnext
      have hsize := (ih _ hshorter (hkeys.insert hnew a.position value) hrest rfl).1
      rw [Table.size, Table.entries_insert (hkeys.not_mem hnew), List.length_append] at hsize
      have hone : table.size < table'.size := hsize
      exact ⟨hone.le, fun _ => hone⟩

/-- A tag that goes on with anything but blanks behind its attributes has more attributes. -/
lemma size_lt_of_attributesFrom_append (hkeys : AreKeys seen table) (hkeys' : AreKeys seen' table)
    (h : attributesFrom total seen table s = .ok table₁) (hq : ¬ IsGap q)
    (h' : attributesFrom total' seen' table (s ++ q) = .ok table₂) : table₁.size < table₂.size := by
  induction hn : s.length using Nat.strong_induction_on generalizing seen seen' table s with
  | h n ih =>
    have hlonger : ¬ IsGap (s ++ q) := fun hgap =>
      hq fun c hc => hgap c (List.mem_append_right _ hc)
    by_cases hgap : IsGap s
    · rw [attributesFrom_of_gap hgap] at h
      obtain rfl := Except.ok.inj h
      exact (size_of_attributesFrom hkeys' h').2 hlonger
    · obtain ⟨a, value, hnext, hvalue, hrest⟩ := exists_of_attributesFrom h hgap
      obtain ⟨hleads, hnew⟩ := RawAttribute.leads_of_next? hnext
      have hnew' : a.key ∉ seen'.map Prod.fst := by
        rw [hkeys', ← hkeys]
        exact hnew
      obtain ⟨position, hnext'⟩ := (hleads.append q).next? hnew' total'
      rw [attributesFrom_of_some hnext' hvalue] at h'
      have hshorter : a.rest.length < n := hn ▸ length_of_next? hnext
      exact ih _ hshorter (hkeys.insert hnew _ value) (hkeys'.insert hnew' _ value) hrest h' rfl

/-! ### Tags -/

variable {content more : List Char} {e e' : Element}

lemma exists_of_ofTag (h : Element.ofTag content = .ok e) :
    ∃ table, attributesFrom (byteLength content) [] Table.empty
        (content.dropWhile fun c => !isSpace c) = .ok table ∧
      e = ⟨String.ofList (content.takeWhile fun c => !isSpace c), table, [], ""⟩ := by
  obtain ⟨table, htable, he⟩ := exists_of_bind_eq_ok h
  exact ⟨table, htable, (Except.ok.inj he).symm⟩

/-- A tag that goes on with a slash has a longer name or more attributes. -/
lemma tag_ne_of_ofTag_append (h : Element.ofTag content = .ok e)
    (h' : Element.ofTag (content ++ '/' :: more) = .ok e') :
    e.name ≠ e'.name ∨ e.attributes ≠ e'.attributes := by
  obtain ⟨table, htable, rfl⟩ := exists_of_ofTag h
  obtain ⟨table', htable', rfl⟩ := exists_of_ofTag h'
  cases hrest : content.dropWhile fun c => !isSpace c with
  | nil =>
    left
    have hall := List.dropWhile_eq_nil_iff.1 hrest
    rw [List.takeWhile_append_of_pos hall, List.takeWhile_cons_of_pos (by decide),
      List.takeWhile_eq_self_iff.2 hall, ne_eq, String.ofList_inj, List.self_eq_append_right]
    simp
  | cons c u =>
    right
    rw [hrest] at htable
    rw [Text.dropWhile_append_of_cons hrest, ← List.cons_append] at htable'
    have hslash : ¬ IsGap ('/' :: more) := by
      intro hgap
      exact absurd (hgap '/' List.mem_cons_self) (by decide)
    have hsize :=
      size_lt_of_attributesFrom_append areKeys_empty areKeys_empty htable hslash htable'
    rintro rfl
    exact lt_irrefl _ hsize

end Markup

end Walkthrough
