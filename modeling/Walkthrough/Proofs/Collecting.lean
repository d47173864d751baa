import Mathlib.Data.List.Lex
import Walkthrough.Proofs.Tables
import Walkthrough.Strings

/-!
# Strings in document order

Where an element stands inside another is written as the list of the children through which it is
reached, so that elements follow each other in document order just if their positions ascend as
words do.  Main statement: the table of the strings inside a root has a key for each name of a
string around which no other string stands; the keys stand in the order in which these names first
occur, and the value of a key is the text of the last such string of that name.
-/

namespace Walkthrough.Strings

open Markup (Element)

/-! ### Positions -/

/-- The element that is reached by taking one of the elements of a list, then one of its children,
and so on. -/
def reach? : List Element → List ℕ → Option Element
  | _, [] => none
  | es, [i] => es[i]?
  | es, i :: path => es[i]? >>= fun e => reach? e.children path

/-- Whether a string of a name, with a text, is reached at a position, and no other string on the
way there. -/
structure StandsIn (es : List Element) (path : List ℕ) (key text : String) : Prop where
  found : ∃ e, reach? es path = some e ∧ e.name = "string" ∧ e.attribute? "name" = some key ∧
    e.text = text
  outermost : ∀ above, above <+: path → above ≠ path → ∀ e, reach? es above = some e →
    e.name ≠ "string"

variable {es : List Element} {e : Element} {i : ℕ} {path : List ℕ} {key text : String}

lemma reach?_cons (es : List Element) (i : ℕ) (hpath : path ≠ []) :
    reach? es (i :: path) = es[i]? >>= fun e => reach? e.children path := by
  cases path with
  | nil => exact absurd rfl hpath
  | cons j path => rfl

lemma reach?_of_none (h : es[i]? = none) (path : List ℕ) : reach? es (i :: path) = none := by
  cases path with
  | nil => exact h
  | cons j path =>
    rw [reach?_cons es i (List.cons_ne_nil j path), h]
    rfl

lemma reach?_of_some (h : es[i]? = some e) (path : List ℕ) :
    reach? es (i :: path) = reach? [e] (0 :: path) := by
  cases path with
  | nil => exact h
  | cons j path =>
    rw [reach?_cons es i (List.cons_ne_nil j path), reach?_cons [e] 0 (List.cons_ne_nil j path), h]
    rfl

lemma not_standsIn_nil : ¬StandsIn es [] key text := by
  rintro ⟨⟨e, hreach, -⟩, -⟩
  cases hreach

/-- A position has a first step. -/
lemma exists_position :
    StandsIn es path key text ↔ ∃ j rest, path = j :: rest ∧ StandsIn es (j :: rest) key text := by
  cases path with
  | nil => exact iff_of_false not_standsIn_nil (by simp)
  | cons j rest => simp

lemma standsIn_iff : StandsIn es (i :: path) key text ↔
    (∃ e, reach? es (i :: path) = some e ∧ e.name = "string" ∧ e.attribute? "name" = some key ∧
      e.text = text) ∧
    ∀ above, above <+: path → above ≠ path → ∀ e, reach? es (i :: above) = some e →
      e.name ≠ "string" := by
  constructor
  · intro h
    refine ⟨h.found, fun above hprefix hne => h.outermost _ ?_ ?_⟩
    · exact List.prefix_cons_inj i |>.2 hprefix
    · exact fun he => hne (List.cons.inj he).2
  · rintro ⟨hfound, houtermost⟩
    refine ⟨hfound, fun above hprefix hne e he => ?_⟩
    rcases List.prefix_cons_iff.1 hprefix with rfl | ⟨rest, rfl, hrest⟩
    · cases he
    · exact houtermost rest hrest (fun hrest => hne (congrArg (i :: ·) hrest)) e he

lemma standsIn_cons : StandsIn es (i :: path) key text ↔
    ∃ e, es[i]? = some e ∧ StandsIn [e] (0 :: path) key text := by
  cases he : es[i]? with
  | none =>
    rw [standsIn_iff, reach?_of_none he]
    simp
  | some e =>
    simp only [standsIn_iff, reach?_of_some he, Option.some.injEq, exists_eq_left']

lemma standsIn_cons_zero :
    StandsIn (e :: es) (0 :: path) key text ↔ StandsIn [e] (0 :: path) key text := by
  rw [standsIn_cons, List.getElem?_cons_zero]
  simp only [Option.some.injEq, exists_eq_left']

lemma standsIn_cons_succ :
    StandsIn (e :: es) ((i + 1) :: path) key text ↔ StandsIn es (i :: path) key text := by
  rw [standsIn_cons, List.getElem?_cons_succ, ← standsIn_cons]

/-- A string is reached in an element if it is that element, or else if it is reached in its
children. -/
lemma standsIn_singleton {name : String} {attributes : Table String} {children : List Element}
    {content : String} :
    StandsIn [⟨name, attributes, children, content⟩] (0 :: path) key text ↔
      if name = "string" then path = [] ∧ attributes.get? "name" = some key ∧ content = text
      else StandsIn children path key text := by
  have hself : reach? [⟨name, attributes, children, content⟩] [0] =
      some ⟨name, attributes, children, content⟩ := rfl
  cases path with
  | nil =>
    rw [standsIn_iff, hself]
    split_ifs with hname
    · simp [hname, Element.attribute?]
    · simp [hname, not_standsIn_nil]
  | cons j path =>
    have hinside (rest : List ℕ) :
        reach? [⟨name, attributes, children, content⟩] (0 :: j :: rest) =
          reach? children (j :: rest) := rfl
    split_ifs with hname
    · -- the element itself is a string on the way
      refine iff_of_false (fun h => ?_) (by simp)
      exact (standsIn_iff.1 h).2 [] List.nil_prefix (List.cons_ne_nil j path).symm _ hself hname
    · constructor
      · intro h
        refine ⟨h.found, fun above hprefix hne e he => ?_⟩
        cases above with
        | nil => cases he
        | cons k above =>
          obtain ⟨rfl, -⟩ := List.cons_prefix_cons.1 hprefix
          exact (standsIn_iff.1 h).2 _ hprefix hne e he
      · intro h
        refine standsIn_iff.2 ⟨h.found, fun above hprefix hne e he => ?_⟩
        cases above with
        | nil =>
          rw [hself] at he
          exact Option.some.inj he ▸ hname
        | cons k above =>
          obtain ⟨rfl, -⟩ := List.cons_prefix_cons.1 hprefix
          exact h.outermost _ hprefix hne e he

/-! ### All strings -/

mutual

/-- The strings that an element stands for, each with its position in the element. -/
def occurrencesOf : Element → List (List ℕ × String × String)
  | ⟨name, attributes, children, text⟩ =>
    if name = "string" then
      match attributes.get? "name" with
      | some key => [([], key, text)]
      | none => []
    else occurrencesIn 0 children

/-- The strings that the elements of a list stand for, each with its position, counted from `i`. -/
def occurrencesIn (i : ℕ) : List Element → List (List ℕ × String × String)
  | [] => []
  | e :: rest => (occurrencesOf e).map (fun o => (i :: o.1, o.2)) ++ occurrencesIn (i + 1) rest

end

mutual

lemma writeElement_eq (t : Table String) : ∀ e : Element,
    writeElement t e = t.insertAll ((occurrencesOf e).map Prod.snd)
  | ⟨name, attributes, children, text⟩ => by
    rw [writeElement, occurrencesOf]
    split_ifs with hname
    · cases attributes.get? "name" <;> rfl
    · exact writeElements_eq t 0 children

lemma writeElements_eq (t : Table String) (i : ℕ) : ∀ es : List Element,
    writeElements t es = t.insertAll ((occurrencesIn i es).map Prod.snd)
  | [] => by
    rw [writeElements, occurrencesIn]
    rfl
  | e :: rest => by
    rw [writeElements, occurrencesIn, List.map_append, List.map_map, Table.insertAll_append,
      writeElements_eq (writeElement t e) (i + 1) rest, writeElement_eq t e]
    rfl

end

mutual

lemma mem_occurrencesOf : ∀ (e : Element) {path : List ℕ},
    (path, key, text) ∈ occurrencesOf e ↔ StandsIn [e] (0 :: path) key text
  | ⟨name, attributes, children, content⟩, path => by
    rw [occurrencesOf, standsIn_singleton]
    split_ifs with hname
    · cases attributes.get? "name" with
      | none => simp
      | some k => simp [eq_comm]
    · rw [mem_occurrencesIn 0 children]
      simp only [Nat.zero_add]
      exact exists_position.symm

lemma mem_occurrencesIn (i : ℕ) : ∀ (es : List Element) {path : List ℕ},
    (path, key, text) ∈ occurrencesIn i es ↔
      ∃ j rest, path = (i + j) :: rest ∧ StandsIn es (j :: rest) key text
  | [], path => by
    rw [occurrencesIn]
    refine iff_of_false List.not_mem_nil ?_
    rintro ⟨j, rest, rfl, h⟩
    obtain ⟨e, he, -⟩ := standsIn_cons.1 h
    cases he
  | e :: es, path => by
    have hfirst : (path, key, text) ∈ (occurrencesOf e).map (fun o => (i :: o.1, o.2)) ↔
        ∃ rest, path = i :: rest ∧ StandsIn [e] (0 :: rest) key text := by
      rw [List.mem_map]
      constructor
      · rintro ⟨⟨rest, _⟩, ho, hpath⟩
        obtain ⟨rfl, rfl⟩ := Prod.mk.inj hpath
        exact ⟨rest, rfl, (mem_occurrencesOf e).1 ho⟩
      · rintro ⟨rest, rfl, h⟩
        exact ⟨_, (mem_occurrencesOf e).2 h, rfl⟩
    rw [occurrencesIn, List.mem_append, hfirst, mem_occurrencesIn (i + 1) es]
    constructor
    · rintro (⟨rest, rfl, h⟩ | ⟨j, rest, rfl, h⟩)
      · exact ⟨0, rest, rfl, standsIn_cons_zero.2 h⟩
      · exact ⟨j + 1, rest, by rw [Nat.add_right_comm, Nat.add_assoc], standsIn_cons_succ.2 h⟩
    · rintro ⟨j, rest, rfl, h⟩
      cases j with
      | zero => exact Or.inl ⟨rest, rfl, standsIn_cons_zero.1 h⟩
      | succ j =>
        exact Or.inr ⟨j, rest, by rw [Nat.add_right_comm, Nat.add_assoc], standsIn_cons_succ.1 h⟩

end

mutual

lemma pairwise_occurrencesOf : ∀ e : Element,
    (occurrencesOf e).Pairwise fun o o' => o.1 < o'.1
  | ⟨name, attributes, children, text⟩ => by
    rw [occurrencesOf]
    split_ifs with hname
    · cases attributes.get? "name" with
      | none => exact List.Pairwise.nil
      | some key => exact List.pairwise_singleton _ _
    · exact pairwise_occurrencesIn 0 children

lemma pairwise_occurrencesIn (i : ℕ) : ∀ es : List Element,
    (occurrencesIn i es).Pairwise fun o o' => o.1 < o'.1
  | [] => by
    rw [occurrencesIn]
    exact List.Pairwise.nil
  | e :: es => by
    rw [occurrencesIn, List.pairwise_append, List.pairwise_map]
    refine ⟨(pairwise_occurrencesOf e).imp fun h => List.cons_lt_cons_iff.2 (Or.inr ⟨rfl, h⟩),
      pairwise_occurrencesIn (i + 1) es, ?_⟩
    -- what an element stands for comes before what the elements behind it stand for
    rintro _ ho ⟨path, key, text⟩ ho'
    obtain ⟨o, -, rfl⟩ := List.mem_map.1 ho
    obtain ⟨j, rest, rfl, -⟩ := (mem_occurrencesIn (i + 1) es).1 ho'
    exact List.cons_lt_cons_iff.2 (Or.inl (by omega))

end

/-! ### The table -/

lemma tableOf_eq (root : Element) :
    tableOf root = Table.ofList ((occurrencesIn 0 root.children).map Prod.snd) :=
  writeElements_eq Table.empty 0 root.children

lemma mem_occurrencesIn_zero :
    (path, key, text) ∈ occurrencesIn 0 es ↔ StandsIn es path key text := by
  rw [mem_occurrencesIn]
  simp only [Nat.zero_add]
  exact exists_position.symm

/-- A document is read as the table of the strings inside its root, whatever the root is called: its
keys are the names of the outermost strings in the order in which these names first occur, and the
value of a key is the text of the last outermost string of that name. -/
theorem tableOf_document_order (root : Element) :
    (∀ text, Markup.read text = .ok root → read text = .ok (tableOf root)) ∧
      (∀ key, key ∈ (tableOf root).keys ↔ ∃ path text, StandsIn root.children path key text) ∧
      ((tableOf root).keys.Pairwise fun key key' =>
        ∃ path text, StandsIn root.children path key text ∧
          ∀ path' text', StandsIn root.children path' key' text' → path < path') ∧
      ∀ key text, (tableOf root).get? key = some text ↔
        ∃ path, StandsIn root.children path key text ∧
          ∀ path' text', StandsIn root.children path' key text' → path' ≤ path := by
  have hread (text : String) (h : Markup.read text = .ok root) :
      read text = .ok (tableOf root) := by
    rw [read, h]
    rfl
  have hascending := pairwise_occurrencesIn 0 root.children
  refine ⟨hread, ?_⟩
  simp only [tableOf_eq, ← mem_occurrencesIn_zero]
  exact ⟨fun key => Table.mem_keys_ofList_places,
    Table.pairwise_keys_ofList_places hascending,
    fun key text => Table.get?_ofList_places hascending⟩

/-- A root may itself be called `string`; what stands inside a string that counts does not. -/
example :
    (tableOf ⟨"string", Table.ofList [("name", "root")],
      [⟨"string", Table.ofList [("name", "a")],
          [⟨"string", Table.ofList [("name", "inner")], [], "0"⟩], "1"⟩,
        ⟨"group", Table.empty, [⟨"string", Table.ofList [("name", "b")], [], "2"⟩], ""⟩,
        ⟨"string", Table.empty, [], "nameless"⟩,
        ⟨"string", Table.ofList [("name", "a")], [], "3"⟩], ""⟩).entries =
      [("a", "3"), ("b", "2")] := by
  decide

end Walkthrough.Strings
