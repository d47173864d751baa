import Mathlib.Data.List.Basic
import Mathlib.Data.List.Induction
import Mathlib.Order.Lattice
import Walkthrough.Table

/-!
# What a table holds

A table is written entry by entry.  Its keys are then those of the entries in the order in which
each came first, and the value of a key is the one that was written for it last; a key that was not
written keeps the value that it had.
-/

namespace Walkthrough

namespace Table

variable {α : Type}

/-! ### One entry -/

lemma written_of_not_mem {key : String} {value : α} {entries : List (String × α)}
    (h : key ∉ entries.map Prod.fst) : written key value entries = entries ++ [(key, value)] := by
  induction entries with
  | nil => rfl
  | cons entry rest ih =>
    rw [List.map_cons, List.mem_cons, not_or] at h
    rw [written, if_neg (Ne.symm h.1), ih h.2, List.cons_append]

lemma entries_insert {t : Table α} {key : String} (h : key ∉ t.keys) (value : α) :
    (t.insert key value).entries = t.entries ++ [(key, value)] :=
  written_of_not_mem h

lemma keys_insert {t : Table α} {key : String} (h : key ∉ t.keys) (value : α) :
    (t.insert key value).keys = t.keys ++ [key] := by
  rw [keys, entries_insert h, List.map_append]
  rfl

lemma eq_of_entries {t t' : Table α} (h : t.entries = t'.entries) : t = t' := by
  cases t
  cases t'
  simpa using h

lemma find?_written (key : String) (value : α) (entries : List (String × α)) (k : String) :
    (written key value entries).find? (fun entry => entry.1 == k) =
      if key = k then some (key, value) else entries.find? fun entry => entry.1 == k := by
  induction entries with
  | nil => by_cases h : key = k <;> simp [written, h]
  | cons entry rest ih =>
    rw [written]
    by_cases hkey : entry.1 = key
    · by_cases h : key = k <;> simp [hkey, h]
    · rw [if_neg hkey, List.find?_cons, List.find?_cons, ih]
      by_cases h : key = k
      · have hne : (entry.1 == k) = false := by simpa using h ▸ hkey
        rw [hne, if_pos h]
      · simp only [if_neg h]

lemma get?_insert (t : Table α) (key : String) (value : α) (k : String) :
    (t.insert key value).get? k = if key = k then some value else t.get? k := by
  rw [get?, insert, find?_written]
  split_ifs <;> rfl

lemma keys_insert_of_mem {t : Table α} {key : String} (h : key ∈ t.keys) (value : α) :
    (t.insert key value).keys = t.keys := by
  obtain ⟨entries, hnodup⟩ := t
  have hkeys : ∀ entries : List (String × α), key ∈ entries.map Prod.fst →
      (written key value entries).map Prod.fst = entries.map Prod.fst := by
    intro entries hmem
    induction entries with
    | nil => cases hmem
    | cons entry rest ih =>
      rw [written]
      split_ifs with he
      · rw [List.map_cons, List.map_cons, he]
      · rw [List.map_cons, List.mem_cons] at hmem
        rw [List.map_cons, List.map_cons, ih (hmem.resolve_left (Ne.symm he))]
  exact hkeys entries h

lemma get?_insertNew (t : Table α) (key : String) (value : α) (k : String) :
    (t.insertNew key value).get? k = (t.get? k).or (if key = k then some value else none) := by
  rw [insertNew]
  by_cases h : key = k
  · subst h
    cases hkey : t.get? key with
    | some old => rw [Option.isSome_some, if_pos rfl, hkey, Option.some_or]
    | none =>
      rw [Option.isSome_none, if_neg Bool.false_ne_true, get?_insert, if_pos rfl, if_pos rfl,
        Option.none_or]
  · rw [if_neg h, Option.or_none]
    split_ifs
    · rfl
    · rw [get?_insert, if_neg h]

/-! ### All entries -/

/-- The table after the entries of a list are written in turn. -/
def insertAll (t : Table α) (entries : List (String × α)) : Table α :=
  entries.foldl (fun t entry => t.insert entry.1 entry.2) t

/-- The last of the entries with a key. -/
def lastPair? (entries : List (String × α)) (key : String) : Option (String × α) :=
  (entries.filter fun entry => entry.1 == key).getLast?

lemma insertAll_concat (t : Table α) (entries : List (String × α)) (entry : String × α) :
    t.insertAll (entries ++ [entry]) = (t.insertAll entries).insert entry.1 entry.2 := by
  rw [insertAll, List.foldl_append]
  rfl

lemma insertAll_append (t : Table α) (entries more : List (String × α)) :
    t.insertAll (entries ++ more) = (t.insertAll entries).insertAll more :=
  List.foldl_append

lemma lastPair?_concat (entries : List (String × α)) (entry : String × α) (key : String) :
    lastPair? (entries ++ [entry]) key =
      if entry.1 = key then some entry else lastPair? entries key := by
  rw [lastPair?, lastPair?, List.filter_append]
  split_ifs with h
  · rw [List.filter_cons_of_pos (by simpa using h)]
    exact List.getLast?_concat
  · rw [List.filter_cons_of_neg (by simpa using h), List.filter_nil, List.append_nil]

/-- A key has the value that was written for it last, or else the value that it had. -/
lemma get?_insertAll (t : Table α) (entries : List (String × α)) (key : String) :
    (t.insertAll entries).get? key = ((lastPair? entries key).map Prod.snd).or (t.get? key) := by
  induction entries using List.reverseRecOn with
  | nil => rfl
  | append_singleton entries entry ih =>
    rw [insertAll_concat, get?_insert, ih, lastPair?_concat]
    split_ifs <;> rfl

lemma get?_ofList (entries : List (String × α)) (key : String) :
    (ofList entries).get? key = (lastPair? entries key).map Prod.snd := by
  have h := get?_insertAll empty entries key
  rwa [show (empty : Table α).get? key = none from rfl, Option.or_none] at h

/-- The keys stand in the order in which each was first written. -/
lemma keys_ofList (entries : List (String × α)) :
    (ofList entries).keys = (entries.map Prod.fst).eraseDups := by
  induction entries using List.reverseRecOn with
  | nil => rfl
  | append_singleton entries entry ih =>
    have hlast : ofList (entries ++ [entry]) = (ofList entries).insert entry.1 entry.2 :=
      insertAll_concat empty entries entry
    have hmem : entry.1 ∈ (ofList entries).keys ↔ entry.1 ∈ entries.map Prod.fst := by
      rw [ih, List.mem_eraseDups]
    rw [hlast, List.map_append, List.eraseDups_append, ← ih, List.map_singleton, List.removeAll]
    by_cases h : entry.1 ∈ entries.map Prod.fst
    · rw [keys_insert_of_mem (hmem.2 h), List.filter_cons_of_neg (by simpa using h)]
      exact (List.append_nil _).symm
    · rw [keys_insert (mt hmem.1 h), List.filter_cons_of_pos (by simpa using h)]
      rfl

/-! ### Entries at ascending places

Where the entries of a list stand in a document, or when they were written, is given by places that
ascend. -/

section Places

variable {ι : Type} [LinearOrder ι] {places : List (ι × String × α)} {key : String} {value : α}

omit [LinearOrder ι] in
lemma mem_keys_ofList_places :
    key ∈ (ofList (places.map Prod.snd)).keys ↔ ∃ i value, (i, key, value) ∈ places := by
  rw [keys_ofList, List.mem_eraseDups, List.map_map, List.mem_map]
  constructor
  · rintro ⟨⟨i, _, value⟩, ho, rfl⟩
    exact ⟨i, value, ho⟩
  · rintro ⟨i, value, ho⟩
    exact ⟨_, ho, rfl⟩

/-- The value of a key is the one at the last place that has the key. -/
lemma get?_ofList_places (h : places.Pairwise fun o o' => o.1 < o'.1) :
    (ofList (places.map Prod.snd)).get? key = some value ↔
      ∃ i, (i, key, value) ∈ places ∧ ∀ j other, (j, key, other) ∈ places → j ≤ i := by
  rw [get?_ofList]
  induction places using List.reverseRecOn with
  | nil => simp [lastPair?]
  | append_singleton places o ih =>
    obtain ⟨k, key', value'⟩ := o
    obtain ⟨hplaces, -, hlt⟩ := List.pairwise_append.1 h
    rw [List.map_append, List.map_singleton, lastPair?_concat]
    by_cases hkey : key' = key
    · subst hkey
      rw [if_pos rfl, Option.map_some, Option.some.injEq]
      constructor
      · rintro rfl
        refine ⟨k, List.mem_append_right _ List.mem_cons_self, fun j other hj => ?_⟩
        rcases List.mem_append.1 hj with hj | hj
        · exact (hlt _ hj _ List.mem_cons_self).le
        · exact (congrArg Prod.fst (List.mem_singleton.1 hj)).le
      · rintro ⟨i, hi, hlast⟩
        have hle := hlast k value' (List.mem_append_right _ List.mem_cons_self)
        rcases List.mem_append.1 hi with hi | hi
        · exact absurd (hlt _ hi _ List.mem_cons_self) (not_lt.2 hle)
        · exact (congrArg (fun o => o.2.2) (List.mem_singleton.1 hi)).symm
    · have hmem (i : ι) (other : α) :
          (i, key, other) ∈ places ++ [(k, key', value')] ↔ (i, key, other) ∈ places := by
        simp [Ne.symm hkey]
      simp only [if_neg hkey, hmem]
      exact ih hplaces

/-- Keys stand in the order of the first places that have them. -/
lemma pairwise_keys_ofList_places (h : places.Pairwise fun o o' => o.1 < o'.1) :
    (ofList (places.map Prod.snd)).keys.Pairwise fun key key' =>
      ∃ i value, (i, key, value) ∈ places ∧ ∀ j value', (j, key', value') ∈ places → i < j := by
  induction places using List.reverseRecOn with
  | nil => exact List.Pairwise.nil
  | append_singleton places o ih =>
    obtain ⟨k, key', value'⟩ := o
    obtain ⟨hplaces, -, hlt⟩ := List.pairwise_append.1 h
    -- an entry at the last place changes nothing about the keys before it
    have hkeys : (ofList (places.map Prod.snd)).keys.Pairwise fun key key'' =>
        ∃ i value, (i, key, value) ∈ places ++ [(k, key', value')] ∧
          ∀ j other, (j, key'', other) ∈ places ++ [(k, key', value')] → i < j := by
      refine (ih hplaces).imp ?_
      rintro key key'' ⟨i, value, hi, hfirst⟩
      refine ⟨i, value, List.mem_append_left _ hi, fun j other hj => ?_⟩
      rcases List.mem_append.1 hj with hj | hj
      · exact hfirst j other hj
      · obtain rfl : j = k := congrArg Prod.fst (List.mem_singleton.1 hj)
        exact hlt _ hi _ List.mem_cons_self
    have hlast : ofList ((places ++ [(k, key', value')]).map Prod.snd) =
        (ofList (places.map Prod.snd)).insert key' value' := by
      rw [List.map_append]
      exact insertAll_concat empty _ _
    rw [hlast]
    by_cases hmem : key' ∈ (ofList (places.map Prod.snd)).keys
    · rwa [keys_insert_of_mem hmem]
    · rw [keys_insert hmem, List.pairwise_append]
      refine ⟨hkeys, List.pairwise_singleton _ _, fun key hkey key'' hkey'' => ?_⟩
      obtain rfl := List.mem_singleton.1 hkey''
      obtain ⟨i, value, hi⟩ := mem_keys_ofList_places.1 hkey
      refine ⟨i, value, List.mem_append_left _ hi, fun j other hj => ?_⟩
      rcases List.mem_append.1 hj with hj | hj
      · exact absurd (mem_keys_ofList_places.2 ⟨j, other, hj⟩) hmem
      · obtain rfl : j = k := congrArg Prod.fst (List.mem_singleton.1 hj)
        exact hlt _ hi _ List.mem_cons_self

end Places

end Table

end Walkthrough
