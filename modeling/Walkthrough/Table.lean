/-!
# Tables in the order of writing

Attributes, transitions and phrases are tables from texts to values that remember the order
in which their keys were first written.  Writing a key again replaces its value and leaves it in
its place.  A table never holds a key twice; the structure carries the proof, so that a look-up
has at most one answer.
-/

namespace Walkthrough

/-- A finite map from texts, in the order in which the keys were first written. -/
structure Table (α : Type) where
  entries : List (String × α)
  nodup_keys : (entries.map Prod.fst).Nodup

namespace Table

variable {α : Type}

/-- The entries after `key` is written: its value is replaced where it stands, and a new key goes
to the end. -/
def written (key : String) (value : α) : List (String × α) → List (String × α)
  | [] => [(key, value)]
  | entry :: rest =>
    if entry.1 = key then (key, value) :: rest else entry :: written key value rest

theorem mem_keys_written {key : String} {value : α} {entries : List (String × α)} {k : String} :
    k ∈ (written key value entries).map Prod.fst ↔ k = key ∨ k ∈ entries.map Prod.fst := by
  induction entries with
  | nil => simp [written]
  | cons entry rest ih =>
    by_cases h : entry.1 = key
    · simp [written, h]
    · simp only [written, h, if_false, List.map_cons, List.mem_cons, ih]
      exact ⟨fun hk => by rcases hk with hk | hk | hk <;> simp [hk],
        fun hk => by rcases hk with hk | hk | hk <;> simp [hk]⟩

theorem nodup_keys_written {key : String} {value : α} {entries : List (String × α)}
    (h : (entries.map Prod.fst).Nodup) : ((written key value entries).map Prod.fst).Nodup := by
  induction entries with
  | nil => simp [written]
  | cons entry rest ih =>
    rw [List.map_cons, List.nodup_cons] at h
    by_cases hk : entry.1 = key
    · rw [written, if_pos hk, List.map_cons, List.nodup_cons]
      exact hk ▸ h
    · simp only [written, hk, if_false, List.map_cons, List.nodup_cons]
      refine ⟨fun hmem => ?_, ih h.2⟩
      rcases mem_keys_written.1 hmem with he | hr
      · exact hk he
      · exact h.1 hr

/-- The table without entries. -/
def empty : Table α := ⟨[], by simp⟩

instance : Inhabited (Table α) := ⟨empty⟩

/-- The table after `key` is written. -/
def insert (t : Table α) (key : String) (value : α) : Table α :=
  ⟨written key value t.entries, nodup_keys_written t.nodup_keys⟩

/-- The table that results from writing the entries of a list in turn. -/
def ofList (entries : List (String × α)) : Table α :=
  entries.foldl (fun t entry => t.insert entry.1 entry.2) empty

/-- The value of a key. -/
def get? (t : Table α) (key : String) : Option α :=
  (t.entries.find? fun entry => entry.1 == key).map Prod.snd

/-- The table after `key` is written, unless it was written before. -/
def insertNew (t : Table α) (key : String) (value : α) : Table α :=
  if (t.get? key).isSome then t else t.insert key value

/-- The keys, in the order of first writing. -/
def keys (t : Table α) : List String := t.entries.map Prod.fst

/-- The number of keys. -/
def size (t : Table α) : Nat := t.entries.length

/-- Whether nothing was written. -/
def isEmpty (t : Table α) : Bool := t.entries.isEmpty

end Table

end Walkthrough
