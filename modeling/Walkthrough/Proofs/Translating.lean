import Mathlib.Data.List.Sort
import Walkthrough.Phrasebook
import Walkthrough.Proofs.Ascending
import Walkthrough.Proofs.ByteOrder
import Walkthrough.Proofs.Tables

/-!
# What a phrasebook says

Tables are put into a phrasebook one after the other, some of them in place of earlier ones.
Languages are announced as often as need be, but each is offered once, in the order of bytes.  Main
statement: after any tables were put in, what is said in a language is what the last table for it
says, and nothing of the tables that it replaced; nothing is ever said in another way in the base
language.
-/

namespace Walkthrough.Phrasebook

variable {b b' : Phrasebook} {language other : String}

/-! ### Languages -/

lemma mem_languages : language ∈ b.languages ↔ language = b.base ∨ language ∈ b.announced := by
  rw [languages, Ascending.mem_ofList, List.mem_cons]

/-- The base language is always offered, whatever else is. -/
lemma base_mem_languages (b : Phrasebook) : b.base ∈ b.languages := mem_languages.2 (Or.inl rfl)

lemma pairwise_languages (b : Phrasebook) : b.languages.Pairwise (· < ·) :=
  Ascending.pairwise_ofList _

/-- Languages are offered in the order of bytes, and none of them twice. -/
lemma pairwise_bytes_languages (b : Phrasebook) :
    b.languages.Pairwise fun language other => Text.bytes language < Text.bytes other :=
  (pairwise_languages b).imp Text.bytes_lt_bytes.2

/-- The order in which languages are announced is not seen. -/
lemma languages_congr (h : ∀ language, language ∈ b.languages ↔ language ∈ b'.languages) :
    b.languages = b'.languages :=
  (pairwise_languages b).eq_of_mem_iff (pairwise_languages b') h

/-! ### Wording -/

lemma wording_base (b : Phrasebook) (text : String) : b.wording b.base text = text :=
  if_pos rfl

lemma wording_of_get? {table : Table String} (hbase : language ≠ b.base)
    (h : b.tables.get? language = some table) (text : String) :
    b.wording language text = (table.get? text).getD text := by
  rw [wording, if_neg hbase, h, Option.bind_some]

lemma wording_of_get?_eq_none (h : b.tables.get? language = Option.none) (text : String) :
    b.wording language text = text := by
  rw [wording, h]
  exact ite_self text

/-! ### One table -/

lemma base_insert (b : Phrasebook) (language : String) (table : Table String) :
    (b.insert language table).base = b.base := by
  rw [insert, setTable]
  split_ifs <;> rfl

lemma tables_insert (b : Phrasebook) (language : String) (table : Table String) :
    (b.insert language table).tables = b.tables.insert language table := by
  rw [insert, setTable]
  split_ifs <;> rfl

lemma mem_announced_insert {table : Table String} :
    other ∈ (b.insert language table).announced ↔ other ∈ b.announced ∨ other = language := by
  rw [insert, setTable]
  split_ifs with h
  · exact ⟨Or.inl, fun hother => hother.elim id fun he => he ▸ h⟩
  · exact List.mem_append.trans (or_congr Iff.rfl List.mem_singleton)

/-! ### All tables -/

/-- The phrasebook after tables are put in for languages in turn, each written pair by pair. -/
def insertAll (base : String) (steps : List (String × List (String × String))) : Phrasebook :=
  steps.foldl (fun b step => b.insert step.1 (Table.ofList step.2)) (none base)

variable {base : String} {steps : List (String × List (String × String))}

lemma insertAll_concat (base : String) (steps : List (String × List (String × String)))
    (step : String × List (String × String)) :
    insertAll base (steps ++ [step]) =
      (insertAll base steps).insert step.1 (Table.ofList step.2) :=
  List.foldl_concat _ _ _ _

lemma base_insertAll (base : String) (steps : List (String × List (String × String))) :
    (insertAll base steps).base = base := by
  induction steps using List.reverseRecOn with
  | nil => rfl
  | append_singleton steps step ih => rw [insertAll_concat, base_insert, ih]

lemma mem_announced_insertAll :
    language ∈ (insertAll base steps).announced ↔ language ∈ steps.map Prod.fst := by
  induction steps using List.reverseRecOn with
  | nil => rfl
  | append_singleton steps step ih =>
    rw [insertAll_concat, mem_announced_insert, ih, List.map_append, List.mem_append]
    exact or_congr Iff.rfl List.mem_singleton.symm

/-- The table of a language is the one that was put in last. -/
lemma get?_tables_insertAll (base : String) (steps : List (String × List (String × String)))
    (language : String) :
    (insertAll base steps).tables.get? language =
      (Table.lastPair? steps language).map fun step => Table.ofList step.2 := by
  induction steps using List.reverseRecOn with
  | nil => rfl
  | append_singleton steps step ih =>
    rw [insertAll_concat, tables_insert, Table.get?_insert, ih, Table.lastPair?_concat]
    split_ifs <;> rfl

/-- Languages are offered once each, in the order of bytes.  In the base language a text stands for
itself; in another language it has the wording that it was given last by the table that was put in
last, if there is one that has it. -/
theorem wording_insertAll (base : String) (steps : List (String × List (String × String))) :
    ((insertAll base steps).languages.Pairwise fun language other =>
        Text.bytes language < Text.bytes other) ∧
      (∀ language, language ∈ (insertAll base steps).languages ↔
        language = base ∨ ∃ pairs, (language, pairs) ∈ steps) ∧
      (∀ text, (insertAll base steps).wording base text = text) ∧
      ∀ language text, language ≠ base →
        (insertAll base steps).wording language text =
          (((Table.lastPair? steps language).bind fun step => Table.lastPair? step.2 text).map
            Prod.snd).getD text := by
  have hbase := base_insertAll base steps
  refine ⟨pairwise_bytes_languages _, fun language => ?_, fun text => ?_,
    fun language text hne => ?_⟩
  · rw [mem_languages, hbase, mem_announced_insertAll, List.mem_map]
    refine or_congr Iff.rfl ⟨?_, ?_⟩
    · rintro ⟨⟨_, pairs⟩, hstep, rfl⟩
      exact ⟨pairs, hstep⟩
    · rintro ⟨pairs, hstep⟩
      exact ⟨_, hstep, rfl⟩
  · have hwording := wording_base (insertAll base steps) text
    rwa [hbase] at hwording
  · have htable := get?_tables_insertAll base steps language
    rw [← hbase] at hne
    cases hlast : Table.lastPair? steps language with
    | none =>
      rw [hlast] at htable
      exact wording_of_get?_eq_none htable text
    | some step =>
      rw [hlast, Option.map_some] at htable
      rw [wording_of_get? hne htable, Table.get?_ofList, Option.bind_some]

/-- A later table replaces the earlier one as a whole. -/
example :
    let b := insertAll "English" [("Tagalog", [("yes", "oo"), ("no", "hindi")]),
      ("Tagalog", [("yes", "opo"), ("yes", "oho")]), ("English", [("yes", "yeah")])]
    b.languages = ["English", "Tagalog"] ∧ b.wording "Tagalog" "yes" = "oho" ∧
      b.wording "Tagalog" "no" = "no" ∧ b.wording "English" "yes" = "yes" := by
  decide

end Walkthrough.Phrasebook
