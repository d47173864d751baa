import Mathlib.Data.List.Basic
import Mathlib.Data.Option.Basic
import Walkthrough.Proofs.Moments
import Walkthrough.Proofs.Printing
import Walkthrough.Record.Json

/-!
# Exported records are read back

Main statement: the JSON export of records is read back as the same records.  A part of an answer
that is missing is left out and found missing again, so it is told from one that is there and empty.
Two things can stand in the way: an index that is too big for a count, which no walk selects, and a
distance from universal time that is not one of whole minutes, which no text can give.
-/

namespace Walkthrough

/-! ### Fields -/

namespace Json

variable {α : Type} {name other : String} {write : α → Json} {value : Option α}

lemma valuesOf_append (name : String) (members members' : List (String × Json)) :
    valuesOf name (members ++ members') = valuesOf name members ++ valuesOf name members' := by
  rw [valuesOf, List.filter_append, List.map_append]
  rfl

lemma valuesOf_optionalMember (name : String) (write : α → Json) (value : Option α) :
    valuesOf name (optionalMember name write value) = (value.map write).toList := by
  cases value <;> simp [optionalMember, valuesOf]

lemma valuesOf_optionalMember_of_ne (h : other ≠ name) (write : α → Json) (value : Option α) :
    valuesOf name (optionalMember other write value) = [] := by
  cases value <;> simp [optionalMember, valuesOf, h]

lemma field?_of_valuesOf {members : List (String × Json)} {value : Option Json}
    (h : valuesOf name members = value.toList) : field? members name = some value := by
  rw [field?, h]
  cases value <;> rfl

/-- What is written is read back, and what is left out is found missing. -/
lemma optional?_map {read : Json → Option α} (hread : ∀ a ∈ value, read (write a) = some a)
    (hnull : ∀ a ∈ value, write a ≠ .null) :
    optional? read (value.map write) = some value := by
  cases value with
  | none => rfl
  | some a =>
    rw [Option.map_some]
    unfold optional?
    split
    · next heq => cases heq
    · next heq => exact absurd (Option.some.inj heq) (hnull a rfl)
    · next heq =>
      obtain rfl := Option.some.inj heq
      rw [hread a rfl, Option.map_some]

lemma mapM_map {read : Json → Option α} {values : List α}
    (h : ∀ a ∈ values, read (write a) = some a) : (values.map write).mapM read = some values := by
  induction values with
  | nil => rfl
  | cons a values ih =>
    obtain ⟨ha, hvalues⟩ := List.forall_mem_cons.1 h
    rw [List.map_cons, List.mapM_cons, ha, ih hvalues]
    rfl

lemma index?_indexJson {n : Nat} (h : n < Text.countBound) : (indexJson n).index? = some n := by
  rw [indexJson, index?, Nat.toString_eq_repr, Nat.toList_repr, Text.boundedCount?_toDigits h]

end Json

/-! ### Answers and records -/

namespace Answer

variable {a : Answer}

/-- Whether the indices in the answer are small enough for a count. -/
def Countable (a : Answer) : Prop :=
  ∀ indices ∈ a.selected, ∀ i ∈ indices, i < Text.countBound

lemma counted_toJson (a : Answer) : a.toJson.Counted := by
  refine .object ?_
  simp only [List.forall_mem_append]
  refine ⟨⟨?_, ?_⟩, ?_⟩
  · cases a.selected with
    | none => simp [optionalMember]
    | some indices =>
      simp only [optionalMember, List.forall_mem_singleton]
      refine .array fun e he => ?_
      obtain ⟨n, -, rfl⟩ := List.mem_map.1 he
      exact .number n
  · cases a.text with
    | none => simp [optionalMember]
    | some text => simpa [optionalMember] using Json.Counted.string text
  · cases a.date with
    | none => simp [optionalMember]
    | some date => simpa [optionalMember] using Json.Counted.string date.recordText

/-- Each field of an answer is found under its name, and missing if the answer has no such part. -/
lemma fields?_toJson (a : Answer) :
    a.toJson.fields? ["selected_indices", "text_input", "date"] =
      some [a.selected.map fun indices => .array (indices.map indexJson), a.text.map .string,
        a.date.map fun date => .string date.recordText] := by
  have hvalues : ∀ name value, Json.valuesOf name
      (optionalMember "selected_indices" (fun indices => .array (indices.map indexJson))
          a.selected ++
        optionalMember "text_input" .string a.text ++
        optionalMember "date" (fun date => .string date.recordText) a.date) = Option.toList value →
      Json.field? _ name = some value := fun _ _ => Json.field?_of_valuesOf
  simp only [Json.valuesOf_append] at hvalues
  have hselected := hvalues "selected_indices"
    (a.selected.map fun indices => .array (indices.map indexJson))
    (by simp [Json.valuesOf_optionalMember, Json.valuesOf_optionalMember_of_ne])
  have htext := hvalues "text_input" (a.text.map .string)
    (by simp [Json.valuesOf_optionalMember, Json.valuesOf_optionalMember_of_ne])
  have hdate := hvalues "date" (a.date.map fun date => .string date.recordText)
    (by simp [Json.valuesOf_optionalMember, Json.valuesOf_optionalMember_of_ne])
  rw [toJson, Json.fields?]
  simp only [List.mapM_cons, List.mapM_nil, hselected, htext, hdate]
  rfl

lemma ofJson?_toJson (h : a.Countable) (hwhole : ∀ date ∈ a.date, 60 ∣ date.offset) :
    ofJson? a.toJson = some a := by
  have hselected : Json.optional? (Json.list? Json.index?)
      (a.selected.map fun indices => .array (indices.map indexJson)) = some a.selected := by
    refine Json.optional?_map (fun indices hindices => ?_) (by simp)
    exact Json.mapM_map fun i hi => Json.index?_indexJson (h indices hindices i hi)
  have htext : Json.optional? Json.string? (a.text.map .string) = some a.text :=
    Json.optional?_map (fun _ _ => rfl) (by simp)
  have hdate : Json.optional? (fun d => d.string?.bind Moment.ofRelaxed?)
      (a.date.map fun date => .string date.recordText) = some a.date := by
    refine Json.optional?_map (fun date hdate => ?_) (by simp)
    rw [Json.string?, Option.bind_some, Moment.ofRelaxed?_recordText (hwhole date hdate)]
  rw [ofJson?, fields?_toJson]
  simp only [Option.bind_eq_bind, Option.bind_some]
  rw [hselected, htext, hdate]
  rfl

end Answer

lemma TaskType.ofRecordName?_recordName (t : TaskType) : ofRecordName? t.recordName = some t := by
  cases t <;> rfl

namespace Record

variable {r : Record}

lemma counted_toJson (r : Record) : r.toJson.Counted := by
  refine .object ?_
  simp only [List.forall_mem_cons]
  refine ⟨.string r.key, ?_, r.answer.counted_toJson, by simp⟩
  cases r.task with
  | none => exact .null
  | some task => exact .string task.recordName

lemma ofJson?_toJson (h : r.answer.Countable) (hwhole : ∀ date ∈ r.answer.date, 60 ∣ date.offset) :
    ofJson? r.toJson = some r := by
  have hfields : r.toJson.fields? ["transition_key", "node_type", "fields"] =
      some [some (.string r.key), some ((r.task.map fun t => Json.string t.recordName).getD .null),
        some r.answer.toJson] := rfl
  have htask : Json.optional? (fun t => t.word?.bind TaskType.ofRecordName?)
      (some ((r.task.map fun t => Json.string t.recordName).getD .null)) = some r.task := by
    cases r.task with
    | none => rfl
    | some task =>
      change Option.map some (TaskType.ofRecordName? task.recordName) = _
      rw [task.ofRecordName?_recordName, Option.map_some]
  have hcomplete : isComplete r.toJson = true := rfl
  rw [ofJson?, hcomplete, hfields]
  simp only [guard_true, Option.pure_def, Option.bind_eq_bind, Option.bind_some, htask,
    Json.string?, Answer.ofJson?_toJson h hwhole]

/-- Records are read back from their export, provided that no index in them is too big for a count:
every key, every text, every date of every year with its fraction of a second and its distance from
universal time, in whole minutes, every task type and none, and in each answer the parts that are
there. -/
theorem ofListText?_listText (records : List Record) (h : ∀ r ∈ records, r.answer.Countable)
    (hwhole : ∀ r ∈ records, ∀ date ∈ r.answer.date, 60 ∣ date.offset) :
    ofListText? (listText records) = some records := by
  have hcounted : (Json.array (records.map toJson)).Counted := by
    refine .array fun j hj => ?_
    obtain ⟨r, -, rfl⟩ := List.mem_map.1 hj
    exact r.counted_toJson
  rw [ofListText?, listText, Json.ofText?_text hcounted, Option.bind_some, Json.list?]
  exact Json.mapM_map fun r hr => ofJson?_toJson (h r hr) (hwhole r hr)

/-- Records with something of everything: a quote, a control character and a character beyond the
sixteen-bit range, the greatest index, a selection that is missing and one that is empty, a text
that is missing and one that is empty, and the end of a leap second in a year without a fourth
digit. -/
def motley : List Record :=
  [⟨"\"\x01\\😀", some .checklist, ⟨some [0, 18446744073709551615], none, none⟩⟩,
    ⟨"", none, ⟨none, some "", none⟩⟩,
    ⟨"Any", some .date, ⟨some [], none, some
      { Date.midnight ⟨999, 12, 31, by decide, by decide, by decide⟩ with
        second := 60, nano := 999000000, offset := -41400, second_le := by decide,
        nano_lt := by decide, offset_mem := by decide, universal_mem := by decide }⟩⟩]

theorem ofListText?_listText_motley :
    (∀ r ∈ motley, r.answer.Countable) ∧
      (∀ r ∈ motley, ∀ date ∈ r.answer.date, 60 ∣ date.offset) ∧
      ofListText? (listText motley) = some motley := by
  have h : ∀ r ∈ motley, r.answer.Countable := by
    simp [motley, Answer.Countable, Text.countBound]
  have hwhole : ∀ r ∈ motley, ∀ date ∈ r.answer.date, 60 ∣ date.offset := by
    simp [motley]
  exact ⟨h, hwhole, ofListText?_listText motley h hwhole⟩

end Record

end Walkthrough
