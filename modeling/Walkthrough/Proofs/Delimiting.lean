import Walkthrough.Proofs.FullAnswers
import Walkthrough.Proofs.Moments
import Walkthrough.Record.Export

/-!
# Delimited exports can be taken apart

The delimited export escapes nothing, so it can only be taken apart because of what walks put on
record.  A record starts with the index of an option or with a letter of one of three keys, and
never with a comma; the part behind the comma is a date or a text that was typed.  Main statement:
as long as no semicolon is typed, the pieces between the semicolons are the records of a walk one by
one, and walks of the same task types with the same export chose the same options, left by the same
keys and gave the same texts and dates, to the second.
-/

namespace Walkthrough

/-! ### What walks put on record -/

/-- Whether the chosen option of a node of the type is written instead of the key. -/
def TaskType.leads : TaskType → Bool
  | link | radioButtons => true
  | _ => false

/-- The keys under which nodes are left whose options have no keys of their own. -/
def plainKeys : List String := ["Any", "Yes", "No"]

/-- What the delimited export relies on.  Where options lead on by themselves, at most one of them
was chosen; every other key is one of three; and a node that asks for a text has one. -/
structure Record.Regular (r : Record) : Prop where
  choice : ∀ task, r.task = some task → task.leads = true →
    ∃ chosen : Option Nat, r.answer.selected = some chosen.toList
  key : r.leadingIndex? = none → r.key ∈ plainKeys
  text : ∀ task, r.task = some task → task.hasTextInput = true → r.answer.text.isSome = true

lemma yesNo_mem_plainKeys (right : Bool) : yesNo right ∈ plainKeys := by
  cases right <;> decide

/-- Only the options of a link have keys of their own. -/
lemma transitionKey_mem_plainKeys {task : Option TaskType} {n : Node}
    (h : task = some .link → n.selected = []) (threshold : Nat) (settings : Settings) :
    transitionKey task n threshold settings ∈ plainKeys := by
  have hany : anyKey ∈ plainKeys := by decide
  unfold transitionKey
  split
  · exact yesNo_mem_plainKeys _
  · rw [Node.selectedKey?, h rfl]
    exact hany
  · exact yesNo_mem_plainKeys _
  · exact yesNo_mem_plainKeys _
  · exact yesNo_mem_plainKeys _
  · exact hany

namespace Walk

variable {t : Tree} {w w' : Walk}

/-- Where options lead on by themselves, at most one of them is chosen. -/
lemma Sound.exists_selected (h : w.Sound) {task : TaskType} (htask : w.stop.task = some task)
    (hleads : task.leads = true) :
    ∃ chosen : Option Nat, w.stop.node.answer.selected = some chosen.toList ∧
      w.stop.node.selected = chosen.toList := by
  have hchoice : task.asksChoice = true := by
    cases task <;> first | rfl | cases hleads
  obtain ⟨hselection, chosen, hselected⟩ := h.exists_option htask hchoice
  exact ⟨chosen, by rw [Node.answer, if_pos hselection, hselected], hselected⟩

lemma Sound.regular_record (h : w.Sound) : w.record.Regular := by
  refine ⟨fun task htask hleads => ?_, fun hlead => ?_, fun task htask hinput => ?_⟩
  · obtain ⟨chosen, hchosen, -⟩ := h.exists_selected htask hleads
    exact ⟨chosen, hchosen⟩
  · refine transitionKey_mem_plainKeys (fun htask => ?_) _ _
    obtain ⟨chosen, hanswer, hselected⟩ := h.exists_selected htask rfl
    have hnone : chosen.toList.head? = none := by
      simpa [Record.leadingIndex?, record, htask, hanswer] using hlead
    rw [hselected]
    exact List.head?_eq_none_iff.1 hnone
  · obtain ⟨mode, unit, numeric, hblock⟩ := h.asks.input task htask hinput
    obtain ⟨typed, htyped⟩ := Node.exists_input hblock
    exact Node.isSome_typedText? htyped

/-- Whatever is done to a walk, what is on record is regular. -/
lemma Reached.regular_records (h : Reached t w) : ∀ r ∈ w.records, r.Regular := by
  induction h using Reached.induct with
  | start h =>
    obtain ⟨name, stop, -, -, rfl⟩ := start_eq_ok h
    exact fun r hr => absurd hr List.not_mem_nil
  | wait now _ ih => exact ih
  | step h _ ih hstep =>
    cases hstep with
    | advance hnext => rwa [records_advance hnext]
    | goBack hprevious => rwa [records_goBack hprevious]
    | save =>
      intro r hr
      rcases List.mem_append.1 hr with hr | hr
      · exact ih r hr
      · obtain rfl := List.mem_singleton.1 hr
        exact h.sound.regular_record
    | _ => exact ih

end Walk

/-! ### One record -/

/-- No part of a moment in whole seconds is a semicolon. -/
lemma Moment.not_mem_secondsText (m : Moment) : ';' ∉ m.secondsText.toList := by
  have hpadded : ∀ width n, ';' ∉ (padded width n).toList := fun width n hmem =>
    absurd (isDigit_of_mem_padded hmem) (by decide)
  have hyear : ';' ∉ (yearText m.date.year).toList := by
    rw [yearText]
    split_ifs <;> simp [hpadded]
  have hoffset : ';' ∉ (offsetText m.offset).toList := by
    simp only [offsetText]
    split_ifs <;> simp [hpadded]
  simp [secondsText, clockText, Date.text, hpadded, hyear, hoffset]

namespace Record

variable {r r' : Record} {records records' : List Record}

/-- The record without the semicolon at its end. -/
def content (r : Record) : String := r.leadField ++ r.answerField

/-- Whether no semicolon was typed. -/
def Unbroken (r : Record) : Prop := ∀ text, r.answer.text = some text → ';' ∉ text.toList

/-- The first letters of plain keys, beside the keys. -/
def initials : List (String × List Char) := [("Any", ['A']), ("Yes", ['Y']), ("No", ['N'])]

/-- A record starts with a number or with the letter of a key. -/
lemma Regular.lead_cases (h : r.Regular) :
    (∃ index, r.leadingIndex? = some index ∧ r.leadField.toList = Nat.toDigits 10 index) ∨
      r.leadingIndex? = none ∧ (r.key, r.leadField.toList) ∈ initials := by
  cases hlead : r.leadingIndex? with
  | some index =>
    refine Or.inl ⟨index, rfl, ?_⟩
    have hfield : r.leadField = toString index := by rw [leadField, hlead]
    rw [hfield, Nat.toString_eq_repr, Nat.toList_repr]
  | none =>
    have hfield : r.leadField.toList = r.key.toList.take 1 := by
      rw [leadField, hlead, String.toList_ofList]
    have hinitial : ∀ key ∈ plainKeys, (key, key.toList.take 1) ∈ initials := by decide
    rw [hfield]
    exact Or.inr ⟨rfl, hinitial r.key (h.key hlead)⟩

lemma Regular.not_mem_leadField (h : r.Regular) {c : Char} (hdigit : Text.isDigit c = false)
    (hletter : ∀ initial ∈ initials, c ∉ initial.2) : c ∉ r.leadField.toList := by
  intro hc
  rcases h.lead_cases with ⟨index, -, hfield⟩ | ⟨-, hkey⟩
  · rw [hfield] at hc
    rw [Text.isDigit_of_mem_toDigits hc] at hdigit
    cases hdigit
  · exact hletter _ hkey hc

lemma toDigits_ne_initial {initial : String × List Char} (h : initial ∈ initials) (index : Nat) :
    Nat.toDigits 10 index ≠ initial.2 := by
  intro heq
  have hdigits : initial.2.all Text.isDigit = true :=
    List.all_eq_true.2 fun _ hc => Text.isDigit_of_mem_toDigits (heq ▸ hc)
  have hletters : ∀ initial ∈ initials, initial.2.all Text.isDigit = false := by decide
  exact Bool.noConfusion (hdigits.symm.trans (hletters initial h))

/-- The first field tells an index from a key, and both apart from others of their kind. -/
lemma Regular.lead_inj (h : r.Regular) (h' : r'.Regular)
    (hfield : r.leadField.toList = r'.leadField.toList) :
    r.leadingIndex? = r'.leadingIndex? ∧ (r.leadingIndex? = none → r.key = r'.key) := by
  rcases h.lead_cases with ⟨index, hlead, hdigits⟩ | ⟨hlead, hkey⟩ <;>
    rcases h'.lead_cases with ⟨index', hlead', hdigits'⟩ | ⟨hlead', hkey'⟩
  · have hindex : index = index' := by
      rw [← Nat.ofDigitChars_ten_toDigits (n := index), ← hdigits, hfield, hdigits',
        Nat.ofDigitChars_ten_toDigits]
    rw [hlead, hlead', hindex]
    exact ⟨rfl, nofun⟩
  · exact absurd (hdigits.symm.trans hfield) (toDigits_ne_initial hkey' index)
  · exact absurd (hdigits'.symm.trans hfield.symm) (toDigits_ne_initial hkey index')
  · have hsame : ∀ initial ∈ initials, ∀ initial' ∈ initials, initial.2 = initial'.2 →
        initial.1 = initial'.1 := by decide
    exact ⟨hlead.trans hlead'.symm, fun _ => hsame _ hkey _ hkey' hfield⟩

/-- The second field has no semicolon unless one was typed. -/
lemma Unbroken.not_mem_answerField (h : r.Unbroken) : ';' ∉ r.answerField.toList := by
  unfold answerField
  split
  · simp
  · split_ifs
    · cases htext : r.answer.text with
      | none => simp
      | some text => simpa using h text htext
    · split
      · simpa using Moment.not_mem_secondsText _
      · simp
    · simp

lemma not_mem_content (h : r.Regular) (hfree : r.Unbroken) : ';' ∉ r.content.toList := by
  rw [content, String.toList_append, List.mem_append, not_or]
  exact ⟨h.not_mem_leadField (by decide) (by decide), hfree.not_mem_answerField⟩

/-- The second field is empty or starts with the comma. -/
lemma head?_answerField (r : Record) : ∀ c ∈ r.answerField.toList.head?, (c != ',') = false := by
  unfold answerField
  split
  · simp
  · split_ifs
    · simp
    · split <;> simp
    · simp

/-- The first comma is between the two fields. -/
lemma Regular.takeWhile_content (h : r.Regular) :
    r.content.toList.takeWhile (· != ',') = r.leadField.toList := by
  rw [content, String.toList_append]
  refine Text.takeWhile_append_stop (fun c hc => ?_) r.head?_answerField
  rw [bne_iff_ne]
  rintro rfl
  exact h.not_mem_leadField (by decide) (by decide) hc

/-- Whether two records share what the delimited export keeps of them: the chosen option where it
leads on by itself and the key elsewhere, the text where one is asked for, and the date to the
second where there is one. -/
structure Alike (r r' : Record) : Prop where
  choice : ∀ task, r.task = some task → task.leads = true →
    r.answer.selected = r'.answer.selected
  key : (∀ task, r.task = some task → task.leads = false) → r.key = r'.key
  text : ∀ task, r.task = some task → task.hasTextInput = true → r.answer.text = r'.answer.text
  date : ∀ task, r.task = some task → task.hasDate = true →
    r.answer.date.map Moment.secondsText = r'.answer.date.map Moment.secondsText

lemma leadingIndex?_eq_none (h : ∀ task, r.task = some task → task.leads = false) :
    r.leadingIndex? = none := by
  unfold leadingIndex?
  split
  · next htask => exact absurd (h _ htask) (by decide)
  · next htask => exact absurd (h _ htask) (by decide)
  · rfl

lemma leadingIndex?_eq {task : TaskType} (htask : r.task = some task) (hleads : task.leads = true)
    {chosen : Option Nat} (hchosen : r.answer.selected = some chosen.toList) :
    r.leadingIndex? = chosen := by
  have hhead : r.leadingIndex? = r.answer.selected.bind (·.head?) := by
    cases task <;> simp only [TaskType.leads, Bool.false_eq_true] at hleads
    all_goals rw [leadingIndex?, htask]
  rw [hhead, hchosen]
  cases chosen <;> rfl

lemma answerField_of_input {task : TaskType} (htask : r.task = some task)
    (hinput : task.hasTextInput = true) {text : String} (htext : r.answer.text = some text) :
    r.answerField = "," ++ text := by
  simp [answerField, htask, hinput, htext]

lemma answerField_of_date {task : TaskType} (htask : r.task = some task)
    (hdate : task.hasDate = true) :
    r.answerField = ((r.answer.date.map Moment.secondsText).map ("," ++ ·)).getD "" := by
  have hinput : task.hasTextInput = false := by
    cases task <;> first | rfl | cases hdate
  cases hmoment : r.answer.date <;> simp [answerField, htask, hinput, hdate, hmoment]

/-- Regular records of one task type are alike if they are written alike. -/
lemma Regular.alike (h : r.Regular) (h' : r'.Regular) (htask : r.task = r'.task)
    (hcontent : r.content = r'.content) : r.Alike r' := by
  have hlead : r.leadField.toList = r'.leadField.toList := by
    rw [← h.takeWhile_content, hcontent, h'.takeWhile_content]
  have hanswer : r.answerField = r'.answerField := by
    rw [content, content, String.toList_inj.1 hlead] at hcontent
    exact String.append_right_inj _ |>.1 hcontent
  obtain ⟨hindex, hkey⟩ := h.lead_inj h' hlead
  refine ⟨fun task hr hleads => ?_, fun hleads => hkey (leadingIndex?_eq_none hleads),
    fun task hr hinput => ?_, fun task hr hdate => ?_⟩
  · obtain ⟨chosen, hchosen⟩ := h.choice task hr hleads
    obtain ⟨chosen', hchosen'⟩ := h'.choice task (htask ▸ hr) hleads
    rw [leadingIndex?_eq hr hleads hchosen, leadingIndex?_eq (htask ▸ hr) hleads hchosen'] at hindex
    rw [hchosen, hchosen', hindex]
  · obtain ⟨text, htext⟩ := Option.isSome_iff_exists.1 (h.text task hr hinput)
    obtain ⟨text', htext'⟩ := Option.isSome_iff_exists.1 (h'.text task (htask ▸ hr) hinput)
    rw [answerField_of_input hr hinput htext, answerField_of_input (htask ▸ hr) hinput htext',
      String.append_right_inj] at hanswer
    rw [htext, htext', hanswer]
  · rw [answerField_of_date hr hdate, answerField_of_date (htask ▸ hr) hdate] at hanswer
    rcases hdates : r.answer.date.map Moment.secondsText with _ | text <;>
      rcases hdates' : r'.answer.date.map Moment.secondsText with _ | text' <;>
      rw [hdates, hdates'] at hanswer
    · simp at hanswer
    · simp at hanswer
    · simpa using hanswer

/-! ### Lists of records -/

lemma toList_delimitedList_cons (r : Record) (records : List Record) :
    (delimitedList (r :: records)).toList =
      r.content.toList ++ ';' :: (delimitedList records).toList := by
  rw [delimitedList, List.map_cons, String.join_cons, String.toList_append, delimited]
  simp only [content, delimitedList, String.toList_append, String.reduceToList, List.append_assoc,
    List.cons_append, List.nil_append]

/-- A record for each semicolon, and nothing behind the last one. -/
lemma pieces_delimitedList (h : ∀ r ∈ records, r.Regular) (hfree : ∀ r ∈ records, r.Unbroken) :
    Text.pieces ';' (delimitedList records) = records.map content ++ [""] := by
  induction records with
  | nil => rfl
  | cons r records ih =>
    rw [List.forall_mem_cons] at h hfree
    have hcontent := Text.beq_of_not_mem (not_mem_content h.1 hfree.1)
    rw [Text.pieces, toList_delimitedList_cons, Text.piecesOf_append_cons (by decide),
      Text.piecesOf_eq_singleton hcontent, List.map_append, List.map_singleton,
      String.ofList_toList]
    exact congrArg (r.content :: ·) (ih h.2 hfree.2)

lemma count_delimitedList (h : ∀ r ∈ records, r.Regular) (hfree : ∀ r ∈ records, r.Unbroken) :
    (delimitedList records).toList.count ';' = records.length := by
  have hlength := congrArg List.length (pieces_delimitedList h hfree)
  rw [Text.pieces, List.length_map, Text.length_piecesOf, List.length_append, List.length_map,
    List.length_singleton] at hlength
  exact Nat.succ_inj.1 hlength

lemma forall₂_alike (h : ∀ r ∈ records, r.Regular) (h' : ∀ r ∈ records', r.Regular)
    (htasks : records.map Record.task = records'.map Record.task)
    (hcontents : records.map content = records'.map content) :
    List.Forall₂ Alike records records' := by
  induction records generalizing records' with
  | nil =>
    obtain rfl := List.map_eq_nil_iff.1 hcontents.symm
    exact .nil
  | cons r records ih =>
    obtain ⟨r', later, rfl, hcontent, hlater⟩ := List.map_eq_cons_iff.1 hcontents.symm
    rw [List.forall_mem_cons] at h h'
    rw [List.map_cons, List.map_cons, List.cons.injEq] at htasks
    exact .cons (h.1.alike h'.1 htasks.1 hcontent.symm) (ih h.2 h'.2 htasks.2 hlater.symm)

end Record

/-! ### Walks -/

namespace Walk

open Record (Unbroken Alike delimitedList)

variable {t : Tree} {w : Walk}

/-- The delimited export of a walk can be taken apart if no semicolon was typed: it has one
semicolon for each record, so that it falls into the records between them, in their order.  If
another such walk, over whatever tree, has records of the same task types and the same export, then
their records are alike one by one. -/
theorem Reached.delimitedList_records (h : Reached t w) (hfree : ∀ r ∈ w.records, r.Unbroken) :
    (delimitedList w.records).toList.count ';' = w.records.length ∧
      Text.pieces ';' (delimitedList w.records) = w.records.map Record.content ++ [""] ∧
      ∀ {t' : Tree} {w' : Walk}, Reached t' w' → (∀ r ∈ w'.records, r.Unbroken) →
        w.records.map Record.task = w'.records.map Record.task →
        delimitedList w.records = delimitedList w'.records →
        List.Forall₂ Alike w.records w'.records := by
  have hregular := h.regular_records
  refine ⟨Record.count_delimitedList hregular hfree, Record.pieces_delimitedList hregular hfree, ?_⟩
  intro t' w' h' hfree' htasks hexport
  have hregular' := h'.regular_records
  have hcontents :
      w.records.map Record.content ++ [""] = w'.records.map Record.content ++ [""] := by
    rw [← Record.pieces_delimitedList hregular hfree, hexport,
      Record.pieces_delimitedList hregular' hfree']
  exact Record.forall₂_alike hregular hregular' htasks (List.append_cancel_right hcontents)

end Walk

namespace Survey

/-- The survey is filled in, with a tick at one of the pets. -/
def script (pet : Nat) : List (Moment × Action) :=
  [Action.select 1, .save, .advance, .toggle pet, .save, .advance, .write "4, or 5", .save,
    .advance].map fun a => (Errand.midnight, a)

end Survey

namespace Walk

open Record (Alike delimitedList)

/-- It cannot be seen from the export which pet was ticked. -/
theorem delimitedList_records_survey :
    ∃ w, Walk.start Survey.tree Errand.midnight = .ok w ∧
      delimitedList (Action.run w (Survey.script 0)).records = "1;Y;A,4, or 5;" ∧
      (Action.run w (Survey.script 0)).records ≠ (Action.run w (Survey.script 1)).records ∧
      List.Forall₂ Alike (Action.run w (Survey.script 0)).records
        (Action.run w (Survey.script 1)).records := by
  obtain ⟨w, hw⟩ := Survey.exists_start
  have hreached := Reached.start hw
  have hrecords : ∀ pet ∈ [0, 1], (Action.run w (Survey.script pet)).records =
      [⟨"Any", some .radioButtons, ⟨some [1], none, none⟩⟩,
        ⟨"Yes", some .checklist, ⟨some [pet], none, none⟩⟩,
        ⟨"Any", some .textFieldNumerical, ⟨none, some "4, or 5", none⟩⟩] := by
    obtain rfl := Except.ok.inj hw
    decide +kernel
  have hfree : ∀ pet ∈ [0, 1], ∀ r ∈ (Action.run w (Survey.script pet)).records, r.Unbroken := by
    intro pet hpet r hr text htext
    rw [hrecords pet hpet] at hr
    simp only [List.mem_cons, List.not_mem_nil, or_false] at hr
    rcases hr with rfl | rfl | rfl <;> cases htext
    decide
  have hfirst : (0 : Nat) ∈ [0, 1] := by decide
  have hsecond : (1 : Nat) ∈ [0, 1] := by decide
  refine ⟨w, hw, ?_, ?_, ?_⟩
  · rw [hrecords 0 hfirst]
    decide +kernel
  · rw [hrecords 0 hfirst, hrecords 1 hsecond]
    decide
  · refine ((hreached.run _).delimitedList_records (hfree 0 hfirst)).2.2 (hreached.run _)
      (hfree 1 hsecond) ?_ ?_
    · rw [hrecords 0 hfirst, hrecords 1 hsecond]
      rfl
    · rw [hrecords 0 hfirst, hrecords 1 hsecond]
      decide +kernel

end Walk

end Walkthrough
