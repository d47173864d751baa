import Walkthrough.Proofs.WrittenFiles
import Walkthrough.Proofs.WrittenStrings
import Walkthrough.Tree.Folder

/-!
# Settings are read back

Main statement: the settings that a file holds are those that were written to it, whatever their
texts are.  A file of settings is a sequence of lines, each with a new key and the text of its
value, so reading it gives these keys with these values in their order.  The settings are then those
that the keys set one after the other, and every setting is set, but for a language that is missing
by default.
-/

namespace Walkthrough

namespace Toml

variable {c : Char} {key text : String} {v : Value} {chars rest : List Char} {t : Tables}
  {fields : List (String × Value)} {entries : Entries}

/-! ### A value before the end of its line -/

/-- Whether characters are read as a value up to the end of their line. -/
structure Reads (chars : List Char) (v : Value) : Prop where
  start : ∀ c ∈ chars.head?, isSpace c = false
  reads (fuel depth : Nat) (rest : List Char) :
    value (fuel + 1) depth (chars ++ '\n' :: rest) = .ok (v, '\n' :: rest)

lemma unquoted_newline (rest : List Char) : Unquoted ('\n' :: rest) := by
  simp [Unquoted]

lemma exists_stringChars (s : List Char) :
    ∃ c rest, stringChars s = c :: rest ∧ (c = '"' ∨ c = '\'') := by
  simp only [stringChars]
  split_ifs
  · exact ⟨_, _, rfl, Or.inl rfl⟩
  · exact ⟨_, _, rfl, Or.inr rfl⟩
  · exact ⟨_, _, rfl, Or.inl rfl⟩
  · exact ⟨_, _, rfl, Or.inr rfl⟩
  · exact ⟨_, _, rfl, Or.inl rfl⟩
  · exact ⟨_, _, rfl, Or.inl rfl⟩

lemma reads_stringText (s : String) : Reads (stringText s).toList (.text s) := by
  rw [stringText, String.toList_ofList]
  obtain ⟨c, rest, hchars, hquote⟩ := exists_stringChars s.toList
  refine ⟨?_, fun fuel depth below => ?_⟩
  · rw [hchars]
    rintro d ⟨⟩
    rcases hquote with rfl | rfl <;> decide
  · have hstring := string_stringChars (unquoted_newline below) s.toList
    rw [hchars, List.cons_append] at hstring ⊢
    rw [value.eq_def]
    simp only [if_pos hquote, hstring]
    rw [Except.map, String.ofList_toList]

lemma reads_flag (b : Bool) : Reads (if b then "true" else "false").toList (.flag b) := by
  cases b with
  | true =>
    refine ⟨?_, fun _ _ _ => by rw [value.eq_def]; rfl⟩
    rintro c ⟨⟩
    rfl
  | false =>
    refine ⟨?_, fun _ _ _ => by rw [value.eq_def]; rfl⟩
    rintro c ⟨⟩
    rfl

/-! ### A line -/

/-- The key of an entry with its value, wherever they are written. -/
def Entry.field {α : Type} (e : Entry α) : String × α := (e.key.name, e.value)

/-- Whether a key is written without quotes. -/
def Bare (key : String) : Prop := key.toList ≠ [] ∧ key.toList.all isBare = true

instance (key : String) : Decidable (Bare key) :=
  inferInstanceAs (Decidable (_ ∧ _))

lemma Bare.all (h : Bare key) : ∀ c ∈ key.toList, isBare c = true := List.all_eq_true.1 h.2

lemma Bare.exists_cons (h : Bare key) : ∃ c tail, key.toList = c :: tail ∧ isBare c = true := by
  cases hkey : key.toList with
  | nil => exact absurd hkey h.1
  | cons c tail => exact ⟨c, tail, rfl, h.all c (hkey ▸ List.mem_cons_self)⟩

lemma ne_of_isBare (h : isBare c = true) {d : Char} (hd : isBare d = false) : c ≠ d := by
  rintro rfl
  rw [hd] at h
  cases h

lemma isSpace_of_isBare (h : isBare c = true) : isSpace c = false := by
  rw [isSpace, Bool.or_eq_false_iff, beq_eq_false_iff_ne, beq_eq_false_iff_ne]
  exact ⟨ne_of_isBare h (by decide), ne_of_isBare h (by decide)⟩

lemma keyName_bare (h : Bare key) (rest : List Char) :
    keyName (key.toList ++ ' ' :: rest) = .ok (key, ' ' :: rest) := by
  have hstop := Text.stop_cons (show isBare ' ' = false by decide) rest
  have hbare := Text.takeWhile_append_stop h.all hstop
  have hbelow := Text.dropWhile_append_stop h.all hstop
  obtain ⟨c, tail, hc, hfirst⟩ := h.exists_cons
  rw [keyName.eq_def]
  split
  · next heq =>
    rw [hc] at heq
    exact absurd (List.cons.inj heq).1 (ne_of_isBare hfirst (by decide))
  · next heq =>
    rw [hc] at heq
    exact absurd (List.cons.inj heq).1 (ne_of_isBare hfirst (by decide))
  · simp only [hbare, hbelow, String.ofList_toList]
    exact if_neg (by simpa using h.1)

lemma simpleKey_bare (h : Bare key) (rest : List Char) :
    simpleKey (key.toList ++ ' ' :: '=' :: rest) =
      .ok (⟨key, (key.toList ++ ' ' :: '=' :: rest).length⟩, '=' :: rest) := by
  obtain ⟨c, tail, hc, hbare⟩ := h.exists_cons
  have hstart : (key.toList ++ ' ' :: '=' :: rest).dropWhile isSpace =
      key.toList ++ ' ' :: '=' :: rest := by
    rw [hc]
    exact List.dropWhile_cons_of_neg (by simp [isSpace_of_isBare hbare])
  rw [simpleKey, hstart, keyName_bare h]
  rfl

lemma dottedKey_bare (h : Bare key) (rest : List Char) :
    dottedKey (key.toList ++ ' ' :: '=' :: rest) =
      .ok ([], ⟨key, (key.toList ++ ' ' :: '=' :: rest).length⟩, '=' :: rest) := by
  rw [dottedKey, simpleKey_bare h]
  rfl

lemma insertUnder?_nil (hnew : entries.value? key = none) (place place' : Nat) (v : Value) :
    entries.insertUnder? [] [] ⟨key, place⟩ place' v =
      some (entries ++ [⟨⟨key, place⟩, some place', v⟩]) := by
  simp [Entries.insertUnder?, Entries.changeAt?, Entries.insert?, hnew]

lemma Reads.dropWhile (hv : Reads chars v) (rest : List Char) :
    (chars ++ '\n' :: rest).dropWhile isSpace = chars ++ '\n' :: rest := by
  cases chars with
  | nil => rfl
  | cons c chars => exact List.dropWhile_cons_of_neg (by simp [hv.start c rfl])

/-- A line adds its key with its value. -/
lemma valueLine_line (hkey : Bare key) (hv : Reads text.toList v)
    (hnew : entries.value? key = none) (rest : List Char) :
    ∃ e : Entry Value, e.field = (key, v) ∧
      valueLine ⟨entries, []⟩ ((line key text).toList ++ rest) =
        .ok (⟨entries ++ [e], []⟩, rest) := by
  have hline : (line key text).toList ++ rest =
      key.toList ++ ' ' :: '=' :: (' ' :: (text.toList ++ '\n' :: rest)) := by
    simp [line]
  have hwritten : (' ' :: (text.toList ++ '\n' :: rest)).dropWhile isSpace =
      text.toList ++ '\n' :: rest :=
    (List.dropWhile_cons_of_pos (by decide)).trans (hv.dropWhile rest)
  have hend : lineEnd ('\n' :: rest) = .ok rest := rfl
  obtain ⟨place, hplace⟩ : ∃ place, dottedKey ((line key text).toList ++ rest) =
      .ok ([], ⟨key, place⟩, '=' :: ' ' :: (text.toList ++ '\n' :: rest)) := by
    rw [hline]
    exact ⟨_, dottedKey_bare hkey _⟩
  refine ⟨⟨⟨key, place⟩, some (text.toList ++ '\n' :: rest).length, v⟩, rfl, ?_⟩
  rw [valueLine, hplace]
  simp only [bind, Except.bind, expect, if_true, hwritten, hv.reads, hend,
    insertUnder?_nil hnew]
  rfl

/-- What begins a line with a key begins no other kind of line. -/
lemma nextLine_bare (hbare : isBare c = true) (t : Tables) (s : List Char) :
    nextLine t (c :: s) = valueLine t (c :: s) := by
  have hc : c ≠ '[' ∧ c ≠ '#' ∧ c ≠ '\r' ∧ c ≠ '\n' := by
    refine ⟨?_, ?_, ?_, ?_⟩ <;> exact ne_of_isBare hbare (by decide)
  rw [nextLine.eq_def]
  split <;> simp_all

/-! ### A file -/

/-- Lines with new keys and the texts of their values. -/
inductive Lines : List (String × Value) → List Char → Prop
  | nil : Lines [] []
  | cons (key : String) {text : String} {v : Value} {fields : List (String × Value)}
      {rest : List Char} (hkey : Bare key) (hv : Reads text.toList v)
      (hnew : key ∉ fields.map Prod.fst) (h : Lines fields rest) :
      Lines ((key, v) :: fields) ((line key text).toList ++ rest)

lemma value?_append_of_ne {e : Entry Value} (h : e.key.name ≠ key) :
    Entries.value? (entries ++ [e]) key = entries.value? key := by
  rw [Entries.value?, List.find?_append, List.find?_singleton, if_neg (by simpa using h),
    Option.or_none]
  rfl

/-- The first character of a line is that of its key. -/
lemma exists_line (hkey : Bare key) (text : String) (rest : List Char) :
    ∃ c tail, (line key text).toList ++ rest = c :: tail ∧ isBare c = true := by
  obtain ⟨c, tail, hc, hbare⟩ := hkey.exists_cons
  refine ⟨c, tail ++ (" = " ++ text ++ "\n").toList ++ rest, ?_, hbare⟩
  simp [line, hc]

/-- Lines with keys that are new to the entries before them add these keys with their values. -/
lemma Lines.linesFrom (h : Lines fields chars) {fuel : Nat} (hfuel : fields.length ≤ fuel)
    (entries : Entries) (hnew : ∀ f ∈ fields, entries.value? f.1 = none) :
    ∃ added, Toml.linesFrom fuel ⟨entries, []⟩ chars = .ok (entries ++ added) ∧
      added.map Entry.field = fields := by
  induction h generalizing fuel entries with
  | nil => exact ⟨[], by cases fuel <;> simp [Toml.linesFrom], rfl⟩
  | @cons key text v fields rest hkey hv hother h ih =>
    obtain ⟨fuel, rfl⟩ : ∃ n, fuel = n + 1 := ⟨fuel - 1, by simp at hfuel; omega⟩
    obtain ⟨e, he, hline⟩ := valueLine_line hkey hv (hnew _ List.mem_cons_self) rest
    -- the keys of the other lines are still new behind this one
    have hstill : ∀ f ∈ fields, Entries.value? (entries ++ [e]) f.1 = none := by
      intro f hf
      have hname : e.key.name = key := congrArg Prod.fst he
      rw [value?_append_of_ne, hnew f (List.mem_cons_of_mem _ hf)]
      rw [hname]
      rintro rfl
      exact hother (List.mem_map_of_mem hf)
    obtain ⟨added, hadded, hfields⟩ := ih (by simpa using hfuel) _ hstill
    refine ⟨e :: added, ?_, by rw [List.map_cons, he, hfields]⟩
    obtain ⟨c, tail, hc, hbare⟩ := exists_line hkey text rest
    rw [hc] at hline ⊢
    rw [Toml.linesFrom, List.dropWhile_cons_of_neg (by simp [isSpace_of_isBare hbare])]
    simp only [List.isEmpty_cons, Bool.false_eq_true, if_false, nextLine_bare hbare, hline, hadded,
      List.append_assoc, List.singleton_append]

lemma Lines.length_le (h : Lines fields chars) : fields.length ≤ chars.length := by
  induction h with
  | nil => rfl
  | cons _ _ _ _ _ ih =>
    have hbreak : "\n".toList.length = 1 := rfl
    simp only [line, List.length_cons, List.length_append, String.toList_append, hbreak]
    omega

lemma Lines.dropMark (h : Lines fields chars) : Toml.dropMark chars = chars := by
  cases h with
  | nil => rfl
  | cons _ hkey =>
    obtain ⟨c, tail, hc, hbare⟩ := exists_line hkey _ _
    rw [hc, Toml.dropMark, if_neg]
    -- a byte order mark is no character of a key
    intro hmark
    obtain rfl : c = Char.ofNat 0xFEFF := by rw [← hmark, Char.ofNat_toNat]
    exact absurd hbare (by decide)

/-- A file of lines holds their keys with their values, in their order. -/
lemma Lines.read {file : String} (h : Lines fields file.toList) :
    ∃ entries, Toml.read file = .ok entries ∧ entries.map Entry.field = fields := by
  have hfuel : fields.length ≤ file.toList.length + 1 := Nat.le_succ_of_le h.length_le
  obtain ⟨entries, hentries, hfields⟩ := h.linesFrom hfuel [] fun _ _ => rfl
  refine ⟨entries, ?_, hfields⟩
  rw [Toml.read, h.dropMark, hentries]
  rfl

end Toml

lemma AnswerMatching.ofWord?_word (m : AnswerMatching) : ofWord? m.word = some m := by
  cases m <;> rfl

lemma ExportFormat.ofWord?_word (f : ExportFormat) : ofWord? f.word = some f := by
  cases f <;> rfl

namespace Settings

variable {s : Settings} {entries : Toml.Entries} {files files' : Files} {path : String}

/-- The keys of settings with their values.  There is none for a language that is missing. -/
def fields (s : Settings) : List (String × Toml.Value) :=
  [("answer_matching", .text s.matching.word), ("trim_answers", .flag s.trimAnswers)] ++
  (s.language.toList.map fun language => ("language", .text language)) ++
  [("export_format", .text s.exportFormat.word), ("end_state_text", .text s.endText)]

lemma lines_toToml (s : Settings) : Toml.Lines s.fields s.toToml.toList := by
  obtain ⟨matching, trimmed, language, format, text⟩ := s
  -- only the line of the language may be missing, and it is between the others
  have hlast : Toml.Lines _ _ :=
    .cons "export_format" (by decide) (Toml.reads_stringText format.word) (by simp)
      (.cons "end_state_text" (by decide) (Toml.reads_stringText text) (by simp) .nil)
  cases language with
  | none =>
    have hall : Toml.Lines _ _ :=
      .cons "answer_matching" (by decide) (Toml.reads_stringText matching.word) (by simp)
        (.cons "trim_answers" (by decide) (Toml.reads_flag trimmed) (by simp) hlast)
    simpa [fields, toToml] using hall
  | some language =>
    have hall : Toml.Lines _ _ :=
      .cons "answer_matching" (by decide) (Toml.reads_stringText matching.word) (by simp)
        (.cons "trim_answers" (by decide) (Toml.reads_flag trimmed) (by simp)
          (.cons "language" (by decide) (Toml.reads_stringText language) (by simp) hlast))
    simpa [fields, toToml] using hall

/-- Where entries stand in a file matters only if one of them is at fault. -/
lemma ofEntries_eq (h : (entries.map Toml.Entry.field).foldlM
      (fun s f => s.withEntry f.1 f.2) default = .ok s) : ofEntries entries = .ok s := by
  rw [ofEntries]
  generalize default = start at h ⊢
  induction entries generalizing start with
  | nil =>
    obtain rfl := Except.ok.inj h
    rfl
  | cons e entries ih =>
    rw [List.map_cons, List.foldlM_cons] at h
    rw [List.foldlM_cons]
    change (withEntry start e.key.name e.value >>= _) = _ at h
    cases hnext : withEntry start e.key.name e.value with
    | error place? =>
      rw [hnext] at h
      cases h
    | ok next =>
      rw [hnext] at h
      exact ih next h

lemma withEntry_matching (s : Settings) (m : AnswerMatching) :
    s.withEntry "answer_matching" (.text m.word) = .ok { s with matching := m } := by
  change (Toml.Value.need (AnswerMatching.ofWord? m.word)).map _ = _
  rw [m.ofWord?_word]
  rfl

lemma withEntry_exportFormat (s : Settings) (f : ExportFormat) :
    s.withEntry "export_format" (.text f.word) = .ok { s with exportFormat := f } := by
  change (Toml.Value.need (ExportFormat.ofWord? f.word)).map _ = _
  rw [f.ofWord?_word]
  rfl

/-- The keys of settings set all of them, for a language without a key is missing by default. -/
lemma foldlM_fields (s : Settings) :
    s.fields.foldlM (fun s f => s.withEntry f.1 f.2) default = .ok s := by
  obtain ⟨matching, trimmed, language, format, text⟩ := s
  cases language with
  | none =>
    simp only [fields, Option.toList_none, List.map_nil, List.append_nil, List.cons_append,
      List.nil_append, List.foldlM_cons, List.foldlM_nil, withEntry_matching,
      withEntry_exportFormat]
    rfl
  | some language =>
    simp only [fields, Option.toList_some, List.map_cons, List.map_nil, List.cons_append,
      List.nil_append, List.foldlM_cons, List.foldlM_nil, withEntry_matching,
      withEntry_exportFormat]
    rfl

/-- Settings are read back from the file that holds them. -/
lemma ofToml_toToml (s : Settings) : ofToml s.toToml = .ok s := by
  obtain ⟨entries, hread, hfields⟩ := s.lines_toToml.read
  rw [ofToml, hread]
  change (ofEntries entries).mapError _ = _
  rw [ofEntries_eq (hfields ▸ s.foldlM_fields)]
  rfl

/-- Settings can be saved where their text can be written. -/
lemma save_eq_ok : save files path s = .ok files' ↔ files.writeText path s.toToml = .ok files' := by
  rw [save]
  cases files.writeText path s.toToml <;> simp [Except.mapError]

lemma load_of_save (h : save files path s = .ok files') : load files' path = .ok s := by
  rw [save_eq_ok] at h
  obtain ⟨goal, place, before, hgoal, htakes⟩ := Files.takes_of_writeText h
  rw [Files.writeText_eq hgoal htakes] at h
  obtain rfl := Except.ok.inj h
  -- the path leads to the file that was put where it led before
  have htext : loadText (files.put place (.file (some s.toToml))) path = .ok s.toToml := by
    rw [loadText, Files.readText, Files.resolve_put hgoal htakes]
    rfl
  rw [load, htext]
  simp only [bind, Except.bind, ofToml_toToml]
  rfl

/-- Settings outlast the file that holds them, with every character of their texts.  The file has a
key for each setting that is there, with its value, so that none is left to a default; and wherever
a file can be written, they can be saved and are what is loaded then. -/
theorem load_save (s : Settings) :
    (∃ entries, Toml.read s.toToml = .ok entries ∧ entries.map Toml.Entry.field = s.fields) ∧
      ofToml s.toToml = .ok s ∧
      ∀ (files : Files) (path : String),
        ((∃ files', save files path s = .ok files') ↔ ∃ goal place before,
          files.resolve true path = .ok goal ∧ Files.Takes place before goal) ∧
        ∀ files', save files path s = .ok files' → load files' path = .ok s := by
  refine ⟨s.lines_toToml.read, s.ofToml_toToml, fun files path => ⟨⟨?_, ?_⟩, ?_⟩⟩
  · rintro ⟨files', hsave⟩
    exact Files.takes_of_writeText (save_eq_ok.1 hsave)
  · rintro ⟨goal, place, before, hgoal, htakes⟩
    exact ⟨_, save_eq_ok.2 (Files.writeText_eq hgoal htakes _)⟩
  · exact fun files' => load_of_save

/-- Settings none of which is the default, with both kinds of quotes in their texts, three of each
in a row, and a backslash, a line break, a carriage return and a control character. -/
def unusual : Settings where
  matching := .caseInsensitive
  trimAnswers := false
  language := some "l'\"été\""
  exportFormat := .json
  endText := "\n\"\"\"\"'''\\\r\x7f\t"

/-- A folder in which there is nothing. -/
def bareFolder : Files where
  entries := [(["walk"], .folder)]
  working := ["walk"]

theorem load_save_unusual : ∃ files, save bareFolder "settings.toml" unusual = .ok files ∧
    load files "settings.toml" = .ok unusual := by
  have hnames : Path.names "settings.toml" = ["settings.toml"] := by decide
  have hfree : bareFolder.resolve true "settings.toml" = .ok (.free ["walk", "settings.toml"]) := by
    simp +decide [Files.resolve, Files.resolveNames, hnames, Files.resolveFrom, Files.entry?,
      bareFolder]
  obtain ⟨hsaves, hloads⟩ := (load_save unusual).2.2 bareFolder "settings.toml"
  obtain ⟨files, hsave⟩ := hsaves.2 ⟨_, _, _, hfree, .free⟩
  exact ⟨files, hsave, hloads files hsave⟩

end Settings

end Walkthrough
