import Mathlib
import Walkthrough.Proofs.Listings
import Walkthrough.Proofs.Translating
import Walkthrough.Tree.Folder

/-!
# The languages of a tree in a folder

The phrasebook of a tree is gathered file by file, in the order in which the disk lists them.  If no
two of the files are named after one language, then this order is not seen.  Main statement: over
file trees that differ in the order of their listings alone, the phrasebook offers the same
languages, those after which files are named and the base language, and words all texts alike, as
the file of the language has it if it can be read, and as they are written otherwise.
-/

namespace Walkthrough

variable {t t' : Files} {root base language name folder : String} {table : Table String}

/-! ### Names of files -/

lemma not_mem_toList_of_toLower {c : Char} {s lower : String} (h : s.toLower = lower)
    (hc : c.toLower ∉ lower.toList) : c ∉ s.toList := by
  rintro hmem
  rw [← h, String.toLower, String.toList_map] at hc
  exact hc (List.mem_map_of_mem hmem)

lemma Path.splitExtension_append {extension : String} (hstem : language ≠ "")
    (hdot : '.' ∉ extension.toList) :
    Path.splitExtension (language ++ "." ++ extension) = (language, some extension) := by
  have hcut : Text.cutLast? "." (language ++ "." ++ extension) = some (language, extension) := by
    rw [String.append_assoc]
    exact Text.cutLast?_append rfl List.not_mem_nil ((Text.contains_char_eq_false rfl).2 hdot) _
  have hempty : language.isEmpty = false := by simpa using hstem
  rw [splitExtension, hcut]
  simp only [hempty, Bool.false_eq_true, if_false]

/-- A file is a table of strings for the language in front of its extension. -/
lemma isStringsFile_and_stem : isStringsFile name = true ∧ Path.stem name = language ↔
    language ≠ "" ∧ ∃ extension : String,
      extension.toLower = "xml" ∧ name = language ++ "." ++ extension := by
  constructor
  · rintro ⟨hxml, hstem⟩
    rw [isStringsFile, Path.extension?, Path.splitExtension] at hxml
    rw [Path.stem, Path.splitExtension] at hstem
    cases hcut : Text.cutLast? "." name with
    | none =>
      rw [hcut] at hxml
      cases hxml
    | some cut =>
      obtain ⟨hname, -⟩ := Text.cutLast?_eq_some (by decide) hcut
      rw [hcut] at hxml hstem
      dsimp only at hxml hstem
      split_ifs at hxml hstem with hempty
      · cases hxml
      · refine ⟨?_, cut.2, by simpa using hxml, ?_⟩
        · rintro rfl
          exact hempty (by simpa using hstem)
        · rw [hname, ← hstem, String.append_assoc]
  · rintro ⟨hstem, extension, hxml, rfl⟩
    have hdot : '.' ∉ extension.toList := not_mem_toList_of_toLower hxml (by decide)
    rw [isStringsFile, Path.extension?, Path.stem, Path.splitExtension_append hstem hdot]
    simp [hxml]

namespace Phrasebook

/-- Whether a file that is named after a language stands in the folder `trans` of a tree, or is
linked from there.  Its extension is `xml`, in whatever letters. -/
structure HasFile (t : Files) (root language name : String) : Prop where
  named : language ≠ "" ∧ ∃ extension : String,
    extension.toLower = "xml" ∧ name = language ++ "." ++ extension
  file : (∃ text, t.Holds (Path.join root "trans") name (.file text)) ∨
    ∃ target, t.Holds (Path.join root "trans") name (.link target) ∧
      t.isFile (Path.join (Path.join root "trans") name) = true

/-- Whether no two files in the folder `trans` of a tree are named after one language. -/
def OneFileEach (t : Files) (root : String) : Prop :=
  ∀ language name name', HasFile t root language name → HasFile t root language name' →
    name = name'

/-- Whether something that is listed is a table of strings for a language. -/
structure Announces (t : Files) (folder language : String) (e : String × FileEntry) : Prop where
  strings : (isStringsFile e.1 && t.leadsToFile folder e) = true
  stem : Path.stem e.1 = language

lemma hasFile_iff (ht : t.Distinct) : HasFile t root language name ↔
    ∃ entry, (name, entry) ∈ t.list (Path.join root "trans") ∧
      Announces t (Path.join root "trans") language (name, entry) := by
  constructor
  · rintro ⟨hnamed, hfile⟩
    obtain ⟨hstrings, hstem⟩ := isStringsFile_and_stem.2 hnamed
    rcases hfile with ⟨text, hholds⟩ | ⟨target, hholds, hfile⟩
    · exact ⟨_, ht.mem_list.2 hholds, by rw [hstrings]; rfl, hstem⟩
    · exact ⟨_, ht.mem_list.2 hholds, by rw [hstrings]; exact hfile, hstem⟩
  · rintro ⟨entry, hmem, hstrings, hstem⟩
    have hholds := ht.mem_list.1 hmem
    rw [Bool.and_eq_true] at hstrings
    refine ⟨isStringsFile_and_stem.1 ⟨hstrings.1, hstem⟩, ?_⟩
    cases entry with
    | folder => exact absurd hstrings.2 Bool.false_ne_true
    | file text => exact Or.inl ⟨text, hholds⟩
    | link target => exact Or.inr ⟨target, hholds, hstrings.2⟩

/-! ### File by file -/

variable {b : Phrasebook} {e : String × FileEntry} {es : List (String × FileEntry)}

lemma base_addFile (t : Files) (folder : String) (b : Phrasebook) (e : String × FileEntry) :
    (addFile t folder b e).base = b.base := by
  rw [addFile]
  split
  · split <;> rfl
  · rfl

lemma mem_announced_addFile : language ∈ (addFile t folder b e).announced ↔
    language ∈ b.announced ∨ Announces t folder language e := by
  rw [addFile]
  split_ifs with hstrings
  · have hannounces : Announces t folder language e ↔ language = Path.stem e.1 :=
      ⟨fun h => h.stem.symm, fun h => ⟨hstrings, h.symm⟩⟩
    rw [hannounces]
    split <;> exact List.mem_append.trans (or_congr Iff.rfl List.mem_singleton)
  · exact ⟨Or.inl, fun h => h.elim id fun hannounces => absurd hannounces.strings hstrings⟩

lemma get?_tables_addFile_of_ok (hannounces : Announces t folder language e)
    (hload : Strings.load t (Path.join folder e.1) = .ok table) :
    (addFile t folder b e).tables.get? language = some table := by
  rw [addFile, if_pos hannounces.strings, hload]
  dsimp only
  rw [announce, setTable, Table.get?_insert, if_pos hannounces.stem]

lemma get?_tables_addFile_of_ne
    (h : Announces t folder language e →
      ∀ read, Strings.load t (Path.join folder e.1) ≠ .ok read) :
    (addFile t folder b e).tables.get? language = b.tables.get? language := by
  rw [addFile]
  split_ifs with hstrings
  · dsimp only
    split
    · next read hread =>
      have hstem : Path.stem e.1 ≠ language := fun hstem => h ⟨hstrings, hstem⟩ read hread
      rw [announce, setTable, Table.get?_insert, if_neg hstem]
    · rfl
  · rfl

/-! ### All files -/

lemma mem_announced_foldl : language ∈ (es.foldl (addFile t folder) b).announced ↔
    language ∈ b.announced ∨ ∃ e ∈ es, Announces t folder language e := by
  induction es generalizing b with
  | nil => simp
  | cons e es ih =>
    rw [List.foldl_cons, ih, mem_announced_addFile, List.exists_mem_cons_iff, or_assoc]

lemma get?_tables_foldl_of_ne (h : ∀ e ∈ es, Announces t folder language e →
      ∀ read, Strings.load t (Path.join folder e.1) ≠ .ok read) :
    (es.foldl (addFile t folder) b).tables.get? language = b.tables.get? language := by
  induction es generalizing b with
  | nil => rfl
  | cons e es ih =>
    rw [List.forall_mem_cons] at h
    rw [List.foldl_cons, ih h.2, get?_tables_addFile_of_ne h.1]

/-- If no other file is named after its language, a file gives its table to the language wherever it
is listed. -/
lemma get?_tables_foldl_of_ok (he : e ∈ es) (hannounces : Announces t folder language e)
    (hload : Strings.load t (Path.join folder e.1) = .ok table)
    (honly : ∀ e' ∈ es, Announces t folder language e' → e'.1 = e.1) :
    (es.foldl (addFile t folder) b).tables.get? language = some table := by
  induction es using List.reverseRecOn with
  | nil => cases he
  | append_singleton es e' ih =>
    rw [List.foldl_concat]
    by_cases hannounces' : Announces t folder language e'
    · have hsame : e'.1 = e.1 := honly e' (List.mem_append_right _ List.mem_cons_self) hannounces'
      exact get?_tables_addFile_of_ok hannounces' (hsame ▸ hload)
    · have hmem : e ∈ es := by
        rcases List.mem_append.1 he with he | he
        · exact he
        · obtain rfl := List.mem_singleton.1 he
          exact absurd hannounces hannounces'
      rw [get?_tables_addFile_of_ne fun h => absurd h hannounces']
      exact ih hmem fun e' he' => honly e' (List.mem_append_left _ he')

/-! ### The phrasebook -/

lemma base_load (t : Files) (root base : String) : (load t root base).base = base := by
  have hfold : ∀ (es : List (String × FileEntry)) (b : Phrasebook),
      (es.foldl (addFile t (Path.join root "trans")) b).base = b.base := by
    intro es
    induction es with
    | nil => exact fun b => rfl
    | cons e es ih =>
      intro b
      rw [List.foldl_cons, ih, base_addFile]
  exact hfold _ _

section Load

variable (ht : t.Distinct)

include ht

lemma mem_languages_load : language ∈ (load t root base).languages ↔
    language = base ∨ ∃ name, HasFile t root language name := by
  have hnone : language ∉ (none base).announced := List.not_mem_nil
  rw [mem_languages, base_load, load, mem_announced_foldl, or_iff_right hnone]
  refine or_congr Iff.rfl ?_
  simp only [hasFile_iff ht, Prod.exists]

lemma get?_tables_load_of_ok (hone : OneFileEach t root) (hfile : HasFile t root language name)
    (hload : Strings.load t (Path.join (Path.join root "trans") name) = .ok table) :
    (load t root base).tables.get? language = some table := by
  obtain ⟨entry, hmem, hannounces⟩ := (hasFile_iff ht).1 hfile
  refine get?_tables_foldl_of_ok hmem hannounces hload fun e' he' hannounces' => ?_
  exact hone language e'.1 name ((hasFile_iff ht).2 ⟨e'.2, he', hannounces'⟩) hfile

lemma get?_tables_load_of_ne (h : ∀ name, HasFile t root language name →
      ∀ read, Strings.load t (Path.join (Path.join root "trans") name) ≠ .ok read) :
    (load t root base).tables.get? language = Option.none :=
  get?_tables_foldl_of_ne fun e he hannounces => h e.1 ((hasFile_iff ht).2 ⟨e.2, he, hannounces⟩)

end Load

/-! ### Other listings -/

lemma hasFile_reordered (h : t.Reordered t') :
    HasFile t' root language name ↔ HasFile t root language name := by
  constructor
  · rintro ⟨hnamed, hfile⟩
    simp only [h.holds_iff, h.isFile_eq] at hfile
    exact ⟨hnamed, hfile⟩
  · rintro ⟨hnamed, hfile⟩
    simp only [← h.holds_iff, ← h.isFile_eq] at hfile
    exact ⟨hnamed, hfile⟩

lemma OneFileEach.reordered (h : t.Reordered t') (hone : OneFileEach t root) :
    OneFileEach t' root := by
  intro language name name' hfile hfile'
  rw [hasFile_reordered h] at hfile hfile'
  exact hone language name name' hfile hfile'

lemma strings_load_reordered (h : t.Reordered t') (path : String) :
    Strings.load t' path = Strings.load t path := by
  rw [Strings.load, Strings.load, loadText, loadText, h.readText_eq]

/-- A phrasebook has the same tables whatever the order in which its files are listed. -/
lemma get?_tables_load_reordered (h : t.Reordered t') (hone : OneFileEach t root)
    (language : String) :
    (load t' root base).tables.get? language = (load t root base).tables.get? language := by
  by_cases hread : ∃ name table, HasFile t root language name ∧
      Strings.load t (Path.join (Path.join root "trans") name) = .ok table
  · obtain ⟨name, table, hfile, hload⟩ := hread
    rw [get?_tables_load_of_ok h.distinct hone hfile hload]
    refine get?_tables_load_of_ok h.distinct' (hone.reordered h) ((hasFile_reordered h).2 hfile) ?_
    rwa [strings_load_reordered h]
  · have hne (name : String) (hfile : HasFile t root language name) (read : Table String) :
        Strings.load t (Path.join (Path.join root "trans") name) ≠ .ok read :=
      fun hload => hread ⟨name, read, hfile, hload⟩
    rw [get?_tables_load_of_ne h.distinct hne]
    refine get?_tables_load_of_ne h.distinct' fun name hfile read => ?_
    rw [strings_load_reordered h]
    exact hne name ((hasFile_reordered h).1 hfile) read

/-- If no two files in the folder `trans` are named after one language, then the phrasebook of a
tree does not depend on the order in which they are listed.  It offers the base language and those
after which files are named, readable or not.  In a language other than the base language it has
another wording for the texts in the table of the file of that language, and for nothing else. -/
theorem load_of_reordered (h : t.Reordered t') (hone : OneFileEach t root) (base : String) :
    ((load t' root base).languages = (load t root base).languages ∧
        ∀ language text,
          (load t' root base).wording language text = (load t root base).wording language text) ∧
      (∀ language, language ∈ (load t root base).languages ↔
        language = base ∨ ∃ name, HasFile t root language name) ∧
      (∀ language name table, language ≠ base → HasFile t root language name →
        Strings.load t (Path.join (Path.join root "trans") name) = .ok table →
        ∀ text, (load t root base).wording language text = (table.get? text).getD text) ∧
      (∀ text, (load t root base).wording base text = text) ∧
      (∀ language name cause, HasFile t root language name →
        Strings.load t (Path.join (Path.join root "trans") name) = .error cause →
        ∀ text, (load t root base).wording language text = text) ∧
      ∀ language, (¬∃ name, HasFile t root language name) →
        ∀ text, (load t root base).wording language text = text := by
  have hbase := base_load t root base
  refine ⟨⟨languages_congr fun language => ?_, fun language text => ?_⟩,
    fun language => mem_languages_load h.distinct, ?_, ?_, ?_, ?_⟩
  · rw [mem_languages_load h.distinct, mem_languages_load h.distinct']
    simp only [hasFile_reordered h]
  · rw [wording, wording, hbase, base_load, get?_tables_load_reordered h hone]
  · intro language name table hne hfile hload text
    exact wording_of_get? (by rwa [hbase]) (get?_tables_load_of_ok h.distinct hone hfile hload) text
  · intro text
    have hwording := wording_base (load t root base) text
    rwa [hbase] at hwording
  · intro language name cause hfile hload text
    refine wording_of_get?_eq_none (get?_tables_load_of_ne h.distinct ?_) text
    intro name' hfile' read
    rw [hone language name' name hfile' hfile, hload]
    simp
  · intro language hno text
    exact wording_of_get?_eq_none
      (get?_tables_load_of_ne h.distinct fun name hfile => absurd ⟨name, hfile⟩ hno) text

end Phrasebook

/-! ### A tree in many languages -/

namespace Greeting

/-- A file of phrases that translates one greeting. -/
def stringsText : String := "<resources><string name=\"Hello\">Kumusta</string></resources>"

/-- What stands in the folder `T`: a phrase in Tagalog, to which Bisaya is a link, a file that
cannot be read, one for the base language, a link that leads nowhere, and a note. -/
def entries : List (List String × FileEntry) :=
  [(["T"], .folder), (["T", "trans"], .folder),
    (["T", "trans", "Tagalog.xml"], .file (some stringsText)),
    (["T", "trans", "Bisaya.XML"], .link "Tagalog.xml"),
    (["T", "trans", "Broken.xml"], .file (some "<resources><string>")),
    (["T", "trans", "English.xml"], .file (some stringsText)),
    (["T", "trans", "Ghost.xml"], .link "missing.xml"),
    (["T", "trans", "notes.txt"], .file (some "nothing"))]

/-- The file tree, listed in this order. -/
def files : Files := ⟨entries, []⟩

/-- The same file tree, listed the other way round. -/
def backwards : Files := ⟨entries.reverse, []⟩

lemma reordered : files.Reordered backwards := ⟨by decide, rfl, List.reverse_perm entries⟩

lemma resolve_trans : files.resolve true "T/trans" = .ok (.found ["T", "trans"] .folder) := by
  have hnames : Path.names "T/trans" = ["T", "trans"] := by cbv
  simp +decide [Files.resolve, Files.resolveNames, hnames, Files.resolveFrom, Files.entry?, files,
    entries]

lemma resolve_bisaya : files.resolve true "T/trans/Bisaya.XML" =
    .ok (.found ["T", "trans", "Tagalog.xml"] (.file (some stringsText))) := by
  have hnames : Path.names "T/trans/Bisaya.XML" = ["T", "trans", "Bisaya.XML"] := by cbv
  have htarget : Path.names "Tagalog.xml" = ["Tagalog.xml"] := by cbv
  simp +decide [Files.resolve, Files.resolveNames, hnames, htarget, Files.resolveFrom, Files.entry?,
    files, entries]

lemma path_trans : Path.join "T" "trans" = "T/trans" := by decide

lemma path_bisaya : Path.join "T/trans" "Bisaya.XML" = "T/trans/Bisaya.XML" := by decide

lemma hasFile_bisaya : Phrasebook.HasFile files "T" "Bisaya" "Bisaya.XML" := by
  refine ⟨⟨by decide, "XML", by cbv, by decide⟩, Or.inr ⟨"Tagalog.xml", ?_, ?_⟩⟩
  · rw [path_trans]
    exact ⟨_, resolve_trans, by decide⟩
  · rw [path_trans, path_bisaya, Files.isFile, resolve_bisaya]

lemma load_bisaya : Strings.load files (Path.join (Path.join "T" "trans") "Bisaya.XML") =
    .ok ⟨[("Hello", "Kumusta")], by decide⟩ := by
  have hread : Strings.read stringsText = .ok ⟨[("Hello", "Kumusta")], by decide⟩ := by cbv
  rw [path_trans, path_bisaya, Strings.load, loadText, Files.readText, resolve_bisaya]
  change (Strings.read stringsText).mapError Error.markup = _
  rw [hread]
  rfl

lemma oneFileEach : Phrasebook.OneFileEach files "T" := by
  intro language name name' h h'
  have hstems : ∀ e ∈ files.entries.filterMap (Files.child? ["T", "trans"]),
      ∀ e' ∈ files.entries.filterMap (Files.child? ["T", "trans"]),
      Path.stem e.1 = Path.stem e'.1 → e.1 = e'.1 := by
    decide
  rw [Phrasebook.hasFile_iff reordered.distinct, path_trans, Files.list_eq resolve_trans] at h h'
  obtain ⟨entry, hmem, hannounces⟩ := h
  obtain ⟨entry', hmem', hannounces'⟩ := h'
  exact hstems _ hmem _ hmem' (hannounces.stem.trans hannounces'.stem.symm)

end Greeting

/-- However the folder is listed, the link to the phrase in Tagalog serves Bisaya, and the file for
the base language is not looked at. -/
theorem Phrasebook.load_of_reordered_greeting :
    Greeting.files.Reordered Greeting.backwards ∧ OneFileEach Greeting.files "T" ∧
      (load Greeting.backwards "T" "English").languages =
        (load Greeting.files "T" "English").languages ∧
      (load Greeting.backwards "T" "English").wording "Bisaya" "Hello" = "Kumusta" ∧
      (load Greeting.files "T" "English").wording "English" "Hello" = "Hello" := by
  obtain ⟨⟨hlanguages, hwording⟩, -, hread, hbase, -⟩ :=
    load_of_reordered Greeting.reordered Greeting.oneFileEach "English"
  refine ⟨Greeting.reordered, Greeting.oneFileEach, hlanguages, ?_, hbase "Hello"⟩
  rw [hwording, hread _ _ _ (by decide) Greeting.hasFile_bisaya Greeting.load_bisaya]
  rfl

end Walkthrough
