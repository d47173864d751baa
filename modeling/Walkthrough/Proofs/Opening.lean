import Walkthrough.Proofs.Declarations
import Walkthrough.Proofs.InsideTrees
import Walkthrough.Proofs.LoadedLanguages
import Walkthrough.Proofs.LeftBehind

/-!
# Opening a tree

A tree is opened if its folder holds a document that can be read and that says where to start; what
else stands in the folder has no part in it.  This file says what is asked of the document, in the
order in which it is looked at, and that the error of a tree that is not opened names the first of
these that fails.  The argument is the same at each stage: what is asked is either there, and the
stage hands it on, or it is not there, and the stage fails with the error for it.  As one of the two
is always the case, the errors are exactly those that are listed, and the trees that are opened are
all the others.
-/

namespace Walkthrough

open Markup (Element)

/-! ### What is asked of a tree -/

/-- The path of the file in a folder that is called after the name of the folder. -/
def documentIn (folder name : String) : String := Path.join folder (Path.stem name ++ ".xml")

/-- Whether the document of a tree is the file at a path: the folder is one and has a name, and the
file that is called after it is there. -/
structure Located (files : Files) (folder path : String) : Prop where
  isFolder : files.isFolder folder = true
  named : ∃ name, Path.fileName? folder = some name ∧ path = documentIn folder name
  isFile : files.isFile path = true

/-- Whether the file of the document has a text. -/
def HoldsText (files : Files) (folder text : String) : Prop :=
  ∃ path, Located files folder path ∧ files.readText path = .ok text

/-- Whether this text is a document. -/
def HoldsDocument (files : Files) (folder : String) (d : Document) : Prop :=
  ∃ text, HoldsText files folder text ∧ Markup.read text = .ok d.root

/-- Whether the start state of a document, or the first of several, has a first transition to a
name, which is not empty. -/
def Document.StartsAt (d : Document) (name : String) : Prop :=
  ∃ start transition, d.root.firstChild? "start-state" = some start ∧
    start.firstChild? "transition" = some transition ∧
    transition.attribute? "to" = some name ∧ name ≠ ""

/-- Why a tree is not opened.  Each cause presupposes that none of those above it applies. -/
inductive Prevented (files : Files) (folder : String) : Error → Prop
  | notFolder (hfolder : files.isFolder folder = false) :
    Prevented files folder (.notFolder folder)
  | badPath (hfolder : files.isFolder folder = true) (hname : Path.fileName? folder = none) :
    Prevented files folder (.badPath folder)
  | noDocument {name : String} (hfolder : files.isFolder folder = true)
    (hname : Path.fileName? folder = some name)
    (hfile : files.isFile (documentIn folder name) = false) :
    Prevented files folder (.noDocument (documentIn folder name))
  | notText {path : String} (hpath : Located files folder path)
    (htext : files.readText path = .error .notText) : Prevented files folder (.file .notText)
  | markup {text : String} {cause : Markup.Error} (htext : HoldsText files folder text)
    (hroot : Markup.read text = .error cause) : Prevented files folder (.markup cause)
  | otherRoot {text : String} {root : Element} (htext : HoldsText files folder text)
    (hroot : Markup.read text = .ok root) (hname : root.name ≠ "process-definition") :
    Prevented files folder (.otherRoot root.name)
  | noStart {d : Document} (hd : HoldsDocument files folder d)
    (hstart : ∀ name, ¬d.StartsAt name) : Prevented files folder .noStart
  | startNotFound {d : Document} {name : String} (hd : HoldsDocument files folder d)
    (hstart : d.StartsAt name) (hname : ∀ kind, (kind, name) ∉ d.nodeNames) :
    Prevented files folder (.startNotFound name)

/-- Whether a tree has all that is asked of it: a document that starts at one of its nodes. -/
structure Opens (files : Files) (folder : String) (d : Document) (name : String) : Prop where
  document : HoldsDocument files folder d
  start : d.StartsAt name
  node : ∃ kind, (kind, name) ∈ d.nodeNames

variable {files files' : Files} {folder path name text : String} {d : Document} {cause : Error}
  {settings : Settings} {now : Moment}

lemma readText_of_isFile (h : files.isFile path = true) :
    files.readText path = .error .notText ∨ ∃ text, files.readText path = .ok text := by
  rw [Files.isFile] at h
  split at h
  · next place text hresolve =>
    cases text with
    | none => exact Or.inl (by rw [Files.readText, hresolve])
    | some text => exact Or.inr ⟨text, by rw [Files.readText, hresolve]⟩
  · cases h

/-- A tree that nothing prevents from being opened has all that is asked of it. -/
lemma exists_opens (h : ∀ cause, ¬Prevented files folder cause) :
    ∃ d name, Opens files folder d name := by
  have hfolder : files.isFolder folder = true := by
    rw [← Bool.not_eq_false]
    intro hnot
    exact h _ (.notFolder hnot)
  obtain ⟨file, hfile⟩ : ∃ file, Path.fileName? folder = some file := by
    rw [← Option.ne_none_iff_exists']
    intro hnone
    exact h _ (.badPath hfolder hnone)
  have hisFile : files.isFile (documentIn folder file) = true := by
    rw [← Bool.not_eq_false]
    intro hnot
    exact h _ (.noDocument hfolder hfile hnot)
  have hpath : Located files folder _ := ⟨hfolder, ⟨file, hfile, rfl⟩, hisFile⟩
  obtain ⟨text, hread⟩ := (readText_of_isFile hisFile).resolve_left fun hbytes =>
    h _ (.notText hpath hbytes)
  have htext : HoldsText files folder text := ⟨_, hpath, hread⟩
  obtain ⟨root, hroot⟩ : ∃ root, Markup.read text = .ok root := by
    cases hmarkup : Markup.read text with
    | error cause => exact absurd (.markup htext hmarkup) (h _)
    | ok root => exact ⟨root, rfl⟩
  have htag : root.name = "process-definition" := by
    by_contra hother
    exact h _ (.otherRoot htext hroot hother)
  obtain ⟨d, rfl⟩ : ∃ d : Document, d.root = root := ⟨{ root := root, root_name := htag }, rfl⟩
  have hd : HoldsDocument files folder d := ⟨text, htext, hroot⟩
  obtain ⟨name, hstart⟩ : ∃ name, d.StartsAt name := by
    by_contra hnone
    exact h _ (.noStart hd (not_exists.1 hnone))
  refine ⟨d, name, hd, hstart, ?_⟩
  by_contra hnone
  exact h _ (.startNotFound hd hstart (not_exists.1 hnone))

/-! ### Documents -/

namespace Document

lemma start?_eq_some : d.start? = some name ↔ d.StartsAt name := by
  rw [start?]
  simp only [Option.bind_eq_bind, Option.bind_eq_some_iff, Option.ite_none_left_eq_some]
  constructor
  · rintro ⟨start, hstart, transition, htransition, target, htarget, hne, hsame⟩
    obtain rfl := Option.some.inj hsame
    exact ⟨start, transition, hstart, htransition, htarget, by simpa using hne⟩
  · rintro ⟨start, transition, hstart, htransition, htarget, hne⟩
    exact ⟨start, hstart, transition, htransition, name, htarget, by simpa using hne, rfl⟩

lemma eq_of_root {d' : Document} (h : d.root = d'.root) : d = d' := by
  obtain ⟨root, hname, declarations, hdeclarations⟩ := d
  obtain ⟨root', hname', declarations', hdeclarations'⟩ := d'
  obtain rfl : root = root' := h
  obtain rfl := hdeclarations
  obtain rfl := hdeclarations'
  rfl

lemma read_of_root (h : Markup.read text = .ok d.root) : read text = .ok d := by
  rw [read, h]
  simp only [ofRoot?, d.root_name, dif_pos]
  exact congrArg Except.ok (eq_of_root rfl)

lemma read_of_other {root : Element} (h : Markup.read text = .ok root)
    (hname : root.name ≠ "process-definition") : read text = .error (.otherRoot root.name) := by
  rw [read, h]
  simp only [ofRoot?, hname, dif_neg, not_false_eq_true]

end Document

/-! ### Loading -/

lemma Located.documentPath_eq (h : Located files folder path) :
    documentPath files folder = .ok path := by
  obtain ⟨name, hname, rfl⟩ := h.named
  have hfile := h.isFile
  rw [documentIn] at hfile
  simp [documentPath, documentIn, h.isFolder, hname, hfile]

lemma Document.load_of_text (h : HoldsText files folder text) :
    Document.load files folder = Document.read text := by
  obtain ⟨path, hpath, htext⟩ := h
  rw [Document.load_of_documentPath hpath.documentPath_eq, loadText, htext]
  rfl

lemma Document.load_of_holds (h : HoldsDocument files folder d) :
    Document.load files folder = .ok d := by
  obtain ⟨text, htext, hroot⟩ := h
  rw [Document.load_of_text htext, Document.read_of_root hroot]

/-! ### Starting -/

namespace Walk

variable {t : Tree}

lemma start_of_noStart (h : ∀ name, ¬t.document.StartsAt name) :
    start t now = .error .noStart := by
  have hnone : t.document.start? = none := by
    rw [Option.eq_none_iff_forall_ne_some]
    intro name hname
    exact h name (Document.start?_eq_some.1 hname)
  rw [start, hnone]

lemma start_of_notFound (hstart : t.document.StartsAt name)
    (hname : ∀ kind, (kind, name) ∉ t.document.nodeNames) :
    start t now = .error (.startNotFound name) := by
  have hstop : t.stop? now t.firstLanguage name = none := by
    rw [Tree.stop?, ← Option.not_isSome_iff_eq_none, Document.isSome_stop?, Document.contains_iff]
    exact not_exists.2 hname
  rw [start, Document.start?_eq_some.2 hstart]
  simp only [startAt?, hstop, Option.map_none]

lemma exists_start (now : Moment) (hstart : t.document.StartsAt name)
    (hname : ∃ kind, (kind, name) ∈ t.document.nodeNames) :
    ∃ w, start t now = .ok w ∧ w.tree = t ∧ w.language = t.firstLanguage ∧
      w.history = [name] := by
  have hstop : (t.stop? now t.firstLanguage name).isSome = true := by
    rw [Tree.stop?, Document.isSome_stop?, Document.contains_iff]
    exact hname
  obtain ⟨stop, hstop⟩ := Option.isSome_iff_exists.1 hstop
  rw [start, Document.start?_eq_some.2 hstart]
  simp only [startAt?, hstop, Option.map_some]
  exact ⟨_, rfl, rfl, rfl, rfl⟩

end Walk

/-! ### Opening -/

/-- How a walk begins that is opened on a document, at a name: the base language is among those that
are offered, the walk speaks the language of the settings or else that one, and it has come nowhere
yet. -/
structure Walk.Begins (w : Walk) (settings : Settings) (d : Document) (name : String) : Prop where
  document : w.tree.document = d
  base : w.tree.phrases.base = d.baseLanguage
  offered : w.tree.phrases.base ∈ w.tree.phrases.languages
  language : w.language = settings.language.getD w.tree.phrases.base
  history : w.history = [name]

/-- Whether the file that should hold the document of a tree is the same in two file trees, whatever
else they hold. -/
structure SameDocument (files files' : Files) (folder : String) : Prop where
  isFolder : files.isFolder folder = files'.isFolder folder
  isFile : ∀ name, Path.fileName? folder = some name →
    files.isFile (documentIn folder name) = files'.isFile (documentIn folder name)
  readText : ∀ name, Path.fileName? folder = some name →
    files.readText (documentIn folder name) = files'.readText (documentIn folder name)

namespace SameDocument

variable (h : SameDocument files files' folder)

include h

lemma located (hpath : Located files folder path) : Located files' folder path := by
  obtain ⟨hfolder, ⟨name, hname, rfl⟩, hfile⟩ := hpath
  exact ⟨h.isFolder ▸ hfolder, ⟨name, hname, rfl⟩, h.isFile name hname ▸ hfile⟩

lemma readText_eq (hpath : Located files folder path) :
    files.readText path = files'.readText path := by
  obtain ⟨-, ⟨name, hname, rfl⟩, -⟩ := hpath
  exact h.readText name hname

lemma holdsText (htext : HoldsText files folder text) : HoldsText files' folder text := by
  obtain ⟨path, hpath, hread⟩ := htext
  exact ⟨path, h.located hpath, h.readText_eq hpath ▸ hread⟩

lemma holdsDocument (hd : HoldsDocument files folder d) : HoldsDocument files' folder d := by
  obtain ⟨text, htext, hroot⟩ := hd
  exact ⟨text, h.holdsText htext, hroot⟩

lemma opens (hopens : Opens files folder d name) : Opens files' folder d name :=
  ⟨h.holdsDocument hopens.document, hopens.start, hopens.node⟩

lemma prevented (hcause : Prevented files folder cause) : Prevented files' folder cause := by
  cases hcause with
  | notFolder hfolder => exact .notFolder (h.isFolder ▸ hfolder)
  | badPath hfolder hname => exact .badPath (h.isFolder ▸ hfolder) hname
  | noDocument hfolder hname hfile =>
    exact .noDocument (h.isFolder ▸ hfolder) hname (h.isFile _ hname ▸ hfile)
  | notText hpath htext => exact .notText (h.located hpath) (h.readText_eq hpath ▸ htext)
  | markup htext hroot => exact .markup (h.holdsText htext) hroot
  | otherRoot htext hroot hname => exact .otherRoot (h.holdsText htext) hroot hname
  | noStart hd hstart => exact .noStart (h.holdsDocument hd) hstart
  | startNotFound hd hstart hname => exact .startNotFound (h.holdsDocument hd) hstart hname

end SameDocument

namespace CommandLine

lemma openWalk_of_documentPath (h : documentPath files folder = .error cause) :
    openWalk files folder settings now = .error cause := by
  rw [openWalk, Tree.load, Document.load, h]
  rfl

lemma openWalk_of_read (h : HoldsText files folder text)
    (hread : Document.read text = .error cause) :
    openWalk files folder settings now = .error cause := by
  rw [openWalk, Tree.load, Document.load_of_text h, hread]
  rfl

/-- Once the document is there, the rest of the tree is loaded without fail. -/
lemma exists_tree (h : HoldsDocument files folder d) (settings : Settings) :
    ∃ t, t.document = d ∧ t.settings = settings ∧
      t.phrases = Phrasebook.load files folder d.baseLanguage ∧
      ∀ now, openWalk files folder settings now = Walk.start t now := by
  have hload := Document.load_of_holds h
  obtain ⟨t, ht, hdocument, hsettings, hphrases⟩ : ∃ t, Tree.load files folder settings = .ok t ∧
      t.document = d ∧ t.settings = settings ∧
      t.phrases = Phrasebook.load files folder d.baseLanguage := by
    rw [Tree.load, hload]
    exact ⟨_, rfl, rfl, rfl, rfl⟩
  refine ⟨t, hdocument, hsettings, hphrases, ?_⟩
  intro now
  rw [openWalk, ht]
  rfl

lemma openWalk_of_prevented (h : Prevented files folder cause) :
    openWalk files folder settings now = .error cause := by
  cases h with
  | notFolder hfolder => exact openWalk_of_documentPath (by simp [documentPath, hfolder])
  | badPath hfolder hname =>
    exact openWalk_of_documentPath (by simp [documentPath, hfolder, hname])
  | noDocument hfolder hname hfile =>
    rw [documentIn] at hfile ⊢
    exact openWalk_of_documentPath (by simp [documentPath, hfolder, hname, hfile])
  | notText hpath htext =>
    rw [openWalk, Tree.load, Document.load_of_documentPath hpath.documentPath_eq, loadText, htext]
    rfl
  | markup htext hroot => exact openWalk_of_read htext (by rw [Document.read, hroot])
  | otherRoot htext hroot hname => exact openWalk_of_read htext (Document.read_of_other hroot hname)
  | noStart hd hstart =>
    obtain ⟨t, rfl, -, -, hwalk⟩ := exists_tree hd settings
    rw [hwalk, Walk.start_of_noStart hstart]
  | startNotFound hd hstart hname =>
    obtain ⟨t, rfl, -, -, hwalk⟩ := exists_tree hd settings
    rw [hwalk, Walk.start_of_notFound hstart hname]

lemma exists_openWalk (h : Opens files folder d name) (settings : Settings) (now : Moment) :
    ∃ w, openWalk files folder settings now = .ok w ∧ w.Begins settings d name := by
  obtain ⟨t, rfl, rfl, hphrases, hwalk⟩ := exists_tree h.document settings
  obtain ⟨w, hstart, rfl, hlanguage, hhistory⟩ := Walk.exists_start now h.start h.node
  have hbase : w.tree.phrases.base = w.tree.document.baseLanguage := by
    rw [hphrases, Phrasebook.base_load]
  refine ⟨w, (hwalk now).trans hstart, rfl, hbase, Phrasebook.base_mem_languages _, ?_, hhistory⟩
  rw [hlanguage, Tree.firstLanguage, hbase]

/-- Nothing prevents a tree that is opened, so it has all that is asked of it. -/
lemma begins_of_openWalk {w : Walk} (h : openWalk files folder settings now = .ok w) :
    ∃ d name, Opens files folder d name ∧ w.Begins settings d name := by
  obtain ⟨d, name, hopens⟩ : ∃ d name, Opens files folder d name := by
    refine exists_opens fun cause hcause => ?_
    rw [openWalk_of_prevented hcause] at h
    cases h
  obtain ⟨w', hw', hbegins⟩ := exists_openWalk hopens settings now
  obtain rfl := Except.ok.inj (h.symm.trans hw')
  exact ⟨d, name, hopens, hbegins⟩

/-- Conversely, something prevents a tree that is not opened, and the error names it. -/
lemma prevented_of_openWalk (h : openWalk files folder settings now = .error cause) :
    Prevented files folder cause := by
  by_contra hnot
  obtain ⟨d, name, hopens⟩ : ∃ d name, Opens files folder d name := by
    refine exists_opens fun cause' hcause => hnot ?_
    rw [openWalk_of_prevented hcause] at h
    exact Except.error.inj h ▸ hcause
  obtain ⟨w, hw, -⟩ := exists_openWalk hopens settings now
  rw [hw] at h
  cases h

/-- Only the document matters to whether a tree is opened and where its walks begin. -/
lemma sameAttempt_openWalk (h : SameDocument files files' folder) (settings : Settings)
    (now : Moment) :
    SameAttempt (fun w w' => w'.tree.document = w.tree.document ∧ w'.history = w.history ∧
      w'.language = w.language)
      (openWalk files folder settings now) (openWalk files' folder settings now) := by
  cases hopen : openWalk files folder settings now with
  | error cause =>
    rw [openWalk_of_prevented (h.prevented (prevented_of_openWalk hopen))]
    exact .error cause
  | ok w =>
    obtain ⟨d, name, hopens, hbegins⟩ := begins_of_openWalk hopen
    obtain ⟨w', hw', hbegins'⟩ := exists_openWalk (h.opens hopens) settings now
    rw [hw']
    refine .ok ⟨hbegins'.document.trans hbegins.document.symm,
      hbegins'.history.trans hbegins.history.symm, ?_⟩
    rw [hbegins'.language, hbegins.language, hbegins'.base, hbegins.base]

/-- A tree is opened just if it has all that is asked of its document, and the walk then begins at
its start; otherwise the error is that of the first thing that is not there.  What is not asked for,
be it missing or broken, prevents nothing. -/
theorem openWalk_by_document (files : Files) (folder : String) (settings : Settings)
    (now : Moment) :
    (∀ cause, openWalk files folder settings now = .error cause ↔
      Prevented files folder cause) ∧
    ((∃ w, openWalk files folder settings now = .ok w) ↔
      ∃ d name, Opens files folder d name) ∧
    (∀ w d name, openWalk files folder settings now = .ok w → Opens files folder d name →
      w.Begins settings d name) ∧
    ∀ files', SameDocument files files' folder →
      SameAttempt (fun w w' => w'.tree.document = w.tree.document ∧ w'.history = w.history ∧
        w'.language = w.language)
        (openWalk files folder settings now) (openWalk files' folder settings now) := by
  refine ⟨?_, ?_, ?_, ?_⟩
  · intro cause
    exact ⟨prevented_of_openWalk, openWalk_of_prevented⟩
  · constructor
    · rintro ⟨w, hw⟩
      obtain ⟨d, name, hopens, -⟩ := begins_of_openWalk hw
      exact ⟨d, name, hopens⟩
    · rintro ⟨d, name, hopens⟩
      obtain ⟨w, hw, -⟩ := exists_openWalk hopens settings now
      exact ⟨w, hw⟩
  · intro w d name hw hopens
    obtain ⟨w', hw', hbegins⟩ := exists_openWalk hopens settings now
    obtain rfl := Except.ok.inj (hw.symm.trans hw')
    exact hbegins
  · intro files' h
    exact sameAttempt_openWalk h settings now

end CommandLine

/-! ### A spoiled picnic -/

namespace Picnic

lemma names_document : Path.names "T/T.xml" = ["T", "T.xml"] := by cbv

/-- The tree with wording that is cut short or no text, a file in place of the hints, and links that
lead nowhere in place of the media. -/
def spoiled : Files where
  entries := Picnic.files.entries ++ [(["T", "trans"], .folder),
    (["T", "trans", "French.xml"], .file (some "<resources>")),
    (["T", "trans", "Greek.xml"], .file none), (["T", "hints"], .file none),
    (["T", "res"], .link "nowhere"), (["T", "audio"], .link "audio")]
  working := []

lemma resolve_document :
    Picnic.files.resolve true "T/T.xml" =
      .ok (.found ["T", "T.xml"] (.file (some documentText))) := by
  simp +decide [Files.resolve, Files.resolveNames, names_document, Files.resolveFrom, Files.entry?,
    Picnic.files]

lemma resolve_document_spoiled :
    spoiled.resolve true "T/T.xml" = .ok (.found ["T", "T.xml"] (.file (some documentText))) := by
  simp +decide [Files.resolve, Files.resolveNames, names_document, Files.resolveFrom, Files.entry?,
    Picnic.files, spoiled]

lemma documentIn_eq {name : String} (h : Path.fileName? "T" = some name) :
    documentIn "T" name = "T/T.xml" := by
  have hname : Path.fileName? "T" = some "T" := by cbv
  obtain rfl := Option.some.inj (hname.symm.trans h)
  decide

lemma sameDocument : SameDocument Picnic.files spoiled "T" := by
  refine ⟨by cbv, ?_, ?_⟩
  · intro name hname
    rw [documentIn_eq hname, Files.isFile, Files.isFile, resolve_document, resolve_document_spoiled]
  · intro name hname
    rw [documentIn_eq hname, Files.readText, Files.readText, resolve_document,
      resolve_document_spoiled]

lemma opens : Opens Picnic.files "T" document "textDisplay~Eat" := by
  have hpath : Located Picnic.files "T" "T/T.xml" :=
    ⟨by cbv, ⟨"T", by cbv, by decide⟩, by rw [Files.isFile, resolve_document]⟩
  have htext : Picnic.files.readText "T/T.xml" = .ok documentText := by
    rw [Files.readText, resolve_document]
  have hroot : Markup.read documentText = .ok document.root := by cbv
  exact ⟨⟨_, ⟨_, hpath, htext⟩, hroot⟩, Document.start?_eq_some.1 (by decide), .task, by decide⟩

end Picnic

namespace CommandLine

/-- The picnic is opened, and it still is when all but its document is spoiled. -/
theorem openWalk_by_document_picnic :
    ∃ w, openWalk Picnic.spoiled "T" .default Errand.midnight = .ok w ∧
      w.history = ["textDisplay~Eat"] ∧ w.tree.phrases.base ∈ w.tree.phrases.languages := by
  obtain ⟨-, hopens, hbegins, hsame⟩ :=
    openWalk_by_document Picnic.files "T" .default Errand.midnight
  obtain ⟨-, -, hbegins', -⟩ := openWalk_by_document Picnic.spoiled "T" .default Errand.midnight
  obtain ⟨w, hw⟩ := hopens.2 ⟨_, _, Picnic.opens⟩
  have hhistory := (hbegins w _ _ hw Picnic.opens).history
  have hattempt := hsame Picnic.spoiled Picnic.sameDocument
  rw [hw] at hattempt
  generalize hw' : openWalk Picnic.spoiled "T" .default Errand.midnight = attempt at hattempt
  cases hattempt with
  | @ok _ w' hsame' =>
    have hopens' := Picnic.sameDocument.opens Picnic.opens
    exact ⟨w', rfl, hsame'.2.1.trans hhistory, (hbegins' w' _ _ hw' hopens').offered⟩

end CommandLine

end Walkthrough
