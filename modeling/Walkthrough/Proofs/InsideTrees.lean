import Mathlib
import Walkthrough.CommandLine.Run
import Walkthrough.Proofs.Reached
import Walkthrough.Proofs.StayingBelow

/-!
# What a tree is read from

The document, the wording and the images of a tree come from inside its folder.  So do its hints and
sounds in a language, unless the name of the language is a path that leads out of the folder, which
is not checked.  Main statement: over two file trees in which the same stands below the folder of a
tree, opening it fails in the same way or gives trees that differ at most in their hints and sounds
for such languages; and as long as no such language is spoken, walks over the two trees do the same
and show the same.
-/

namespace Walkthrough

open Walkthrough.Path (IsName StaysInside)
open Files (SameBelow)

/-- Whether two attempts fail for the same reason, or both succeed with results that are related. -/
inductive SameAttempt {ε α : Type} (r : α → α → Prop) : Except ε α → Except ε α → Prop
  | error (cause : ε) : SameAttempt r (.error cause) (.error cause)
  | ok {a b : α} (h : r a b) : SameAttempt r (.ok a) (.ok b)

variable {t t' : Files} {root : String}

/-! ### The document -/

lemma isName_stem_xml {path name : String} (h : Path.fileName? path = some name) :
    IsName (Path.stem name ++ ".xml") := by
  refine Path.isName_xml fun hslash => ?_
  have hname : '/' ∉ name.toList := by
    rw [Path.fileName?, Option.filter_eq_some_iff] at h
    exact Path.no_slash_of_mem_names (List.mem_filter.1 (List.mem_of_getLast? h.1)).1
  refine hname ?_
  rw [Path.stem, Path.splitExtension] at hslash
  split at hslash
  · next stem extension hcut =>
    -- the stem is the name up to a dot
    obtain ⟨cut, hmem, hcut⟩ := List.mem_map.1 (List.mem_of_getLast? hcut)
    have hsplit := Text.eq_of_mem_cutsOf hmem
    split_ifs at hslash
    · exact hslash
    · obtain ⟨rfl, -⟩ := Prod.mk.inj hcut
      rw [String.toList_ofList] at hslash
      rw [hsplit]
      exact List.mem_append_left _ hslash
  · exact hslash

lemma exists_of_documentPath {path : String} (h : documentPath t root = .ok path) :
    t.isFolder root = true ∧ ∃ name, IsName name ∧ path = Path.join root name := by
  rw [documentPath] at h
  split at h
  · cases h
  · next hfolder =>
    refine ⟨by simpa using hfolder, ?_⟩
    split at h
    · cases h
    · next name hname =>
      refine ⟨Path.stem name ++ ".xml", isName_stem_xml hname, ?_⟩
      dsimp only at h
      split at h
      · exact (Except.ok.inj h).symm
      · cases h

lemma Document.load_of_documentPath {path : String} (h : documentPath t root = .ok path) :
    Document.load t root = loadText t path >>= Document.read := by
  rw [Document.load, h]
  rfl

/-- A document is read from the file named after the folder that the root leads to. -/
lemma Document.load_of_resolve {name path text : String} {folder place : List String}
    {document : Document} (hname : Path.fileName? root = some name)
    (hpath : Path.join root (Path.stem name ++ ".xml") = path)
    (hroot : t.resolve true root = .ok (.found folder .folder))
    (hfile : t.resolve true path = .ok (.found place (.file (some text))))
    (hread : Document.read text = .ok document) : Document.load t root = .ok document := by
  have hfolder : t.isFolder root = true := by rw [Files.isFolder, hroot]
  have hisFile : t.isFile path = true := by rw [Files.isFile, hfile]
  have hlocate : documentPath t root = .ok path := by
    simp [documentPath, hfolder, hname, hpath, hisFile]
  have htext : loadText t path = .ok text := by
    rw [loadText, Files.readText, hfile]
    rfl
  rw [Document.load_of_documentPath hlocate, htext]
  exact hread

lemma Document.isFolder_of_load {document : Document} (h : Document.load t root = .ok document) :
    t.isFolder root = true := by
  cases hpath : documentPath t root with
  | error cause =>
    rw [Document.load, hpath] at h
    cases h
  | ok path => exact (exists_of_documentPath hpath).1

namespace Files.SameBelow

variable (h : SameBelow root t t')

include h

lemma documentPath_eq : documentPath t root = documentPath t' root := by
  rw [documentPath, documentPath, ← h.isFolder_eq]
  split_ifs with hfolder
  · rfl
  · cases hname : Path.fileName? root with
    | none => rfl
    | some name =>
      have hxml := isName_stem_xml hname
      have hroot : t.isFolder root = true := by simpa using hfolder
      simp only [h.isFile_join hroot hxml.isAbsolute (hxml.staysBelow 0)]

lemma document_eq : Document.load t root = Document.load t' root := by
  cases hpath : documentPath t root with
  | error cause =>
    rw [Document.load, Document.load, ← h.documentPath_eq, hpath]
    rfl
  | ok path =>
    have hpath' : documentPath t' root = .ok path := h.documentPath_eq ▸ hpath
    obtain ⟨hfolder, name, hname, rfl⟩ := exists_of_documentPath hpath
    have hread := h.readText_join hfolder hname.isAbsolute (hname.staysBelow 0)
    rw [Document.load_of_documentPath hpath, Document.load_of_documentPath hpath', loadText,
      loadText, hread]

/-! ### Wording, hints and media -/

variable (hroot : t.isFolder root = true)

include hroot

lemma strings_eq {folder path : String} (hfolder : IsName folder) (hpath : StaysInside path) :
    Strings.load t (Path.join (Path.join root folder) path) =
      Strings.load t' (Path.join (Path.join root folder) path) := by
  rw [Strings.load, Strings.load, loadText, loadText, h.readText_inside hroot hfolder hpath]

lemma phrasebook_eq (base : String) :
    Phrasebook.load t root base = Phrasebook.load t' root base := by
  have htrans : IsName "trans" := by decide
  rw [Phrasebook.load, Phrasebook.load, h.list_join_name hroot htrans]
  refine List.foldl_ext _ _ _ fun b e he => ?_
  have hinside : StaysInside e.1 := (h.plain'.isName_of_mem_list he).staysInside
  have hfile : t.leadsToFile (Path.join root "trans") e =
      t'.leadsToFile (Path.join root "trans") e := by
    rw [leadsToFile, leadsToFile, h.isFile_inside hroot htrans hinside]
  rw [Phrasebook.addFile, Phrasebook.addFile, hfile, h.strings_eq hroot htrans hinside]

lemma glossary_eq {language : String} (hlanguage : StaysInside language) :
    Glossary.load t root language = Glossary.load t' root language := by
  have hhints : IsName "hints" := by decide
  simp only [Glossary.load, h.isFile_inside hroot hhints hlanguage.xml,
    h.strings_eq hroot hhints hlanguage.xml]

lemma findImage_eq : Assets.findImage t root = Assets.findImage t' root := by
  funext image
  simp only [Assets.findImage, fileNames, h.list_join_name hroot (a := "res") (by decide)]

lemma findAudio_eq (audio : String) {language : String} (hlanguage : StaysInside language) :
    Assets.findAudio t root audio language = Assets.findAudio t' root audio language := by
  have haudio : IsName "audio" := by decide
  simp only [Assets.findAudio, Assets.findAudioIn, fileNames, h.list_join_name hroot haudio,
    h.list_inside hroot haudio hlanguage]

end Files.SameBelow

/-! ### Trees -/

/-- Whether two trees differ at most in the hints and sounds for languages whose names lead out of
the folder of a tree. -/
structure Tree.Twin (T T' : Tree) : Prop where
  folder : T.folder = T'.folder
  document : T.document = T'.document
  phrases : T.phrases = T'.phrases
  settings : T.settings = T'.settings
  image : T.assets.image = T'.assets.image
  audio : ∀ language, StaysInside language →
    ∀ name, T.assets.audio name language = T'.assets.audio name language
  glossary : ∀ language, StaysInside language → T.glossary language = T'.glossary language

/-- A tree is loaded from what stands below its root. -/
lemma Tree.load_twin (h : SameBelow root t t') (settings : Settings) :
    SameAttempt Tree.Twin (Tree.load t root settings) (Tree.load t' root settings) := by
  cases hdocument : Document.load t root with
  | error cause =>
    rw [Tree.load, Tree.load, ← h.document_eq, hdocument]
    exact .error cause
  | ok document =>
    have hroot := Document.isFolder_of_load hdocument
    rw [Tree.load, Tree.load, ← h.document_eq, hdocument]
    exact .ok ⟨rfl, rfl, h.phrasebook_eq hroot _, rfl, h.findImage_eq hroot,
      fun _ hlanguage name => h.findAudio_eq hroot name hlanguage,
      fun _ hlanguage => h.glossary_eq hroot hlanguage⟩

namespace Tree.Twin

variable {T T' : Tree} (h : T.Twin T')

include h

lemma firstLanguage_eq : T.firstLanguage = T'.firstLanguage := by
  rw [firstLanguage, firstLanguage, h.settings, h.document]

lemma stop?_eq {language : String} (hlanguage : StaysInside language) (now : Moment)
    (name : String) : T.stop? now language name = T'.stop? now language name := by
  have haudio : (fun sound => T.assets.audio sound language) =
      fun sound => T'.assets.audio sound language := funext (h.audio language hlanguage)
  simp only [stop?, presentation, h.document, h.phrases, h.image, haudio, h.settings]

end Tree.Twin

/-! ### Walks -/

/-- Whether an action does not switch to a language whose name leads out of the folder of a tree. -/
def Action.SpeaksInside (a : Action) : Prop :=
  ∀ language, a = .speak language → StaysInside language

namespace Walk

/-- The walk over another tree. -/
def onTree (w : Walk) (T : Tree) : Walk := { w with tree := T }

/-- Whether two walks over twin trees are the same, in a language that stays inside. -/
structure Twin (w w' : Walk) : Prop where
  tree : w.tree.Twin w'.tree
  same : w' = w.onTree w'.tree
  inside : StaysInside w.language

variable {w w' : Walk} {T T' : Tree} {a : Action}

section Over

variable (htree : w.tree.Twin T) (hinside : StaysInside w.language)

include htree

lemma nextName?_onTree : (w.onTree T).nextName? = w.nextName? := by
  rw [nextName?, nextName?, htree.settings]
  rfl

lemma save_onTree : (w.onTree T).save = w.save.onTree T := by
  have hrecord : (w.onTree T).record = w.record := by
    rw [record, record, key, key, htree.settings]
    rfl
  rw [save, save, hrecord]
  rfl

lemma speak_onTree {language : String} (hlanguage : StaysInside language) :
    (w.onTree T).speak language = (w.speak language).onTree T := by
  have hbuild : T.stop? w.now language w.here = w.tree.stop? w.now language w.here :=
    (htree.stop?_eq hlanguage w.now w.here).symm
  simp only [speak, build?, onTree, hbuild, htree.glossary language hlanguage]

include hinside

lemma build?_onTree (name : String) : (w.onTree T).build? name = w.build? name :=
  (htree.stop?_eq hinside w.now name).symm

/-- An action that stays inside does the same over twin trees. -/
lemma perform?_onTree (ha : a.SpeaksInside) :
    a.perform? (w.onTree T) = (a.perform? w).map (·.onTree T) := by
  cases a with
  | select index => simp only [Action.perform?, answer?, Option.map_map]; rfl
  | toggle index => simp only [Action.perform?, answer?, Option.map_map]; rfl
  | write text => simp only [Action.perform?, answer?, Option.map_map]; rfl
  | setDate value => simp only [Action.perform?, answer?, Option.map_map]; rfl
  | clear => rfl
  | advance =>
    simp only [Action.perform?, next?_eq, nextName?_onTree htree]
    cases w.nextName? with
    | none => rfl
    | some name =>
      rw [Option.bind_some, Option.bind_some, build?_onTree htree hinside, Option.map_map]
      rfl
  | goBack =>
    have hpast : (w.onTree T).past = w.past := rfl
    simp only [Action.perform?, previous?, hpast]
    cases w.past with
    | nil => rfl
    | cons name past =>
      dsimp only
      rw [build?_onTree htree hinside, Option.map_map]
      rfl
  | speak language =>
    simp only [Action.perform?, speak_onTree htree (ha language rfl), Option.map_some]
  | save => simp only [Action.perform?, save_onTree htree, Option.map_some]

end Over

lemma language_perform? (h : a.perform? w = some w') :
    w'.language = w.language ∨ a = .speak w'.language := by
  cases a with
  | clear | save =>
    obtain rfl := Option.some.inj h
    exact Or.inl rfl
  | speak language =>
    obtain rfl := Option.some.inj h
    exact Or.inr rfl
  | advance =>
    obtain ⟨name, stop, -, -, rfl⟩ := next?_eq_some.1 h
    exact Or.inl rfl
  | goBack =>
    obtain ⟨name, past, stop, -, -, rfl⟩ := previous?_eq_some.1 h
    exact Or.inl rfl
  | _ =>
    obtain ⟨n, -, rfl⟩ := Option.map_eq_some_iff.1 h
    exact Or.inl rfl

namespace Twin

lemma glossary_eq (h : Twin w w') : w.glossary = w'.glossary := by
  rw [h.same]
  rfl

lemma setClock (h : Twin w w') (now : Moment) : Twin (w.setClock now) (w'.setClock now) := by
  refine ⟨h.tree, ?_, h.inside⟩
  rw [h.same]
  rfl

lemma perform (h : Twin w w') (ha : a.SpeaksInside) : Twin (a.perform w) (a.perform w') := by
  have hover := perform?_onTree h.tree h.inside ha
  have htree : (a.perform w).tree = w.tree := tree_of_step (step_perform w a)
  rw [← h.same] at hover
  have hsame : a.perform w' = (a.perform w).onTree w'.tree := by
    rw [Action.perform, Action.perform, hover]
    cases a.perform? w with
    | none => exact h.same
    | some v => rfl
  refine ⟨?_, ?_, ?_⟩
  · rw [hsame, htree]
    exact h.tree
  · rw [hsame]
    rfl
  · rw [Action.perform]
    cases hperform : a.perform? w with
    | none => exact h.inside
    | some v =>
      rcases language_perform? hperform with hlanguage | hspeak
      · rw [Option.getD_some, hlanguage]
        exact h.inside
      · exact ha _ hspeak

/-- Twin walks stay twins as long as no language is spoken that leads out of the folder. -/
lemma run (h : Twin w w') {script : List (Moment × Action)}
    (hscript : ∀ step ∈ script, step.2.SpeaksInside) :
    Twin (Action.run w script) (Action.run w' script) := by
  induction script generalizing w w' with
  | nil => exact h
  | cons step script ih =>
    rw [List.forall_mem_cons] at hscript
    exact ih ((h.setClock step.1).perform hscript.1) hscript.2

end Twin

/-- Walks over twin trees start as twins, or not at all for the same reason. -/
lemma start_twin (h : T.Twin T') (hinside : StaysInside T.firstLanguage) (now : Moment) :
    SameAttempt Twin (start T now) (start T' now) := by
  rw [start, start, ← h.document]
  cases T.document.start? with
  | none => exact .error Error.noStart
  | some name =>
    have hstop : T'.stop? now T'.firstLanguage name = T.stop? now T.firstLanguage name := by
      rw [← h.firstLanguage_eq, h.stop?_eq hinside]
    simp only [startAt?, hstop]
    cases T.stop? now T.firstLanguage name with
    | none => exact .error (Error.startNotFound name)
    | some stop =>
      refine .ok ⟨h, ?_, hinside⟩
      simp only [onTree, ← h.firstLanguage_eq, h.glossary _ hinside]

end Walk

namespace CommandLine

/-- A tree is read from inside its folder.  Over two file trees without links in which the same
stands below the root, it loads in the same way, up to hints and sounds for languages whose names
lead out of the folder.  If the first language and all that are spoken later stay inside, the walks
that are opened remain the same but for the trees they are over, and have the same hints. -/
theorem openWalk_twin (h : SameBelow root t t') (settings : Settings) (now : Moment) :
    SameAttempt Tree.Twin (Tree.load t root settings) (Tree.load t' root settings) ∧
      ((∀ T, Tree.load t root settings = .ok T → StaysInside T.firstLanguage) →
        SameAttempt
          (fun w w' => ∀ script : List (Moment × Action),
            (∀ step ∈ script, step.2.SpeaksInside) →
              (Action.run w script).Twin (Action.run w' script) ∧
                (Action.run w script).glossary = (Action.run w' script).glossary)
          (openWalk t root settings now) (openWalk t' root settings now)) := by
  have hload := Tree.load_twin h settings
  refine ⟨hload, fun hinside => ?_⟩
  rw [openWalk, openWalk]
  cases hT : Tree.load t root settings with
  | error cause =>
    rw [hT] at hload
    generalize Tree.load t' root settings = attempt at hload ⊢
    cases hload
    exact .error cause
  | ok T =>
    have hstays := hinside T hT
    rw [hT] at hload
    generalize Tree.load t' root settings = attempt at hload ⊢
    cases hload with
    | @ok _ T' htwin =>
      have hstart := Walk.start_twin htwin hstays now
      change SameAttempt _ (Walk.start T now) (Walk.start T' now)
      generalize Walk.start T now = start, Walk.start T' now = start' at hstart ⊢
      cases hstart with
      | error cause => exact .error cause
      | ok hwalks =>
        refine .ok fun script hscript => ?_
        have hrun := hwalks.run hscript
        exact ⟨hrun, hrun.glossary_eq⟩

end CommandLine

/-! ### A tree with an outing -/

namespace Outing

/-- A document whose language is a path that leads out of the folder of the tree. -/
def documentText : String :=
  "<process-definition lang=\"../../outside\"><start-state><transition to=\"A\"/></start-state>" ++
    "<end-state name=\"A\"/></process-definition>"

/-- The document that this text is read as. -/
def document : Document where
  root := Errand.element "process-definition" [("lang", "../../outside")]
    [Errand.element "start-state" [] [Errand.element "transition" [("to", "A")] []],
      Errand.element "end-state" [("name", "A")] []]
  root_name := rfl

/-- A file of hints, with one for the word at the end. -/
def hintsText : String := "<hints><string name=\"end\">where it stops</string></hints>"

/-- The tree in the folder `T`, which has hints in English, and what stands beside the folder. -/
def files (beside : List (List String × FileEntry)) : Files where
  entries := [(["T"], .folder), (["T", "T.xml"], .file (some documentText)),
    (["T", "hints"], .folder), (["T", "hints", "English.xml"], .file (some hintsText))] ++ beside
  working := []

/-- The settings of someone who reads English. -/
def english : Settings := { Settings.default with language := some "English" }

/-- Hints that are not in the folder of the tree. -/
def outside : List (List String × FileEntry) := [(["outside.xml"], .file (some hintsText))]

lemma resolve_root (beside : List (List String × FileEntry)) :
    (files beside).resolve true "T" = .ok (.found ["T"] .folder) := by
  have hnames : Path.names "T" = ["T"] := by cbv
  simp +decide [Files.resolve, Files.resolveNames, hnames, Files.resolveFrom, Files.entry?, files]

lemma resolve_document (beside : List (List String × FileEntry)) :
    (files beside).resolve true "T/T.xml" =
      .ok (.found ["T", "T.xml"] (.file (some documentText))) := by
  have hnames : Path.names "T/T.xml" = ["T", "T.xml"] := by cbv
  simp +decide [Files.resolve, Files.resolveNames, hnames, Files.resolveFrom, Files.entry?, files]

lemma sameBelow : SameBelow "T" (files outside) (files []) := by
  refine ⟨⟨by decide, ?_⟩, ⟨by decide, ?_⟩, ?_⟩
  · simp [files, outside]
  · simp [files]
  · rw [Files.below?_eq (resolve_root _), Files.below?_eq (resolve_root _)]
    rfl

lemma document_load (beside : List (List String × FileEntry)) :
    Document.load (files beside) "T" = .ok document :=
  Document.load_of_resolve (by cbv) (by decide) (resolve_root beside) (resolve_document beside)
    (by cbv)

lemma exists_start {T : Tree} (h : T.document = document) (now : Moment) :
    ∃ w, Walk.start T now = .ok w ∧ w.glossary = T.glossary T.firstLanguage := by
  have hstart : document.start? = some "A" := by decide
  have hcontains : document.contains "A" = true := by decide
  rw [← Document.isSome_stop? (p := T.presentation now T.firstLanguage)] at hcontains
  obtain ⟨stop, hstop⟩ := Option.isSome_iff_exists.1 hcontains
  have htree : T.stop? now T.firstLanguage "A" = some stop := by rw [Tree.stop?, h, hstop]
  rw [Walk.start, h, hstart]
  simp only [Walk.startAt?, htree, Option.map_some]
  exact ⟨_, rfl, rfl⟩

lemma exists_load (beside : List (List String × FileEntry)) (settings : Settings) :
    ∃ T, Tree.load (files beside) "T" settings = .ok T ∧ T.document = document ∧
      T.settings = settings ∧ T.glossary = Glossary.load (files beside) "T" := by
  rw [Tree.load, document_load]
  exact ⟨_, rfl, rfl, rfl, rfl⟩

lemma exists_openWalk (beside : List (List String × FileEntry)) (settings : Settings) :
    ∃ w, CommandLine.openWalk (files beside) "T" settings Errand.midnight = .ok w ∧
      w.glossary = Glossary.load (files beside) "T" (settings.language.getD "../../outside") := by
  have hlanguage : document.baseLanguage = "../../outside" := by decide
  obtain ⟨T, hT, hdocument, hsettings, hglossary⟩ := exists_load beside settings
  obtain ⟨w, hw, hhints⟩ := exists_start hdocument Errand.midnight
  rw [hglossary, Tree.firstLanguage, hsettings, hdocument, hlanguage] at hhints
  refine ⟨w, ?_, hhints⟩
  rw [CommandLine.openWalk, hT]
  exact hw

/-- The hints in a file, if there is one at the path for the language. -/
lemma glossary_load_found {t : Files} {language path : String} {place : List String}
    (hpath : Path.join (Path.join "T" "hints") (language ++ ".xml") = path)
    (h : t.resolve true path = .ok (.found place (.file (some hintsText)))) :
    (Glossary.load t "T" language).hints.entries = [("end", "where it stops")] := by
  have hread : Strings.load t path = .ok ⟨[("end", "where it stops")], by decide⟩ := by
    have hstrings : Strings.read hintsText = .ok ⟨[("end", "where it stops")], by decide⟩ := by cbv
    rw [Strings.load, loadText, Files.readText, h]
    change (Strings.read hintsText).mapError Error.markup = _
    rw [hstrings]
    rfl
  have hfile : t.isFile path = true := by rw [Files.isFile, h]
  simp only [Glossary.load, hpath, hfile, if_true, hread]

lemma resolve_english (beside : List (List String × FileEntry)) :
    (files beside).resolve true "T/hints/English.xml" =
      .ok (.found ["T", "hints", "English.xml"] (.file (some hintsText))) := by
  have hnames : Path.names "T/hints/English.xml" = ["T", "hints", "English.xml"] := by cbv
  simp +decide [Files.resolve, Files.resolveNames, hnames, Files.resolveFrom, Files.entry?, files]

lemma path_outside :
    Path.join (Path.join "T" "hints") ("../../outside" ++ ".xml") =
      "T/hints/../../outside.xml" := by decide

lemma names_outside :
    Path.names "T/hints/../../outside.xml" = ["T", "hints", "..", "..", "outside.xml"] := by cbv

lemma glossary_outside : (Glossary.load (files outside) "T" "../../outside").hints.entries =
    [("end", "where it stops")] := by
  have hfound : (files outside).resolve true "T/hints/../../outside.xml" =
      .ok (.found ["outside.xml"] (.file (some hintsText))) := by
    simp +decide [Files.resolve, Files.resolveNames, names_outside, Files.resolveFrom, Files.entry?,
      files, outside]
  exact glossary_load_found path_outside hfound

lemma glossary_nothing :
    (Glossary.load (files []) "T" "../../outside").hints.entries = [] := by
  have hfree : (files []).resolve true "T/hints/../../outside.xml" =
      .ok (.free ["outside.xml"]) := by
    simp +decide [Files.resolve, Files.resolveNames, names_outside, Files.resolveFrom,
      Files.entry?, files]
  have hfile : (files []).isFile "T/hints/../../outside.xml" = false := by
    rw [Files.isFile, hfree]
  simp only [Glossary.load, path_outside, hfile, Bool.false_eq_true, if_false]
  rfl

end Outing

namespace CommandLine

/-- In English the tree is the same whatever stands beside its folder. -/
theorem openWalk_twin_outing :
    ∃ w w', openWalk (Outing.files Outing.outside) "T" Outing.english Errand.midnight = .ok w ∧
      openWalk (Outing.files []) "T" Outing.english Errand.midnight = .ok w' ∧
      w.glossary.hints.entries = [("end", "where it stops")] ∧
      (Action.run w [(Errand.midnight, .save), (Errand.midnight, .speak "Tagalog")]).Twin
        (Action.run w' [(Errand.midnight, .save), (Errand.midnight, .speak "Tagalog")]) := by
  obtain ⟨w, hw, hglossary⟩ := Outing.exists_openWalk Outing.outside Outing.english
  obtain ⟨w', hw', -⟩ := Outing.exists_openWalk [] Outing.english
  have hinside : StaysInside "English" := by decide
  obtain ⟨-, hwalks⟩ := openWalk_twin Outing.sameBelow Outing.english Errand.midnight
  have hsame := hwalks fun T hT => by
    obtain ⟨T', hT', -, hsettings, -⟩ := Outing.exists_load Outing.outside Outing.english
    rw [hT] at hT'
    obtain rfl := Except.ok.inj hT'
    rw [Tree.firstLanguage, hsettings]
    exact hinside
  rw [hw, hw'] at hsame
  refine ⟨w, w', hw, hw', ?_, ?_⟩
  · rw [hglossary]
    exact Outing.glossary_load_found (by decide) (Outing.resolve_english _)
  · cases hsame with
    | ok htwin =>
      refine (htwin _ fun step hstep language hspeak => ?_).1
      simp only [List.mem_cons, List.not_mem_nil, or_false] at hstep
      rcases hstep with rfl | rfl
      · cases hspeak
      · obtain rfl := Action.speak.inj hspeak
        decide

/-- A tree whose document names a language that leads out of the folder shows hints from outside. -/
theorem not_forall_openWalk_glossary_eq :
    ¬ ∀ (t t' : Files) (root : String) (settings : Settings) (now : Moment), SameBelow root t t' →
      SameAttempt (fun w w' => w.glossary = w'.glossary) (openWalk t root settings now)
        (openWalk t' root settings now) := by
  intro h
  obtain ⟨w, hw, hglossary⟩ := Outing.exists_openWalk Outing.outside Settings.default
  obtain ⟨w', hw', hglossary'⟩ := Outing.exists_openWalk [] Settings.default
  have hsame := h _ _ "T" Settings.default Errand.midnight Outing.sameBelow
  rw [hw, hw'] at hsame
  cases hsame with
  | ok hhints =>
    rw [hglossary, hglossary'] at hhints
    have hentries :
        (Glossary.load (Outing.files Outing.outside) "T" "../../outside").hints.entries =
          (Glossary.load (Outing.files []) "T" "../../outside").hints.entries :=
      congrArg (fun g : Glossary => g.hints.entries) hhints
    rw [Outing.glossary_outside, Outing.glossary_nothing] at hentries
    cases hentries

end CommandLine

end Walkthrough
