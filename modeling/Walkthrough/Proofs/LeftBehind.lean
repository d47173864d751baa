import Walkthrough.CommandLine.Run
import Walkthrough.Proofs.Attributes
import Walkthrough.Proofs.InsideTrees
import Walkthrough.Proofs.Ledger
import Walkthrough.Proofs.WrittenFiles

/-!
# What a run leaves behind

Only a session that comes to an end state leaves something behind, and that is one file with the
records of the session.  Main statement: a run that plays a tree writes this file if the session
ends, in the format that the options name or else in that of the settings, and says how many records
there are; every other run leaves the files as they were.
-/

namespace Walkthrough

lemma Moment.stamp_ne_empty (m : Moment) : m.stamp ≠ "" := by
  intro h
  have hdash := congrArg ('T' ∈ ·.toList) h
  simp [stamp] at hdash

/-- An exported file has the word for its format as its extension. -/
lemma Record.extension?_exportName (now : Moment) (format : ExportFormat) :
    Path.extension? (exportName now format) = some format.word := by
  have hdot : Text.contains format.word "." = false := by cases format <;> decide
  have hcut : Text.cutLast? "." (exportName now format) = some (now.stamp, format.word) := by
    rw [exportName, String.append_assoc]
    exact Text.cutLast?_append (by decide : ".".toList = '.' :: []) (by decide) hdot now.stamp
  have hstem : now.stamp.isEmpty = false := by simpa using now.stamp_ne_empty
  rw [Path.extension?, Path.splitExtension, hcut]
  simp only [hstem, Bool.false_eq_true, if_false]

namespace CommandLine

variable {zone : Zone} {colored : Bool} {files : Files} {folder : String} {options : PlayOptions}
  {now : Moment} {w : Walk} {settings : Settings} {s : Session}

/-! ### The settings of a walk that is played -/

/-- The settings of the file that the options name, or the default ones. -/
def baseSettings (files : Files) (options : PlayOptions) : Except Error Settings :=
  match options.config with
  | some path => Settings.load files path
  | none => .ok .default

lemma playSettings_eq_ok (h : playSettings files options = .ok settings) :
    ∃ base, baseSettings files options = .ok base ∧
      settings.exportFormat = options.format.getD base.exportFormat := by
  have hbase : playSettings files options = (baseSettings files options).map fun base =>
      { base with
        language := options.language.or base.language
        exportFormat := options.format.getD base.exportFormat } := by
    rw [playSettings, baseSettings]
    cases options.config with
    | none => rfl
    | some path => cases Settings.load files path <;> rfl
  rw [hbase] at h
  cases hload : baseSettings files options with
  | error e =>
    rw [hload] at h
    cases h
  | ok base =>
    rw [hload] at h
    obtain rfl := Except.ok.inj h
    exact ⟨base, rfl, rfl⟩

lemma settings_of_load {t : Tree} (h : Tree.load files folder settings = .ok t) :
    t.settings = settings := by
  obtain ⟨document, -, ht⟩ := exists_of_bind_eq_ok h
  obtain rfl := Except.ok.inj ht
  rfl

/-- A walk that is played starts over a tree with the settings that the options say. -/
lemma beginPlay_eq_ok (h : beginPlay files folder options now = .ok w) :
    Walk.start w.tree now = .ok w ∧ ∃ base, baseSettings files options = .ok base ∧
      w.tree.settings.exportFormat = options.format.getD base.exportFormat := by
  obtain ⟨settings, hsettings, hopen⟩ := exists_of_bind_eq_ok h
  obtain ⟨t, ht, hstart⟩ := exists_of_bind_eq_ok hopen
  obtain ⟨base, hbase, hformat⟩ := playSettings_eq_ok hsettings
  have htree : w.tree = t := (Walk.Reached.start hstart).tree_eq
  subst htree
  exact ⟨hstart, base, hbase, settings_of_load ht ▸ hformat⟩

/-! ### After a session -/

/-- What is left behind by a session that comes to an end state: one file with its records, whose
name is that of the moment, and whose format is told by its extension. -/
structure Exported (files : Files) (folder : String) (format : ExportFormat) (now : Moment)
    (s : Session) (report : Report) : Prop where
  extension : Path.extension? (Record.exportName now format) = some format.word
  written : ∃ place, files.Writes report.files
    (Path.join folder (Record.exportName now format))
    (Record.exportText format s.walk.records) place
  output : report.output = s.output ++ s!"✨ Finished after {s.walk.records.length} nodes\n" ++
    s!"💾 Answers written to {Path.join folder (Record.exportName now format)}\n"
  code : report.code = 0
  error : report.error = none

/-- What is left behind by a session on a walk.  Its records are one for each turn onward, in order;
they are exported if it comes to an end state and can be exported, and told if they cannot.  If it
does not come to an end state, the files stay as they were. -/
structure Leaves (zone : Zone) (files : Files) (options : PlayOptions) (base : Settings)
    (now : Moment) (w : Walk) (lines : List (Moment × String)) (s : Session) (report : Report) :
    Prop where
  records : List.Forall₂ (fun r turn => r.BearsOut w.tree turn.1.here turn.2.here) s.walk.records
    (Session.onward (Session.turns zone w lines))
  unfinished : s.walk.atEnd = false → report.files = files
  finished : s.walk.atEnd = true →
    files.Writable options.exportFolder
      (Record.exportName now (options.format.getD base.exportFormat)) →
    Exported files options.exportFolder (options.format.getD base.exportFormat) now s report
  failed : s.walk.atEnd = true →
    ¬files.Writable options.exportFolder
      (Record.exportName now (options.format.getD base.exportFormat)) →
    report.code = failureCode ∧ ∃ cause, report.error = some (.file cause)

lemma endPlay_exported (hend : s.outcome = .finished)
    (hwritable : files.Writable options.exportFolder
      (Record.exportName now s.walk.tree.settings.exportFormat)) :
    Exported files options.exportFolder s.walk.tree.settings.exportFormat now s
      (endPlay colored files options now s) := by
  obtain ⟨made, t', place, hmade, hwrite, hwrites⟩ := hwritable.exists_writes
    (Record.exportText s.walk.tree.settings.exportFormat s.walk.records)
  have hexport : Record.writeExport files options.exportFolder s.walk.tree.settings.exportFormat
      now s.walk.records = .ok (Path.join options.exportFolder
        (Record.exportName now s.walk.tree.settings.exportFormat), t') := by
    simp only [Record.writeExport, hmade, hwrite, bind, pure, Except.bind, Except.pure]
  rw [endPlay, hend]
  simp only [hexport]
  exact ⟨Record.extension?_exportName _ _, ⟨place, hwrites⟩, rfl, rfl, rfl⟩

/-- An export fails only if it cannot be written. -/
lemma endPlay_failed (hend : s.outcome = .finished)
    (hwritable : ¬files.Writable options.exportFolder
      (Record.exportName now s.walk.tree.settings.exportFormat)) :
    (endPlay colored files options now s).code = failureCode ∧
      ∃ cause, (endPlay colored files options now s).error = some (.file cause) := by
  cases hexport : Record.writeExport files options.exportFolder s.walk.tree.settings.exportFormat
      now s.walk.records with
  | error cause =>
    rw [endPlay, hend]
    simp only [hexport, true_and]
    exact ⟨cause, rfl⟩
  | ok exported =>
    obtain ⟨made, hmade, hrest⟩ := exists_of_bind_eq_ok hexport
    obtain ⟨t', hwrite, -⟩ := exists_of_bind_eq_ok hrest
    exact absurd (Files.writable_of_writeText hmade hwrite) hwritable

/-- This holds however time goes on while the walk is played. -/
lemma endPlay_leaves (h : beginPlay files folder options now = .ok w) (zone : Zone)
    (colored : Bool) :
    ∃ base, baseSettings files options = .ok base ∧ ∀ lines later,
      Leaves zone files options base later w lines (Session.playAt zone colored w lines)
        (endPlay colored files options later (Session.playAt zone colored w lines)) := by
  obtain ⟨hstart, base, hbase, hformat⟩ := beginPlay_eq_ok h
  refine ⟨base, hbase, fun lines later => ?_⟩
  have hreached := Walk.Reached.start hstart
  have hsession := hreached.playAt zone colored lines
  obtain ⟨added, hadded, hbears⟩ := (hreached.turns_playAt zone colored lines).exists_records
  have houtcome := Walk.outcome_playAt zone colored w lines
  have hnone : w.records = [] := by
    obtain ⟨name, stop, -, -, hw⟩ := Walk.start_eq_ok hstart
    rw [hw]
  rw [hnone, List.nil_append] at hadded
  rw [← hsession.tree_eq] at hformat
  refine ⟨hadded ▸ hbears, fun hend => ?_, fun hend hwritable => ?_, fun hend hwritable => ?_⟩
  · have hquit : (Session.playAt zone colored w lines).outcome = .quit := by
      cases hoc : (Session.playAt zone colored w lines).outcome with
      | quit => rfl
      | finished =>
        rw [houtcome.1 hoc] at hend
        cases hend
    rw [endPlay, hquit]
  · rw [← hformat] at hwritable ⊢
    exact endPlay_exported (houtcome.2 hend) hwritable
  · rw [← hformat] at hwritable
    exact endPlay_failed (houtcome.2 hend) hwritable

lemma Report.files_of (files : Files) (printed : Except Error String) :
    (Report.of files printed).files = files := by
  cases printed <;> rfl

/-- What a run leaves behind.  If it plays no tree, or the settings cannot be loaded or the tree not
be opened, the files stay as they were.  So they do if the session does not come to an end state; if
it does, its records are exported into the folder that the options name, as long as that can be
done.  The clock stands still in a run, but that makes no difference. -/
theorem run_leaves (colored : Bool) (files : Files) (now : Moment) (arguments input : List String)
    (zone : Zone) :
    ((∀ folder options, read arguments ≠ .ok (.play folder options)) →
      (run colored files now arguments input zone).files = files) ∧
    ∀ folder options, read arguments = .ok (.play folder options) →
      (∀ e, beginPlay files folder options now = .error e →
        (run colored files now arguments input zone).files = files ∧
          (run colored files now arguments input zone).error = some e) ∧
      ∀ w, beginPlay files folder options now = .ok w →
        ∃ base, baseSettings files options = .ok base ∧
          Leaves zone files options base now w (input.map fun line => (w.now, line))
            (Session.play colored w input zone) (run colored files now arguments input zone) ∧
          ∀ lines later,
            Leaves zone files options base later w lines (Session.playAt zone colored w lines)
              (endPlay colored files options later (Session.playAt zone colored w lines)) := by
  constructor
  · intro hread
    rw [run]
    cases hcommand : read arguments with
    | error halt => cases halt <;> rfl
    | ok command =>
      cases command with
      | play folder options => exact absurd hcommand (hread folder options)
      | inspect folder => exact Report.files_of files _
      | languages folder => exact Report.files_of files _
  · intro folder options hread
    have hrun : run colored files now arguments input zone =
        (Command.play folder options).run colored files now input zone := by rw [run, hread]
    rw [hrun]
    refine ⟨fun e he => ?_, fun w hw => ?_⟩
    · rw [Command.run, he]
      exact ⟨rfl, rfl⟩
    · rw [Command.run, hw]
      obtain ⟨base, hbase, hleaves⟩ := endPlay_leaves hw zone colored
      exact ⟨base, hbase, hleaves _ now, hleaves⟩

end CommandLine

/-! ### A picnic -/

namespace Picnic

open CommandLine

/-- A document with one text to read. -/
def documentText : String :=
  "<process-definition><start-state><transition to=\"textDisplay~Eat\"/></start-state>" ++
    "<task-node name=\"textDisplay~Eat\"><transition to=\"A\"/></task-node>" ++
    "<end-state name=\"A\"/></process-definition>"

/-- The document that this text is read as. -/
def document : Document where
  root := Errand.element "process-definition" []
    [Errand.element "start-state" []
        [Errand.element "transition" [("to", "textDisplay~Eat")] []],
      Errand.element "task-node" [("name", "textDisplay~Eat")]
        [Errand.element "transition" [("to", "A")] []],
      Errand.element "end-state" [("name", "A")] []]
  root_name := rfl

/-- The tree in the folder `T`, and settings beside it. -/
def files : Files where
  entries := [(["T"], .folder), (["T", "T.xml"], .file (some documentText)),
    (["c"], .file (some "export_format = \"json\""))]
  working := []

/-- Settings are read from the file `c`, and answers are exported into the folder `out`. -/
def options : PlayOptions := ⟨none, some "c", "out", none⟩

/-- The arguments that say so. -/
def arguments : List String := ["play", "T", "--config", "c", "--export-dir=out"]

lemma read_arguments : read arguments = .ok (.play "T" options) := by cbv

lemma document_read : Document.read documentText = .ok document := by cbv

lemma settings_load :
    Settings.load files "c" = .ok { Settings.default with exportFormat := .json } := by cbv

lemma playSettings_eq :
    playSettings files options = .ok { Settings.default with exportFormat := .json } := by
  change Settings.load files "c" >>= _ = _
  rw [settings_load]
  rfl

lemma document_load : Document.load files "T" = .ok document := by
  have hnames : Path.names "T/T.xml" = ["T", "T.xml"] := by cbv
  have hroot : files.resolve true "T" = .ok (.found ["T"] .folder) := by cbv
  have hfile : files.resolve true "T/T.xml" =
      .ok (.found ["T", "T.xml"] (.file (some documentText))) := by
    simp +decide [Files.resolve, Files.resolveNames, hnames, Files.resolveFrom, Files.entry?, files]
  exact Document.load_of_resolve (by cbv) (by decide) hroot hfile document_read

/-- The walk ends behind the text, as far as its document is concerned. -/
lemma exists_start {t : Tree} (h : t.document = document) :
    ∃ w, Walk.start t Errand.midnight = .ok w ∧
      (Session.play false w [""]).walk.atEnd = true ∧
      (Session.play false w [""]).walk.records.length = 1 ∧
      (Session.play false w ["q"]).walk.atEnd = false := by
  obtain ⟨folder, document', phrases, assets, glossary, settings, hglossary⟩ := t
  obtain rfl : document' = document := h
  exact ⟨_, rfl, rfl, rfl, rfl⟩

lemma exists_begin :
    ∃ w, beginPlay files "T" options Errand.midnight = .ok w ∧
      (Session.play false w [""]).walk.atEnd = true ∧
      (Session.play false w [""]).walk.records.length = 1 ∧
      (Session.play false w ["q"]).walk.atEnd = false := by
  obtain ⟨t, ht, hdocument⟩ : ∃ t, Tree.load files "T"
      { Settings.default with exportFormat := .json } = .ok t ∧ t.document = document := by
    rw [Tree.load, document_load]
    exact ⟨_, rfl, rfl⟩
  obtain ⟨w, hw, hplayed⟩ := exists_start hdocument
  refine ⟨w, ?_, hplayed⟩
  rw [beginPlay, playSettings_eq]
  change openWalk files "T" _ Errand.midnight = _
  rw [openWalk, ht]
  exact hw

lemma writable : files.Writable "out" (Record.exportName Errand.midnight .json) := by
  have hname : Record.exportName Errand.midnight .json = "2000-01-01T00-00-00.json" := by cbv
  have hmade : files.ensureFolders "out" = .ok (files.put ["out"] .folder) := by cbv
  have hjoin : Path.join "out" "2000-01-01T00-00-00.json" = "out/2000-01-01T00-00-00.json" := by
    decide
  have hnames : Path.names "out/2000-01-01T00-00-00.json" =
      ["out", "2000-01-01T00-00-00.json"] := by cbv
  have hgoal : (files.put ["out"] .folder).resolve true "out/2000-01-01T00-00-00.json" =
      .ok (.free ["out", "2000-01-01T00-00-00.json"]) := by
    simp +decide [Files.resolve, Files.resolveNames, hnames, Files.resolveFrom, Files.entry?,
      Files.put, files]
  rw [hname]
  exact ⟨_, _, _, _, hmade, hjoin ▸ hgoal, .free⟩

end Picnic

namespace CommandLine

/-- The answers are exported as the settings say if the player reads on, and not if the player
quits. -/
theorem run_leaves_picnic :
    ∃ w, beginPlay Picnic.files "T" Picnic.options Errand.midnight = .ok w ∧
      (Session.play false w [""]).walk.records.length = 1 ∧
      Exported Picnic.files "out" .json Errand.midnight (Session.play false w [""])
        (run false Picnic.files Errand.midnight Picnic.arguments [""]) ∧
      (run false Picnic.files Errand.midnight Picnic.arguments ["q"]).files = Picnic.files := by
  obtain ⟨w, hw, hend, hlength, hquit⟩ := Picnic.exists_begin
  have hleaves := fun input => (run_leaves false Picnic.files Errand.midnight Picnic.arguments
    input .universal).2 _ _ Picnic.read_arguments |>.2 w hw
  obtain ⟨base, hbase, hread, -⟩ := hleaves [""]
  obtain ⟨_, _, hturned, -⟩ := hleaves ["q"]
  obtain rfl := Except.ok.inj (Picnic.settings_load.symm.trans hbase)
  exact ⟨w, hw, hlength, hread.finished hend Picnic.writable, hturned.unfinished hquit⟩

end CommandLine

end Walkthrough
