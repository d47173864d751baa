import Walkthrough.CommandLine.Help
import Walkthrough.Session.Basic
import Walkthrough.Tree.Folder

/-!
# Running commands

A run of the program is a function of its arguments, its input, the clock, the zone of the machine
and the files.  It gives an exit code, what is printed, the error if there is one, and the files
after it.  A run that fails keeps what was printed before.
-/

namespace Walkthrough.CommandLine

/-- The result of a run. -/
structure Report where
  code : Nat
  output : String
  error : Option Error
  files : Files

/-- The exit code of a run that fails. -/
def failureCode : Nat := 1

/-- The exit code of a run whose arguments are out of place. -/
def misuseCode : Nat := 2

/-- A walk over the tree in a folder. -/
def openWalk (files : Files) (folder : String) (settings : Settings) (now : Moment) :
    Except Error Walk := do
  Walk.start (← Tree.load files folder settings) now

/-- A text with blanks behind it up to a width. -/
def padEnd (width : Nat) (s : String) : String :=
  s ++ String.ofList (List.replicate (width - s.length) ' ')

/-- A line over a list. -/
def heading (colored : Bool) (sign title : String) : String :=
  sign ++ " " ++ Ink.bold.paint colored title

/-! ### Looking at a tree -/

/-- What the list of nodes says about the type of one. -/
def kindText (kind : NodeKind) (name : String) : String :=
  match kind with
  | .task => ((NodeName.decode name).taskType?.map TaskType.identifier).getD "unknown"
  | _ => kind.tag

/-- The summary of a tree. -/
def inspection (colored : Bool) (folder : String) (t : Tree) : String :=
  let base := t.phrases.base
  let nodes := t.document.nodeNames
  endLines <|
    [heading colored "🌳" folder,
      s!"  Base language: {base} ({Language.code base})",
      "  Start node:    " ++ t.document.start?.getD "-",
      "",
      heading colored "💬" "Languages"] ++
    t.phrases.languages.map ("  " ++ ·) ++
    ["", heading colored "🌳" s!"Nodes ({nodes.length})"] ++
    nodes.map fun (kind, name) =>
      "  " ++ padEnd 24 (Ink.dim.paint colored (kindText kind name)) ++ " " ++ name

/-- The languages of a tree, each with the locale that speaks it. -/
def languageList (colored : Bool) (t : Tree) : String :=
  let base := t.phrases.base
  endLines <| heading colored "💬" "Languages" ::
    t.phrases.languages.map fun language =>
      "  " ++ padEnd 16 language ++ " " ++ Language.code language ++
        if language = base then " (base)" else ""

/-! ### Playing a tree -/

/-- The settings with which a walk is played: those of the file that the options name, and over
them what the options say. -/
def playSettings (files : Files) (options : PlayOptions) : Except Error Settings := do
  let settings ←
    match options.config with
    | some path => Settings.load files path
    | none => pure Settings.default
  return { settings with
    language := options.language.or settings.language
    exportFormat := options.format.getD settings.exportFormat }

/-- The walk that a command to play starts. -/
def beginPlay (files : Files) (folder : String) (options : PlayOptions) (now : Moment) :
    Except Error Walk := do
  openWalk files folder (← playSettings files options) now

/-- What follows a session: if it is finished, the records are exported. -/
def endPlay (colored : Bool) (files : Files) (options : PlayOptions) (now : Moment) (s : Session) :
    Report :=
  match s.outcome with
  | .quit =>
    let note := Ink.dim.paint colored "Quit before the end, no answers written"
    ⟨0, s.output ++ note ++ "\n", none, files⟩
  | .finished =>
    let records := s.walk.records
    match Record.writeExport files options.exportFolder s.walk.tree.settings.exportFormat now
        records with
    | .error cause => ⟨failureCode, s.output, some (.file cause), files⟩
    | .ok (path, files) =>
      ⟨0, s.output ++ s!"✨ Finished after {records.length} nodes\n" ++
        s!"💾 Answers written to {path}\n", none, files⟩

/-! ### All commands -/

/-- The report on a text to print, or on an error. -/
def Report.of (files : Files) : Except Error String → Report
  | .ok output => ⟨0, output, none, files⟩
  | .error e => ⟨failureCode, "", some e, files⟩

/-- The run of a command. -/
def Command.run (colored : Bool) (files : Files) (now : Moment) (input : List String)
    (zone : Zone) : Command → Report
  | .inspect folder =>
    Report.of files <|
      (fun w => inspection colored folder w.tree) <$> openWalk files folder .default now
  | .languages folder =>
    Report.of files <|
      (fun w => languageList colored w.tree) <$> openWalk files folder .default now
  | .play folder options =>
    match beginPlay files folder options now with
    | .error e => ⟨failureCode, "", some e, files⟩
    | .ok w => endPlay colored files options now (Session.play colored w input zone)

/-- The report on arguments that give no command. -/
def Halt.report (files : Files) : Halt → Report
  | .help topic => ⟨0, helpText topic, none, files⟩
  | .version => ⟨0, versionText, none, files⟩
  | .misuse => ⟨misuseCode, "", none, files⟩

/-- The run of the program; at universal time unless another zone is given. -/
def run (colored : Bool) (files : Files) (now : Moment) (arguments input : List String)
    (zone : Zone := .universal) : Report :=
  match read arguments with
  | .error halt => halt.report files
  | .ok command => command.run colored files now input zone

end Walkthrough.CommandLine
