import Walkthrough.CommandLine.Switch

/-!
# Arguments

The arguments of the program are read one after the other.  Reading ends early when help or the
version is asked for, and when an argument is out of place: a switch that is not known here or was
given before, a value that is missing or wrong, a second folder.
-/

namespace Walkthrough.CommandLine

/-- Why reading ends before there is a command. -/
inductive Halt
  | help (topic : Topic)
  | version
  | misuse
  deriving DecidableEq, Repr

/-- What the arguments said so far. -/
structure Draft where
  /-- The switches without a value. -/
  raised : List Switch
  /-- The switches with their values. -/
  values : List (Switch × String)
  folder : Option String
  /-- The switch whose value is awaited. -/
  awaiting : Option Switch
  /-- Whether every argument that follows is a folder. -/
  separated : Bool

namespace Draft

/-- Nothing was said. -/
def empty : Draft := ⟨[], [], none, none, false⟩

/-- The value of a switch. -/
def value? (d : Draft) (s : Switch) : Option String :=
  (d.values.find? fun v => v.1 == s).map Prod.snd

/-- The draft after a switch without a value. -/
def raise (d : Draft) (topic : Topic) : Switch → Except Halt Draft
  | .help => .error (.help topic)
  | .version => .error .version
  | s => if d.raised.contains s then .error .misuse else .ok { d with raised := s :: d.raised }

/-- The draft after a switch and its value. -/
def put (d : Draft) (s : Switch) (value : String) : Except Halt Draft :=
  if (d.value? s).isSome || !s.accepts value then .error .misuse
  else .ok { d with values := (s, value) :: d.values, awaiting := none }

/-- The draft after a folder. -/
def addFolder (d : Draft) (path : String) : Except Halt Draft :=
  if d.folder.isSome || path.isEmpty then .error .misuse else .ok { d with folder := some path }

/-- The draft after a word with two dashes. -/
def long (d : Draft) (topic : Topic) (word : String) (value : Option String) :
    Except Halt Draft :=
  match topic.switches.find? (fun s => s.word == word), value with
  | none, _ => .error .misuse
  | some s, none => if s.takesValue then .ok { d with awaiting := some s } else d.raise topic s
  | some s, some value => if s.takesValue then d.put s value else .error .misuse

/-- The draft after letters with one dash. -/
def short (d : Draft) (topic : Topic) : List Char → Except Halt Draft
  | [] => .ok d
  | c :: rest =>
    match topic.switches.find? (fun s => s.letter == c) with
    | none => .error .misuse
    | some s =>
      if s.takesValue then
        match rest with
        | [] => .ok { d with awaiting := some s }
        | '=' :: value => d.put s (String.ofList value)
        | value => d.put s (String.ofList value)
      else do short (← d.raise topic s) topic rest

/-- The draft after an argument. -/
def take (topic : Topic) (d : Draft) (argument : String) : Except Halt Draft :=
  if d.separated then d.addFolder argument
  else
    match d.awaiting, Shape.of argument with
    | some s, .plain value => d.put s value
    -- a value that looks like a switch is taken for one, so the value is missing
    | some _, _ => .error .misuse
    | none, .plain path => d.addFolder path
    | none, .separator => .ok { d with separated := true }
    | none, .long word value => d.long topic word value
    | none, .short letters => d.short topic letters

end Draft

/-- How a walk is to be played, as far as the arguments say so. -/
structure PlayOptions where
  language : Option String
  config : Option String
  exportFolder : String
  format : Option ExportFormat
  deriving DecidableEq, Repr

/-- A command: what is to be done with the tree in a folder. -/
inductive Command
  | inspect (folder : String)
  | play (folder : String) (options : PlayOptions)
  | languages (folder : String)
  deriving DecidableEq, Repr

/-- The folder into which answers are exported unless the arguments name another. -/
def defaultExportFolder : String := "."

/-- The options that a draft gives. -/
def Draft.options (d : Draft) : PlayOptions where
  language := d.value? .language
  config := d.value? .config
  exportFolder := (d.value? .exportFolder).getD defaultExportFolder
  format := (d.value? .format).bind ExportFormat.ofName?

/-- The command of a word, once its arguments are read. -/
def Draft.command (d : Draft) (word : CommandWord) : Except Halt Command :=
  match d.folder, d.awaiting with
  | some folder, none =>
    match word with
    | .inspect => .ok (.inspect folder)
    | .play => .ok (.play folder d.options)
    | .languages => .ok (.languages folder)
  | _, _ => .error .misuse

/-- The topic that the arguments after the word for help name. -/
def helpTopic? : List String → Option Topic
  | [] => some .program
  | [name] =>
    if name = "help" then some .help else (CommandWord.ofText? name).map Topic.command
  | _ => none

/-- The command that arguments give, what was said before it being `d`. -/
def readFrom (d : Draft) : List String → Except Halt Command
  | [] => .error .misuse
  | argument :: rest =>
    match Shape.of argument with
    | .plain "help" =>
      match helpTopic? rest with
      | some topic => .error (.help topic)
      | none => .error .misuse
    | .plain name =>
      match CommandWord.ofText? name with
      | some word => do
        let d ← rest.foldlM (Draft.take (.command word)) Draft.empty
        d.command word
      | none => .error .misuse
    | .separator => .error .misuse
    | .long word value => do readFrom (← d.long .program word value) rest
    | .short letters => do readFrom (← d.short .program letters) rest

/-- The command that the arguments of the program give. -/
def read (arguments : List String) : Except Halt Command := readFrom Draft.empty arguments

end Walkthrough.CommandLine
