import Walkthrough.Record.Export

/-!
# Commands and switches

The program has three commands.  Each takes the folder of a tree, and switches that are written
with two dashes and a word or with one dash and a letter.
-/

namespace Walkthrough.CommandLine

/-- The words for the commands. -/
inductive CommandWord
  | inspect
  | play
  | languages
  deriving DecidableEq, Repr

/-- Every word for a command. -/
def CommandWord.all : List CommandWord := [inspect, play, languages]

/-- How the command is written. -/
def CommandWord.text : CommandWord → String
  | inspect => "inspect"
  | play => "play"
  | languages => "languages"

/-- The command that an argument names. -/
def CommandWord.ofText? (s : String) : Option CommandWord := all.find? fun w => w.text == s

/-- What help can be asked about. -/
inductive Topic
  | program
  | command (word : CommandWord)
  | help
  deriving DecidableEq, Repr

/-- A switch. -/
inductive Switch
  | verbose
  | help
  | version
  | language
  | config
  | exportFolder
  | format
  deriving DecidableEq, Repr

namespace Switch

/-- The word of the switch. -/
def word : Switch → String
  | verbose => "verbose"
  | help => "help"
  | version => "version"
  | language => "language"
  | config => "config"
  | exportFolder => "export-dir"
  | format => "format"

/-- The letter of the switch. -/
def letter : Switch → Char
  | verbose => 'v'
  | help => 'h'
  | version => 'V'
  | language => 'l'
  | config => 'c'
  | exportFolder => 'e'
  | format => 'f'

/-- Whether the switch takes a value. -/
def takesValue : Switch → Bool
  | verbose | help | version => false
  | language | config | exportFolder | format => true

/-- Whether a text can be the value of the switch.  A path cannot be empty. -/
def accepts : Switch → String → Bool
  | config, value | exportFolder, value => !value.isEmpty
  | format, value => (ExportFormat.ofName? value).isSome
  | _, _ => true

end Switch

/-- The switches that are known where help would be about a topic. -/
def Topic.switches : Topic → List Switch
  | program => [.verbose, .help, .version]
  | command .play => [.language, .verbose, .config, .exportFolder, .format, .help]
  | command _ => [.verbose, .help]
  | help => []

/-- The form of an argument. -/
inductive Shape
  /-- Two dashes and a word, with a value after an equals sign if there is one. -/
  | long (word : String) (value : Option String)
  /-- A dash and letters, the last of which may take what follows as its value. -/
  | short (letters : List Char)
  /-- Two dashes alone, after which no switch follows. -/
  | separator
  | plain (text : String)
  deriving DecidableEq, Repr

/-- The form of an argument as it is written. -/
def Shape.of (argument : String) : Shape :=
  match argument.toList with
  | ['-', '-'] => separator
  | '-' :: '-' :: rest =>
    match Text.cutFirst? "=" (String.ofList rest) with
    | some (word, value) => long word (some value)
    | none => long (String.ofList rest) none
  | '-' :: c :: rest => short (c :: rest)
  | _ => plain argument

end Walkthrough.CommandLine
