import Walkthrough.CommandLine.Arguments

/-!
# Help

What the program says about itself: its version, and for each topic the commands and switches.
-/

namespace Walkthrough.CommandLine

/-- The name and the version of the program. -/
def versionText : String := "usbong 0.1.0\n"

/-- The help about the program as a whole. -/
def programHelp : String :=
  "Usbong: play and inspect decision-tree documents

Usage: usbong [OPTIONS] <COMMAND>

Commands:
  inspect    Show a tree's languages, start node and node list
  play       Walk through a tree interactively
  languages  List the languages a tree is available in
  help       Print this message or the help of the given subcommand(s)

Options:
  -v, --verbose  Show debug logging
  -h, --help     Print help
  -V, --version  Print version
"

/-- The help about a command that takes nothing but a folder. -/
def folderHelp (summary word : String) : String :=
  s!"{summary}

Usage: usbong {word} [OPTIONS] <PATH>

Arguments:
  <PATH>  Unpacked tree directory

Options:
  -v, --verbose  Show debug logging
  -h, --help     Print help
"

/-- The help about playing. -/
def playHelp : String :=
  "Walk through a tree interactively

Usage: usbong play [OPTIONS] <PATH>

Arguments:
  <PATH>  Unpacked tree directory

Options:
  -l, --language <LANGUAGE>      Language to play in (defaults to the tree's base language)
  -v, --verbose                  Show debug logging
  -c, --config <CONFIG>          Player configuration file (TOML)
  -e, --export-dir <EXPORT_DIR>  Directory to write the answer export into [default: .]
  -f, --format <FORMAT>          Export format, overriding the configuration
  -h, --help                     Print help
"

/-- The help about help. -/
def helpHelp : String :=
  "Print this message or the help of the given subcommand(s)

Usage: usbong help [COMMAND]...

Arguments:
  [COMMAND]...  Print help for the subcommand(s)
"

/-- The help about a topic. -/
def helpText : Topic → String
  | .program => programHelp
  | .command .inspect => folderHelp "Show a tree's languages, start node and node list" "inspect"
  | .command .play => playHelp
  | .command .languages => folderHelp "List the languages a tree is available in" "languages"
  | .help => helpHelp

end Walkthrough.CommandLine
