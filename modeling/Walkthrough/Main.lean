import Std.Time.Zoned
import Walkthrough.CommandLine.Disk
import Walkthrough.CommandLine.Run
import Walkthrough.Moment.Clock

/-!
# The program

The program reads its arguments, looks at the files that they name, runs the command on them and
prints its report.  A session is played line by line, so that what is shown comes before what is
entered; each line is followed as in a session on lines that are known beforehand.  The clock and
the zone are those of the machine.
-/

namespace Walkthrough.CommandLine

open Std.Time.TimeZone (ZoneRules)

/-- How deep the folder of a tree is looked at: a sound for one language is the deepest file. -/
def treeDepth : Nat := 3

/-- The rules for the zone of the machine, or else those for universal time. -/
def zoneRules : IO ZoneRules := do
  try Std.Time.Database.defaultGetLocalZoneRules
  catch _ => return .UTC

/-- By how many seconds the clock is ahead of universal time, a number of seconds after the start of
1970. -/
def secondsAhead (rules : ZoneRules) (seconds : Int) : Int :=
  let time := rules.findLocalTimeTypeForTimestamp (.ofSecondsSinceUnixEpoch (.ofInt seconds))
  time.gmtOffset.second.val

/-- The zone that has these rules. -/
def zoneOf (rules : ZoneRules) : Zone where
  ahead? date :=
    let midnight := date.days * 86400
    -- when the clock shows midnight, it is ahead by as much as at some time within a day of this
    let amounts := [midnight - 86400, midnight, midnight + 86400].map (secondsAhead rules)
    match amounts.eraseDups.filter fun ahead => secondsAhead rules (midnight - ahead) = ahead with
    | [ahead] => some ahead
    | _ => none

/-- The moment that the clock shows. -/
def clock (rules : ZoneRules) : IO Moment := do
  let nanos := (← Std.Time.Timestamp.now).toNanosecondsSinceUnixEpoch.val
  let seconds := Int.fdiv nanos 1000000000
  let nano := (nanos - seconds * 1000000000).toNat
  match Moment.ofClock? (secondsAhead rules seconds) seconds nano with
  | some moment => return moment
  | none => throw (IO.userError "the clock is out of range")

/-- The files that a command asks for. -/
def Command.look : Command → IO Files
  | .inspect folder | .languages folder => do Disk.lookBelow (← Disk.start) folder treeDepth
  | .play folder options => do
    let files ← Disk.lookBelow (← Disk.start) folder treeDepth
    let files ←
      match options.config with
      | some path => Disk.lookAt files path
      | none => pure files
    Disk.lookAt files options.exportFolder

/-- Plays a walk on the lines that are entered, and gives the session without its output. -/
partial def converse (rules : ZoneRules) (colored : Bool) (w : Walk) : IO Session := do
  let output ← IO.getStdout
  output.putStr (w.view colored)
  if w.atEnd then return ⟨.finished, "", w⟩
  output.putStr prompt
  output.flush
  let line ← (← IO.getStdin).getLine
  if line.isEmpty then return ⟨.quit, "", w⟩
  match (w.setClock (← clock rules)).enter? (zoneOf rules) line with
  | none => return ⟨.quit, "", w⟩
  | some (w, refusal) =>
    output.putStr (warning colored refusal)
    converse rules colored w

/-- Prints a report and gives its exit code. -/
def Report.print (r : Report) : IO UInt32 := do
  IO.print r.output
  if let some e := r.error then IO.eprintln ("Error: " ++ e.message)
  return r.code.toUInt32

/-- Runs a command that the arguments give. -/
def Command.execute (c : Command) (colored : Bool) : IO UInt32 := do
  let files ← c.look
  let rules ← zoneRules
  match c with
  | .play folder options =>
    match beginPlay files folder options (← clock rules) with
    | .error e => Report.print ⟨failureCode, "", some e, files⟩
    | .ok w =>
      let session ← converse rules colored w
      let report := endPlay colored files options (← clock rules) session
      Disk.commit files report.files
      report.print
  | c => (c.run colored files (← clock rules) [] (zoneOf rules)).print

/-- Runs the program. -/
def execute (arguments : List String) : IO UInt32 := do
  match read arguments with
  | .error .misuse =>
    IO.eprint programHelp
    return misuseCode.toUInt32
  | .error halt => (halt.report Files.empty).print
  | .ok command => command.execute (← (← IO.getStdout).isTty)

end Walkthrough.CommandLine

def main (arguments : List String) : IO UInt32 := Walkthrough.CommandLine.execute arguments
