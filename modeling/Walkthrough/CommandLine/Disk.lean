import Walkthrough.Files

/-!
# Files on disk

The library works on a value that stands for the files.  This file takes that value from a disk,
as far as a command can ask for it, and brings what a command changed back to the disk.
-/

namespace Walkthrough.Disk

/-- The path of a list of names from the root. -/
def pathText (path : List String) : String := "/" ++ "/".intercalate path

/-- The names of a path from the root, for a path that starts in a folder. -/
def namesFrom (working : List String) (path : String) : List String :=
  if Path.isAbsolute path then Path.names path else working ++ Path.names path

/-- The folder in which the program runs, without files. -/
def start : IO Files := do
  return ⟨[], Path.steps (← IO.currentDir).toString⟩

/-- The text of a file, if it is one. -/
def text? (path : List String) : IO (Option String) := do
  try
    return String.fromUTF8? (← IO.FS.readBinFile (pathText path))
  catch _ => return none

/-- The path to which a link leads.  One that leads nowhere is taken to lead to itself. -/
def target (path : List String) : IO String := do
  try
    return (← IO.FS.realPath (pathText path)).toString
  catch _ => return pathText path

/-- The files with what stands at a path, texts included if `reading` holds, and whether that is
a link. -/
def look (files : Files) (reading : Bool) (path : List String) : IO (Files × Option String) := do
  try
    let folder ← IO.FS.realPath (pathText path.dropLast)
    let info ← (folder / path.getLastD "").symlinkMetadata
    match info.type with
    | .dir => return (files.put path .folder, none)
    | .symlink =>
      let goal ← target path
      return (files.put path (.link goal), some goal)
    | _ =>
      let content ← if reading then text? path else pure none
      return (files.put path (.file content), none)
  catch _ => return (files, none)

/-- The files with what stands along a path, `here` being the names already walked and `links`
the number of links that may still be followed. -/
def lookAlong (links : Nat) (files : Files) (here rest : List String) : IO Files := do
  match rest with
  | [] => return files
  | name :: rest =>
    if Path.staysPut name then lookAlong links files here rest
    else if name = ".." then lookAlong links files here.dropLast rest
    else
      let (files, goal?) ← look files true (here ++ [name])
      match goal? with
      | none => lookAlong links files (here ++ [name]) rest
      | some goal =>
        match links with
        | 0 => return files
        | links + 1 => lookAlong links files [] (Path.names goal ++ rest)
termination_by (links, rest.length)

/-- The files with what a path leads to. -/
def lookAt (files : Files) (path : String) : IO Files :=
  lookAlong Files.linkBound files [] (namesFrom files.working path)

/-- The files with what stands below a folder, down to a depth. -/
def lookBelow (files : Files) (path : String) : Nat → IO Files
  | 0 => lookAt files path
  | depth + 1 => do
    let files ← lookAt files path
    try
      let entries ← (← IO.FS.realPath path).readDir
      entries.foldlM (fun files entry => lookBelow files (Path.join path entry.fileName) depth)
        files
    catch _ => return files

/-- Makes the folders and writes the files that are in `after` and were not in `before`. -/
def commit (before after : Files) : IO Unit :=
  for (path, entry) in after.entries do
    if before.entry? path != some entry then
      match entry with
      | .folder => IO.FS.createDirAll (pathText path)
      | .file text => IO.FS.writeFile (pathText path) (text.getD "")
      | .link _ => pure ()

end Walkthrough.Disk
