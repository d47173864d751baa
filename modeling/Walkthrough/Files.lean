import Walkthrough.Path

/-!
# File trees

A walk reads its document, phrases, hints and media from files, and writes one export.  This
file describes a file tree as a value: what stands at every path, and the folder from which
relative paths start.  Paths are resolved as an operating system resolves them, name by name and
through symbolic links, with a bound on the number of links that are followed.  Only texts are
ever read, so a file is its text, or nothing if its bytes are not UTF-8.
-/

namespace Walkthrough

/-- What can go wrong with a file. -/
inductive FileError
  | notFound
  | occupied
  | notFolder
  | isFolder
  | tooManyLinks
  | nameTooLong
  | notText
  | badName
  deriving DecidableEq, Repr

/-- The wording of a fault with a file. -/
def FileError.message : FileError → String
  | notFound => "No such file or directory (os error 2)"
  | occupied => "File exists (os error 17)"
  | notFolder => "Not a directory (os error 20)"
  | isFolder => "Is a directory (os error 21)"
  | tooManyLinks => "Too many levels of symbolic links (os error 40)"
  | nameTooLong => "File name too long (os error 36)"
  | notText => "stream did not contain valid UTF-8"
  | badName => "file name contained an unexpected NUL byte"

/-- What stands at a path. -/
inductive FileEntry
  | folder
  /-- A file, with its text if its bytes are one. -/
  | file (text : Option String)
  /-- A symbolic link to a path. -/
  | link (target : String)
  deriving DecidableEq, Repr

/-- What stands at each path below the root, and the folder from which relative paths start.  A name
is a text: one whose bytes are not UTF-8 stands as its lossy decoding, with a replacement character
for what is none.  Names in one folder that decode alike are left out, since they could not be told
apart. -/
structure Files where
  entries : List (List String × FileEntry)
  working : List String

/-- Where a path leads. -/
inductive FilePlace
  /-- To an entry, which stands at this path from the root. -/
  | found (path : List String) (entry : FileEntry)
  /-- To a name that is free, in a folder that exists. -/
  | free (path : List String)
  deriving DecidableEq, Repr

namespace Files

/-- The tree with nothing below its root. -/
def empty : Files := ⟨[], []⟩

/-- What stands at a path from the root.  The root itself is a folder. -/
def entry? (t : Files) (path : List String) : Option FileEntry :=
  if path.isEmpty then some .folder
  else (t.entries.find? fun e => e.1 == path).map Prod.snd

/-- The tree with an entry put at a path, in place of the one that stood there. -/
def put (t : Files) (path : List String) (entry : FileEntry) : Files :=
  if (t.entry? path).isSome then
    { t with entries := t.entries.map fun e => if e.1 = path then (path, entry) else e }
  else { t with entries := t.entries ++ [(path, entry)] }

/-- How many links are followed on one path. -/
def linkBound : Nat := 40

/-- How many bytes a name may have. -/
def nameBound : Nat := 255

/-- How many bytes a path may have. -/
def pathBound : Nat := 4095

/-- Where the names `rest` lead from the folder `here`.  A link at the end is followed only if
`follow` holds. -/
def resolveFrom (t : Files) (follow : Bool) (links : Nat) (here : List String)
    (rest : List String) : Except FileError FilePlace :=
  match rest with
  | [] => .ok (.found here .folder)
  | name :: rest =>
    if Path.staysPut name then resolveFrom t follow links here rest
    else if name = ".." then resolveFrom t follow links here.dropLast rest
    else if name.utf8ByteSize > nameBound then .error .nameTooLong
    else
      let path := here ++ [name]
      match t.entry? path with
      | none => if rest.isEmpty then .ok (.free path) else .error .notFound
      | some .folder => resolveFrom t follow links path rest
      | some (.file text) =>
        if rest.isEmpty then .ok (.found path (.file text)) else .error .notFolder
      | some (.link target) =>
        -- a link is followed wherever more names come after it
        if rest.isEmpty && !follow then .ok (.found path (.link target))
        else
          match links with
          | 0 => .error .tooManyLinks
          | links + 1 =>
            resolveFrom t follow links (if Path.isAbsolute target then [] else here)
              (Path.names target ++ rest)
termination_by (links, rest.length)

/-- Where the given names, those along a path, lead, a link at the end followed if `follow`
holds. -/
def resolveNames (t : Files) (follow : Bool) (path : String) (names : List String) :
    Except FileError FilePlace :=
  if path.toList.any (·.toNat == 0) then .error .badName
  else if path.isEmpty then .error .notFound
  else if path.utf8ByteSize > pathBound then .error .nameTooLong
  else resolveFrom t follow linkBound (if Path.isAbsolute path then [] else t.working) names

/-- Where a path leads, a link at its end followed if `follow` holds.  A slash at the end asks for
a folder, so a link before it is always followed. -/
def resolve (t : Files) (follow : Bool) (path : String) : Except FileError FilePlace :=
  t.resolveNames follow path (Path.names path)

/-- Whether a path leads to a folder. -/
def isFolder (t : Files) (path : String) : Bool :=
  match t.resolve true path with
  | .ok (.found _ .folder) => true
  | _ => false

/-- Whether a path leads to a file. -/
def isFile (t : Files) (path : String) : Bool :=
  match t.resolve true path with
  | .ok (.found _ (.file _)) => true
  | _ => false

/-- The text of the file that a path leads to. -/
def readText (t : Files) (path : String) : Except FileError String :=
  match t.resolve true path with
  | .ok (.found _ (.file (some text))) => .ok text
  | .ok (.found _ (.file none)) => .error .notText
  | .ok (.found _ _) => .error .isFolder
  | .ok (.free _) => .error .notFound
  | .error cause => .error cause

/-- The names directly below the folder that a path leads to, each with what stands there. -/
def list (t : Files) (path : String) : List (String × FileEntry) :=
  match t.resolve true path with
  | .ok (.found folder .folder) =>
    t.entries.filterMap fun e =>
      match e.1.getLast? with
      | some name => if e.1.dropLast = folder then some (name, e.2) else none
      | none => none
  | _ => []

/-- Whether what stands under a name in a folder is a file, or a link that leads to one.  Only links
are followed, so a file counts even if its path is too long to be read. -/
def leadsToFile (t : Files) (folder : String) (e : String × FileEntry) : Bool :=
  match e.2 with
  | .file _ => true
  | .link _ => t.isFile (Path.join folder e.1)
  | .folder => false

/-- The tree after a folder is made at a path.  Slashes at the end change nothing, for what comes
to stand there is a folder. -/
def makeFolder (t : Files) (path : String) : Except FileError Files :=
  match t.resolveNames false path (Path.namesOfFolder path) with
  | .ok (.found _ _) => .error .occupied
  | .ok (.free place) => .ok (t.put place .folder)
  | .error cause => .error cause

/-- The tree after a folder is made at a path that may exist already, `outer` being what makes
the folders around it if they are missing. -/
def ensureFolder (t : Files) (outer : Except FileError Files) (path : String) :
    Except FileError Files :=
  match t.makeFolder path with
  | .ok made => .ok made
  | .error .notFound => do
    let t ← outer
    match t.makeFolder path with
    | .ok made => .ok made
    | .error cause => if t.isFolder path then .ok t else .error cause
  -- what stands at the path already may be a folder, or a link to one
  | .error cause => if t.isFolder path then .ok t else .error cause

/-- The tree after folders are made along the first `n` of the given steps. -/
def ensureSteps (t : Files) (root : String) (steps : List String) : Nat → Except FileError Files
  | 0 => .ok t
  | n + 1 =>
    t.ensureFolder (t.ensureSteps root steps n) (root ++ "/".intercalate (steps.take (n + 1)))

/-- The tree after a folder, and the folders around it, are made unless they exist. -/
def ensureFolders (t : Files) (path : String) : Except FileError Files :=
  if path.isEmpty then .ok t
  else
    let steps := Path.steps path
    let root := if Path.isAbsolute path then "/" else ""
    t.ensureFolder (t.ensureSteps root steps (steps.length - 1)) path

/-- The tree after a text is written to a file, which is made or replaced. -/
def writeText (t : Files) (path text : String) : Except FileError Files :=
  match t.resolve true path with
  | .ok (.found _ .folder) => .error .isFolder
  | .ok (.found place _) => .ok (t.put place (.file (some text)))
  | .ok (.free place) => .ok (t.put place (.file (some text)))
  | .error cause => .error cause

end Files

end Walkthrough
