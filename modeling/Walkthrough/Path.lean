import Walkthrough.Text.Cut

/-!
# Paths

Paths are texts with slashes between the names of folders.  They are joined and taken apart as
texts, without a look at any file, because the text of a path is what the player shows.
-/

namespace Walkthrough.Path

/-- Whether a path starts at the root of the file tree. -/
def isAbsolute (path : String) : Bool := path.toList.head? == some '/'

/-- The path of `inner` as seen from the folder `outer`.  An absolute path is the same from
everywhere. -/
def join (outer inner : String) : String :=
  if isAbsolute inner || outer.isEmpty then inner
  else if outer.toList.getLast? == some '/' then outer ++ inner
  else outer ++ "/" ++ inner

/-- The names along a path.  A slash at the end leaves an empty name. -/
def names (path : String) : List String := Text.pieces '/' path

/-- The names along the path of a folder, at whose end slashes say nothing. -/
def namesOfFolder (path : String) : List String :=
  ((names path).reverse.dropWhile (· == "")).reverse

/-- Whether a name along a path leaves it in the same folder. -/
def staysPut (name : String) : Bool := name == "" || name == "."

/-- The names along a path that lead to another folder. -/
def steps (path : String) : List String := (names path).filter fun name => !staysPut name

/-- The name of the file that a path leads to, unless the path ends by going up. -/
def fileName? (path : String) : Option String :=
  (steps path).getLast?.filter (· != "..")

/-- A file name without what follows its last dot, and that, if it counts as an extension: a dot
at the very front does not start one. -/
def splitExtension (name : String) : String × Option String :=
  match Text.cutLast? "." name with
  | some (stem, extension) => if stem.isEmpty then (name, none) else (stem, some extension)
  | none => (name, none)

/-- A file name without its extension. -/
def stem (name : String) : String := (splitExtension name).1

/-- The extension of a file name. -/
def extension? (name : String) : Option String := (splitExtension name).2

end Walkthrough.Path
