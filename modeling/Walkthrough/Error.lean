import Walkthrough.Document
import Walkthrough.Files
import Walkthrough.Markup.Error
import Walkthrough.Toml.Reader

/-!
# Why a walk cannot start

A walk is refused when its document or its settings cannot be read, or when the document does not
say where to start.  Everything else, missing phrases, hints and media and names that are
malformed, is put up with.
-/

namespace Walkthrough

/-- Why a walk cannot start, or its records cannot be written. -/
inductive Error
  | notFolder (path : String)
  | noDocument (path : String)
  /-- The path ends by going up, so the document that it should hold has no name. -/
  | badPath (path : String)
  /-- The root element has a name that is not the one of documents. -/
  | otherRoot (name : String)
  | noStart
  | startNotFound (name : String)
  | markup (cause : Markup.Error)
  | settings (cause : Toml.Error)
  | json
  | file (cause : FileError)
  deriving DecidableEq, Repr

/-- The wording of a refusal. -/
def Error.message : Error → String
  | notFolder path => s!"not a tree directory: {path}"
  | noDocument path => s!"tree document not found: {path}"
  | badPath path => s!"invalid path: {path}"
  | otherRoot name =>
    s!"invalid tree document: expected <process-definition> root, found <{name}>"
  | noStart => "tree document has no start state"
  | startNotFound name => s!"start node not found: {name}"
  | markup (.badAttribute cause) => "XML attribute error: " ++ cause.message
  | markup .noRoot => "invalid tree document: " ++ Markup.Error.noRoot.message
  | markup cause => "XML parse error: " ++ cause.message
  | settings cause => "TOML error: " ++ cause.message
  | json => "JSON error: not a value of the expected form"
  | file cause => "IO error: " ++ cause.message

/-- The document that a text holds. -/
def Document.read (text : String) : Except Error Document :=
  match Markup.read text with
  | .error cause => .error (.markup cause)
  | .ok root =>
    match Document.ofRoot? root with
    | some d => .ok d
    | none => .error (.otherRoot root.name)

end Walkthrough
