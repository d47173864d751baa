import Walkthrough.Json.Basic

/-!
# Fields of JSON values

Records and settings are read from JSON field by field.  A structure with fields of given names
is written as an object, in which the order of the members is free and members of other names are
passed over, or as an array of the values in the order of the names.
-/

namespace Walkthrough.Json

/-- The values of the members of one name. -/
def valuesOf (name : String) (members : List (String × Json)) : List Json :=
  (members.filter fun m => m.1 == name).map Prod.snd

/-- The value of a name that is a member at most once. -/
def field? (members : List (String × Json)) (name : String) : Option (Option Json) :=
  match valuesOf name members with
  | [] => some none
  | [value] => some (some value)
  | _ => none

/-- The values of the fields of a structure, if the value writes one.  A field may be missing,
though in an array only if the fields after it are missing too. -/
def fields? (names : List String) : Json → Option (List (Option Json))
  | object members => names.mapM (field? members)
  | array elements =>
    if elements.length ≤ names.length then
      some (elements.map some ++ List.replicate (names.length - elements.length) none)
    else none
  | _ => none

/-- A text. -/
def string? : Json → Option String
  | string text => some text
  | _ => none

/-- A truth value. -/
def bool? : Json → Option Bool
  | bool value => some value
  | _ => none

/-- A word from a fixed choice: a text, or an object with that word as its one key and nothing as
its value. -/
def word? : Json → Option String
  | string text => some text
  | object [(text, null)] => some text
  | _ => none

/-- A value that may be missing or null. -/
def optional? {α : Type} (read : Json → Option α) : Option Json → Option (Option α)
  | none => some none
  | some null => some none
  | some value => (read value).map some

/-- A value that may be missing and has a default. -/
def orDefault? {α : Type} (default : α) (read : Json → Option α) : Option Json → Option α
  | none => some default
  | some value => read value

end Walkthrough.Json
