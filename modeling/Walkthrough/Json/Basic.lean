/-!
# JSON values

Recorded answers are exported as JSON and read back from it.  A number keeps the text that writes
it, because the only numbers that matter are indices and those are checked where they are used.
An object keeps its members in order, and keeps every one of them.
-/

namespace Walkthrough

/-- A JSON value. -/
inductive Json
  | null
  | bool (value : Bool)
  | number (literal : String)
  | string (text : String)
  | array (elements : List Json)
  | object (members : List (String × Json))

end Walkthrough
