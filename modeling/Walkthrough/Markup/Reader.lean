import Walkthrough.Markup.Token

/-!
# Reading a document

The tokens of a text are folded over the elements that are open.  A start tag opens an element
inside the innermost open one, an end tag closes that one, and character data is added to it.
Reading is lenient in three ways: character data outside all elements is passed over, only the
first element at the top is kept, and elements that are still open at the end are dropped.
-/

namespace Walkthrough.Markup

/-- The state of reading: the open elements, innermost first, and the first element that was
closed at the top. -/
structure Reading where
  opened : List Element
  root : Option Element

namespace Reading

/-- Nothing read yet. -/
def start : Reading := ⟨[], none⟩

/-- The state after an element inside the open ones is complete. -/
def complete (r : Reading) (e : Element) : Reading :=
  match r.opened with
  | parent :: outer => { r with opened := parent.addChild e :: outer }
  | [] => { r with root := r.root.or (some e) }

/-- The name that an end tag closes: its content without the blanks at the end, unless it holds
nothing else. -/
def closedName (content : List Char) : List Char :=
  if content.all isSpace then content else Text.dropEndWhile isSpace content

/-- The state after one more token. -/
def step (r : Reading) : Token → Except Error Reading
  | .silent => .ok r
  | .opening content => do
    return { r with opened := (← Element.ofTag content) :: r.opened }
  | .single content => do
    return r.complete (← Element.ofTag content)
  | .closing content =>
    match r.opened with
    | [] => .error (.wrongEnd "" (String.ofList content))
    | e :: outer =>
      let name := String.ofList (closedName content)
      if name = e.name then .ok ({ r with opened := outer }.complete e)
      else .error (.wrongEnd e.name name)
  | .text raw =>
    match r.opened with
    | [] => .ok r
    | e :: outer =>
      match unescape raw with
      | .ok more => .ok { r with opened := e.addText more :: outer }
      | .error cause => .error (.badReference cause)
  | .cdata content =>
    match r.opened with
    | [] => .ok r
    | e :: outer => .ok { r with opened := e.addText (String.ofList content) :: outer }

/-- The state after a list of tokens, which stops at a fault among them. -/
def run (r : Reading) (tokens : List (Except Error Token)) : Except Error Reading :=
  tokens.foldlM (fun r token => token.bind r.step) r

end Reading

/-- A list of characters without a byte order mark at its front. -/
def dropByteOrderMark : List Char → List Char
  | c :: s => if c.toNat = 0xFEFF then s else c :: s
  | [] => []

/-- The root element of a text. -/
def read (text : String) : Except Error Element := do
  let r ← Reading.start.run (Token.scan (dropByteOrderMark text.toList))
  match r.root with
  | some root => return root
  | none => .error .noRoot

end Walkthrough.Markup
