import Walkthrough.Text.Quoted

/-!
# What can be wrong with a marked-up text

Reading a marked-up text stops at the first fault in document order.  Faults come from three
places, the tokens, the references to characters and the attributes, and each place has a type of
causes here with one function that words them.  Positions count bytes.
-/

namespace Walkthrough.Markup

/-- The constructs that can be left unfinished. -/
inductive Construct
  | instruction
  | declaration
  | comment
  | cdata
  | doctype
  deriving DecidableEq, Repr

/-- The name of a construct in messages. -/
def Construct.label : Construct → String
  | instruction => "XmlDecl"
  | declaration => "Bang"
  | comment => "Comment"
  | cdata => "CData"
  | doctype => "DOCTYPE"

/-- What can be wrong with a reference to a character. -/
inductive ReferenceError
  /-- The ampersand at `first` is not followed by a semicolon in a text that ends at `last`. -/
  | unterminated (first last : Nat)
  /-- The name between the positions `first` and `last` stands for no character. -/
  | unknownName (first last : Nat) (name : String)
  /-- The reference between `first` and `last` is to the character zero. -/
  | null (first last : Nat)
  | longHexadecimal
  | longDecimal
  | badHexadecimal (byte : Char)
  | badDecimal (byte : Char)
  | noCharacter (code : Nat)
  deriving DecidableEq, Repr

/-- The wording of a wrong reference. -/
def ReferenceError.message : ReferenceError → String
  | unterminated first last =>
    s!"Error while escaping character at range {first}..{last}: Cannot find ';' after '&'"
  | unknownName first last name =>
    s!"Error while escaping character at range {first}..{last}: Unrecognized escape symbol: " ++
      Text.quoted name
  | null first last =>
    s!"Error while escaping character at range {first}..{last}: Null character entity not allowed"
  | longHexadecimal => "Cannot convert hexadecimal to utf8"
  | longDecimal => "Cannot convert decimal to utf8"
  | badHexadecimal byte => s!"'{byte}' is not a valid hexadecimal character"
  | badDecimal byte => s!"'{byte}' is not a valid decimal character"
  | noCharacter code => s!"'{code}' is not a valid codepoint"

/-- What can be wrong with an attribute.  Positions count from the start of the tag's name. -/
inductive AttributeError
  | missingEquals (position : Nat)
  | missingValue (position : Nat)
  | unquotedValue (position : Nat)
  | missingQuote (position : Nat) (quote : Char)
  /-- The key at `position` was already written at `earlier`. -/
  | duplicate (position earlier : Nat)
  deriving DecidableEq, Repr

/-- The wording of a wrong attribute. -/
def AttributeError.message : AttributeError → String
  | missingEquals position =>
    s!"position {position}: attribute key must be directly followed by `=` or space"
  | missingValue position => s!"position {position}: `=` must be followed by an attribute value"
  | unquotedValue position =>
    s!"position {position}: attribute value must be enclosed in `\"` or `'`"
  | missingQuote position quote =>
    s!"position {position}: missing closing quote `{quote}` in attribute value"
  | duplicate position earlier =>
    s!"position {position}: duplicated attribute, previous declaration at position {earlier}"

/-- What can be wrong with a marked-up text. -/
inductive Error
  | unfinished (what : Construct)
  /-- An exclamation mark at the start of a tag introduces nothing that begins with `byte`. -/
  | unknownDeclaration (byte : Char)
  | emptyDoctype
  /-- The end tag `found` does not close the open element `expected`. -/
  | wrongEnd (expected found : String)
  | badReference (cause : ReferenceError)
  | badAttribute (cause : AttributeError)
  | noRoot
  deriving DecidableEq, Repr

/-- The wording of a fault. -/
def Error.message : Error → String
  | unfinished what => "Unexpected EOF during reading " ++ what.label
  | unknownDeclaration byte =>
    "Only Comment (`--`), CDATA (`[CDATA[`) and DOCTYPE (`DOCTYPE`) nodes can start with a '!', "
      ++ s!"but symbol `{byte}` found"
  | emptyDoctype => "DOCTYPE declaration must not be empty"
  | wrongEnd expected found => s!"Expecting </{expected}> found </{found}>"
  | badReference cause => cause.message
  | badAttribute cause => cause.message
  | noRoot => "document has no root element"

end Walkthrough.Markup
