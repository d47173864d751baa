import Walkthrough.Table

/-!
# Elements

A document is read into a tree of elements.  An element keeps its attributes in the order of
writing, its child elements in document order, and its character data in one piece.
-/

namespace Walkthrough.Markup

/-- An element: its name, its attributes, its child elements and its text. -/
structure Element where
  name : String
  attributes : Table String
  children : List Element
  text : String

namespace Element

instance : Inhabited Element := ⟨⟨"", Table.empty, [], ""⟩⟩

/-- The value of an attribute. -/
def attribute? (e : Element) (key : String) : Option String := e.attributes.get? key

/-- The child elements of one name. -/
def childrenNamed (e : Element) (name : String) : List Element :=
  e.children.filter fun child => child.name == name

/-- The first child element of one name. -/
def firstChild? (e : Element) (name : String) : Option Element :=
  e.children.find? fun child => child.name == name

/-- The element with one more child at the end. -/
def addChild (e : Element) (child : Element) : Element :=
  { e with children := e.children ++ [child] }

/-- The element with more character data at the end. -/
def addText (e : Element) (more : String) : Element :=
  { e with text := e.text ++ more }

end Element

end Walkthrough.Markup
