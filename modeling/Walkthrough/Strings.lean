import Walkthrough.Markup.Reader

/-!
# Tables of strings

Phrasebooks and hints come in documents of one layout: elements called `string`, at any depth,
each with a text of the tree as its `name` and what is said about it as its content.  Such a
document stands for the table that results from writing its strings in document order.  A string
inside another string is part of that one's content and does not count.
-/

namespace Walkthrough.Strings

open Markup (Element)

mutual

/-- The table after the strings that an element stands for are written: itself if it is one, or else
those inside it.  A string without a name is not written. -/
def writeElement (t : Table String) : Element → Table String
  | ⟨name, attributes, children, text⟩ =>
    if name = "string" then
      match attributes.get? "name" with
      | some key => t.insert key text
      | none => t
    else writeElements t children

/-- The table after the strings that the elements of a list stand for are written in turn. -/
def writeElements (t : Table String) : List Element → Table String
  | [] => t
  | e :: rest => writeElements (writeElement t e) rest

end

/-- The table of the strings inside a root element, whatever the root itself is called. -/
def tableOf (root : Element) : Table String := writeElements Table.empty root.children

/-- The table of strings that a document holds. -/
def read (text : String) : Except Markup.Error (Table String) := tableOf <$> Markup.read text

end Walkthrough.Strings
