import Walkthrough.Table
import Walkthrough.Text.Case
import Walkthrough.Text.Cut

/-!
# Glossaries

A glossary explains words in one language.  When a text is shown, the explanations of all the
words that occur in it are shown below.
-/

namespace Walkthrough

/-- The words explained in a language, each with its hint. -/
structure Glossary where
  language : String
  hints : Table String

namespace Glossary

/-- A glossary without words. -/
def none (language : String) : Glossary := ⟨language, Table.empty⟩

/-- The hint for a word. -/
def hint? (g : Glossary) (word : String) : Option String := g.hints.get? word

/-- Whether a word is not empty and occurs in a text; letter case does not matter. -/
def occurs (text word : String) : Bool :=
  !word.isEmpty && Text.contains (Text.lower text) (Text.lower word)

/-- The words that occur in a text, each with its hint, in the order of the glossary. -/
def hintsIn (g : Glossary) (text : String) : List (String × String) :=
  g.hints.entries.filter fun entry => occurs text entry.1

end Glossary

end Walkthrough
