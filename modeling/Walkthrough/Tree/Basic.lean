import Walkthrough.Glossary
import Walkthrough.Phrasebook
import Walkthrough.Settings
import Walkthrough.Stop

/-!
# Trees

A tree is all that a walk reads and never changes: the document, its phrasebook, its media, its
hints, and the settings of the player.
-/

namespace Walkthrough

/-- Where the media of a tree are found. -/
structure Assets where
  /-- The file of an image of a name. -/
  image : String → Option String
  /-- The file of a sound of a name, for a listener of a language. -/
  audio : String → String → Option String

/-- No media at all. -/
def Assets.none : Assets := ⟨fun _ => .none, fun _ _ => .none⟩

/-- A tree document and what accompanies it. -/
structure Tree where
  /-- The folder that holds the tree, if it comes from one. -/
  folder : Option String
  document : Document
  phrases : Phrasebook
  assets : Assets
  /-- The hints in each language. -/
  glossary : String → Glossary
  settings : Settings
  /-- Hints are in the language that they are asked for. -/
  glossary_language (language : String) : (glossary language).language = language := by intro; rfl

namespace Tree

/-- How the tree is presented in a language at a time. -/
def presentation (t : Tree) (now : Moment) (language : String) : Presentation where
  say text := breakLines (t.phrases.wording language text)
  image := t.assets.image
  audio name := t.assets.audio name language
  endText := t.settings.endText
  now := now

/-- The stop at the node of a name, as it is presented in a language at a time. -/
def stop? (t : Tree) (now : Moment) (language name : String) : Option Stop :=
  t.document.stop? (t.presentation now language) name

/-- The language in which walks start. -/
def firstLanguage (t : Tree) : String := t.settings.language.getD t.document.baseLanguage

end Tree

end Walkthrough
