import Walkthrough.Error
import Walkthrough.Settings.Toml
import Walkthrough.Strings
import Walkthrough.Tree.Basic

/-!
# Trees in folders

A tree comes as a folder.  The document in it is named after the folder; its wording in other
languages is in the folder `trans` and hints are in the folder `hints`, one file for each
language; images are in `res`, and sounds in `audio` or in a folder in it for one language.  Only
the document is required: what else is missing or cannot be read is left out.
-/

namespace Walkthrough

/-- The path of the document in the folder of a tree. -/
def documentPath (files : Files) (folder : String) : Except Error String :=
  if !files.isFolder folder then .error (.notFolder folder)
  else
    match Path.fileName? folder with
    | none => .error (.badPath folder)
    | some name =>
      let path := Path.join folder (Path.stem name ++ ".xml")
      if files.isFile path then .ok path else .error (.noDocument path)

/-- The text of a file. -/
def loadText (files : Files) (path : String) : Except Error String :=
  (files.readText path).mapError .file

/-- The document in the folder of a tree. -/
def Document.load (files : Files) (folder : String) : Except Error Document := do
  Document.read (← loadText files (← documentPath files folder))

/-- The table of strings in a file. -/
def Strings.load (files : Files) (path : String) : Except Error (Table String) := do
  (Strings.read (← loadText files path)).mapError .markup

/-- The element in a file. -/
def loadMarkup (files : Files) (path : String) : Except Error Markup.Element := do
  (Markup.read (← loadText files path)).mapError .markup

/-- The settings in a file. -/
def Settings.load (files : Files) (path : String) : Except Error Settings := do
  (Settings.ofToml (← loadText files path)).mapError .settings

/-- The files after settings are written to one of them. -/
def Settings.save (files : Files) (path : String) (s : Settings) : Except Error Files :=
  (files.writeText path s.toToml).mapError .file

/-! ### Wording and hints -/

/-- Whether a file is named as a table of strings. -/
def isStringsFile (name : String) : Bool :=
  (Path.extension? name).any fun extension => extension.toLower == "xml"

namespace Phrasebook

/-- The phrasebook with what stands in a folder under a name added, if it is a file named as a table
of strings, or a link to one.  It announces its language even if it cannot be read. -/
def addFile (files : Files) (folder : String) (b : Phrasebook) (e : String × FileEntry) :
    Phrasebook :=
  if isStringsFile e.1 && files.leadsToFile folder e then
    let language := Path.stem e.1
    match Strings.load files (Path.join folder e.1) with
    | .ok table => (b.setTable language table).announce language
    | .error _ => b.announce language
  else b

/-- The phrasebook in the folder of a tree. -/
def load (files : Files) (root base : String) : Phrasebook :=
  let folder := Path.join root "trans"
  (files.list folder).foldl (addFile files folder) (none base)

end Phrasebook

/-- The hints in a language in the folder of a tree. -/
def Glossary.load (files : Files) (root language : String) : Glossary :=
  let path := Path.join (Path.join root "hints") (language ++ ".xml")
  if files.isFile path then
    match Strings.load files path with
    | .ok table => ⟨language, table⟩
    | .error _ => none language
  else none language

theorem Glossary.language_load (files : Files) (root language : String) :
    (Glossary.load files root language).language = language := by
  simp only [Glossary.load]
  split
  · split <;> rfl
  · rfl

/-! ### Media -/

/-- The names of the files in a folder, in order.  Links do not count as files here. -/
def fileNames (files : Files) (folder : String) : List String :=
  Ascending.ofList <| (files.list folder).filterMap fun e =>
    match e.2 with
    | .file _ => some e.1
    | _ => none

/-- The extensions of images. -/
def imageExtensions : List String := ["jpg", "jpeg", "png", "gif", "bmp"]

/-- Whether a file of a name holds the image of another name.  Letter case does not matter. -/
def isImageOf (image file : String) : Bool :=
  imageExtensions.any fun extension =>
    Text.lower (image ++ "." ++ extension) == Text.lower file

namespace Assets

/-- The file of an image in the folder of a tree. -/
def findImage (files : Files) (root image : String) : Option String :=
  let folder := Path.join root "res"
  if image.isEmpty then .none
  else ((fileNames files folder).find? (isImageOf image)).map (Path.join folder)

/-- The file of a sound in one folder. -/
def findAudioIn (files : Files) (folder audio : String) : Option String :=
  ((fileNames files folder).find? fun file => Path.stem file == audio).map (Path.join folder)

/-- The file of a sound in the folder of a tree: one for the language, or else one for all. -/
def findAudio (files : Files) (root audio language : String) : Option String :=
  let folder := Path.join root "audio"
  if audio.isEmpty then .none
  else (findAudioIn files (Path.join folder language) audio).or (findAudioIn files folder audio)

/-- The media in the folder of a tree. -/
def inFolder (files : Files) (root : String) : Assets :=
  ⟨findImage files root, findAudio files root⟩

end Assets

/-- The tree in a folder. -/
def Tree.load (files : Files) (root : String) (settings : Settings) : Except Error Tree := do
  let document ← Document.load files root
  return {
    folder := some root
    document := document
    phrases := Phrasebook.load files root document.baseLanguage
    assets := Assets.inFolder files root
    glossary := Glossary.load files root
    settings := settings
    glossary_language := Glossary.language_load files root }

end Walkthrough
