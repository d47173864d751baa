import Mathlib
import Walkthrough.Proofs.Ascending
import Walkthrough.Proofs.ByteOrder
import Walkthrough.Proofs.Listings
import Walkthrough.Tree.Folder

/-!
# Media found by name

An image or a sound goes by a name, and the folder of a tree may hold several files for it.  The one
that is found is the first in the order of bytes, so that it is the same on every disk.  Main
statement: among the files that hold an image of a name, and among those that hold a sound of it,
the search gives the first one, with sounds for the language of the listener before all others, and
it gives none only if there is none.
-/

namespace Walkthrough

/-- Whether a name comes first, in the order of bytes, among those with a property. -/
structure IsFirst (p : String → Prop) (name : String) : Prop where
  holds : p name
  first : ∀ other, p other → other ≠ name → Text.bytes name < Text.bytes other

lemma IsFirst.unique {p : String → Prop} {a b : String} (ha : IsFirst p a) (hb : IsFirst p b) :
    a = b := by
  by_contra hne
  have hab := Text.bytes_lt_bytes.1 (ha.first b hb.holds (Ne.symm hne))
  have hba := Text.bytes_lt_bytes.1 (hb.first a ha.holds hne)
  exact lt_asymm hab hba

namespace Files

/-- Whether a folder holds a file under a name.  A link is not a file. -/
def HoldsFile (t : Files) (folder name : String) : Prop := ∃ text, t.Holds folder name (.file text)

/-- What a search in a folder may give: the path of the first file whose name has a property, or
nothing if there is no such file. -/
inductive Finds (t : Files) (folder : String) (p : String → Prop) : Option String → Prop
  | found {file : String} (h : IsFirst (fun file => t.HoldsFile folder file ∧ p file) file) :
      Finds t folder p (some (Path.join folder file))
  | nothing (h : ∀ file, t.HoldsFile folder file → ¬p file) : Finds t folder p none

variable {t t' : Files} {folder name : String} {p : String → Prop} {a b : Option String}

lemma Finds.unique (ha : t.Finds folder p a) (hb : t.Finds folder p b) : a = b := by
  cases ha with
  | found ha =>
    cases hb with
    | found hb => rw [ha.unique hb]
    | nothing hb => exact absurd ha.holds.2 (hb _ ha.holds.1)
  | nothing ha =>
    cases hb with
    | found hb => exact absurd hb.holds.2 (ha _ hb.holds.1)
    | nothing hb => rfl

lemma Reordered.holdsFile_iff (h : t.Reordered t') :
    t'.HoldsFile folder name ↔ t.HoldsFile folder name := by
  simp only [HoldsFile, h.holds_iff]

/-- What is found does not depend on the order of listings. -/
lemma Reordered.finds (h : t.Reordered t') (ha : t.Finds folder p a) : t'.Finds folder p a := by
  have hsame : (fun file => t.HoldsFile folder file ∧ p file) =
      fun file => t'.HoldsFile folder file ∧ p file := by
    simp only [h.holdsFile_iff]
  cases ha with
  | found ha => exact .found (hsame ▸ ha)
  | nothing ha => exact .nothing fun file hfile => ha file (h.holdsFile_iff.1 hfile)

/-! ### Searching -/

lemma Distinct.mem_fileNames (ht : t.Distinct) :
    name ∈ fileNames t folder ↔ t.HoldsFile folder name := by
  rw [fileNames, Ascending.mem_ofList, List.mem_filterMap]
  constructor
  · rintro ⟨⟨file, entry⟩, hmem, hfile⟩
    cases entry with
    | file text =>
      obtain rfl := Option.some.inj hfile
      exact ⟨text, ht.mem_list.1 hmem⟩
    | folder => cases hfile
    | link target => cases hfile
  · rintro ⟨text, hholds⟩
    exact ⟨_, ht.mem_list.2 hholds, rfl⟩

/-- The first file of a folder that passes a test is found. -/
lemma Distinct.finds (ht : t.Distinct) (folder : String) (q : String → Bool) :
    t.Finds folder (fun file => q file = true)
      (((fileNames t folder).find? q).map (Path.join folder)) := by
  have hascending : (fileNames t folder).Pairwise (· < ·) := Ascending.pairwise_ofList _
  cases hfound : (fileNames t folder).find? q with
  | none =>
    rw [List.find?_eq_none] at hfound
    exact .nothing fun file hfile => hfound file (ht.mem_fileNames.2 hfile)
  | some file =>
    obtain ⟨hmem, hq, hfirst⟩ := (Ascending.find?_eq_some hascending).1 hfound
    refine .found ⟨⟨ht.mem_fileNames.1 hmem, hq⟩, fun other hother hne => ?_⟩
    have hle := hfirst other (ht.mem_fileNames.2 hother.1) hother.2
    exact Text.bytes_lt_bytes.2 (lt_of_le_of_ne hle (Ne.symm hne))

end Files

/-! ### Images and sounds -/

namespace Assets

variable {t t' : Files} {root name language : String}

/-- Whether a file is named as the image of a name with one of the known extensions.  Letter case
does not matter. -/
def ShowsImage (name file : String) : Prop :=
  ∃ extension ∈ imageExtensions, Text.lower file = Text.lower (name ++ "." ++ extension)

/-- Whether a file has a name, up to its extension. -/
def PlaysSound (name file : String) : Prop := Path.stem file = name

/-- What a search for a sound gives: what is found for the language of the listener, or else what is
found for all listeners. -/
inductive FindsSound (t : Files) (root language name : String) (found : Option String) : Prop
  | own {path : String} (h : found = some path)
      (hown : t.Finds (Path.join (Path.join root "audio") language) (PlaysSound name) (some path))
  | shared
      (hown : t.Finds (Path.join (Path.join root "audio") language) (PlaysSound name) Option.none)
      (h : t.Finds (Path.join root "audio") (PlaysSound name) found)

lemma finds_findImage (ht : t.Distinct) (root : String) (hname : name ≠ "") :
    t.Finds (Path.join root "res") (ShowsImage name) (findImage t root name) := by
  have hshows : (fun file => isImageOf name file = true) = ShowsImage name := by
    funext file
    rw [isImageOf, List.any_eq_true, ShowsImage]
    simp only [beq_iff_eq, @eq_comm _ (Text.lower file)]
  rw [findImage, if_neg (by simpa using hname), ← hshows]
  exact ht.finds _ _

lemma finds_findAudioIn (ht : t.Distinct) (folder name : String) :
    t.Finds folder (PlaysSound name) (findAudioIn t folder name) := by
  have hplays : (fun file => (Path.stem file == name) = true) = PlaysSound name := by
    funext file
    rw [beq_iff_eq, PlaysSound]
  rw [findAudioIn, ← hplays]
  exact ht.finds _ _

lemma findsSound_findAudio (ht : t.Distinct) (root language : String) (hname : name ≠ "") :
    FindsSound t root language name (findAudio t root name language) := by
  have hown := finds_findAudioIn ht (Path.join (Path.join root "audio") language) name
  have hshared := finds_findAudioIn ht (Path.join root "audio") name
  rw [findAudio, if_neg (by simpa using hname)]
  cases hfound : findAudioIn t (Path.join (Path.join root "audio") language) name with
  | some path => exact .own rfl (hfound ▸ hown)
  | none => exact .shared (hfound ▸ hown) hshared

lemma FindsSound.unique {a b : Option String} (ha : FindsSound t root language name a)
    (hb : FindsSound t root language name b) : a = b := by
  cases ha with
  | own ha hown =>
    cases hb with
    | own hb hown' => rw [ha, hb, hown.unique hown']
    | shared hown' hb => cases hown.unique hown'
  | shared hown ha =>
    cases hb with
    | own hb hown' => cases hown.unique hown'
    | shared hown' hb => exact ha.unique hb

lemma FindsSound.reordered (h : t.Reordered t') {a : Option String}
    (ha : FindsSound t root language name a) : FindsSound t' root language name a := by
  cases ha with
  | own ha hown => exact .own ha (h.finds hown)
  | shared hown ha => exact .shared (h.finds hown) (h.finds ha)

/-- The image of a name is the first file in the folder `res` that shows it, and its sound in a
language is the first file in the folder of that language that plays it, or else the first one in
the folder `audio`.  The order in which folders are listed has no part in it. -/
theorem finds_media (ht : t.Distinct) (root : String) (hname : name ≠ "") :
    t.Finds (Path.join root "res") (ShowsImage name) (findImage t root name) ∧
      (∀ language, FindsSound t root language name (findAudio t root name language)) ∧
      ∀ t', t.Reordered t' → findImage t' root name = findImage t root name ∧
        ∀ language, findAudio t' root name language = findAudio t root name language := by
  have himage := finds_findImage ht root hname
  have hsound (language : String) := findsSound_findAudio ht root language hname
  refine ⟨himage, hsound, fun t' h => ⟨?_, fun language => ?_⟩⟩
  · exact (finds_findImage h.distinct' root hname).unique (h.finds himage)
  · exact (findsSound_findAudio h.distinct' root language hname).unique
      ((hsound language).reordered h)

end Assets

/-! ### A tree with cats -/

namespace Menagerie

/-- What stands in the folder `T`: two images of a cat, a link and a folder that are named as such,
and sounds of a cat for all listeners and for those of one language. -/
def entries : List (List String × FileEntry) :=
  [(["T"], .folder), (["T", "res"], .folder), (["T", "res", "cat.jpg"], .file none),
    (["T", "res", "Cat.PNG"], .file none), (["T", "res", "CAT.gif"], .link "cat.jpg"),
    (["T", "res", "CAT.bmp"], .folder), (["T", "audio"], .folder),
    (["T", "audio", "cat.mp3"], .file none), (["T", "audio", "Tagalog"], .folder),
    (["T", "audio", "Tagalog", "dog.mp3"], .file none), (["T", "audio", "Ilonggo"], .folder),
    (["T", "audio", "Ilonggo", "cat.ogg"], .file none)]

/-- The file tree, listed in this order. -/
def files : Files := ⟨entries, []⟩

/-- The same file tree, listed the other way round. -/
def backwards : Files := ⟨entries.reverse, []⟩

lemma reordered : files.Reordered backwards := ⟨by decide, rfl, List.reverse_perm entries⟩

lemma resolve_res : files.resolve true "T/res" = .ok (.found ["T", "res"] .folder) := by
  have hnames : Path.names "T/res" = ["T", "res"] := by cbv
  simp +decide [Files.resolve, Files.resolveNames, hnames, Files.resolveFrom, Files.entry?, files,
    entries]

lemma fileNames_res : fileNames files "T/res" = ["Cat.PNG", "cat.jpg"] := by
  rw [fileNames, Files.list_eq resolve_res]
  decide

lemma findImage_cat : Assets.findImage files "T" "cat" = some "T/res/Cat.PNG" := by
  have hpath : Path.join "T" "res" = "T/res" := by decide
  have hfirst : ["Cat.PNG", "cat.jpg"].find? (isImageOf "cat") = some "Cat.PNG" := by cbv
  rw [Assets.findImage, hpath, fileNames_res, hfirst]
  decide

end Menagerie

/-- Capital letters come before small ones, and neither the link nor the folder is a file. -/
theorem Assets.finds_media_menagerie :
    Menagerie.files.Distinct ∧ "cat" ≠ "" ∧
      Menagerie.files.Finds (Path.join "T" "res") (ShowsImage "cat") (some "T/res/Cat.PNG") ∧
      (∀ language, FindsSound Menagerie.files "T" language "cat"
        (findAudio Menagerie.files "T" "cat" language)) ∧
      findImage Menagerie.backwards "T" "cat" = some "T/res/Cat.PNG" ∧
      ∀ language, findAudio Menagerie.backwards "T" "cat" language =
        findAudio Menagerie.files "T" "cat" language := by
  have hname : "cat" ≠ "" := by decide
  obtain ⟨himage, hsound, hreordered⟩ := finds_media Menagerie.reordered.distinct "T" hname
  obtain ⟨himage', hsound'⟩ := hreordered Menagerie.backwards Menagerie.reordered
  rw [Menagerie.findImage_cat] at himage himage'
  exact ⟨Menagerie.reordered.distinct, hname, himage, hsound, himage', hsound'⟩

end Walkthrough
