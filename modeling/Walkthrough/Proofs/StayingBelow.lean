import Mathlib.Data.List.Basic
import Walkthrough.Files
import Walkthrough.Proofs.Cutting

/-!
# What is read below a folder

A path that is given from a folder may lead out of it again.  If it does not, and if there are no
links, then all that matters for where it leads is what stands below the folder: it leads where the
same names lead in the file tree that consists of that alone.  So two file trees in which the same
stands below a root cannot be told apart by reading or listing at paths that stay below it.
-/

namespace Walkthrough

/-! ### Paths -/

namespace Path

variable {depth : Nat} {name inner outer a b : String} {xs : List String}

/-- Whether a text is the name of something in a folder. -/
structure IsName (name : String) : Prop where
  no_slash : '/' ∉ name.toList
  moves : staysPut name = false
  ne_up : name ≠ ".."

instance (name : String) : Decidable (IsName name) :=
  decidable_of_iff ('/' ∉ name.toList ∧ staysPut name = false ∧ name ≠ "..")
    ⟨fun h => ⟨h.1, h.2.1, h.2.2⟩, fun h => ⟨h.no_slash, h.moves, h.ne_up⟩⟩

/-- Whether names never lead above a folder if they are followed from a folder that lies `depth`
folders below it. -/
def staysBelow : Nat → List String → Bool
  | _, [] => true
  | depth, name :: rest =>
    if staysPut name then staysBelow depth rest
    else if name = ".." then depth != 0 && staysBelow (depth - 1) rest
    else staysBelow (depth + 1) rest

/-- Whether a path never leads above the folder around the one from which it is given. -/
structure StaysInside (path : String) : Prop where
  relative : isAbsolute path = false
  below : staysBelow 1 (names path) = true

instance (path : String) : Decidable (StaysInside path) :=
  decidable_of_iff (isAbsolute path = false ∧ staysBelow 1 (names path) = true)
    ⟨fun h => ⟨h.1, h.2⟩, fun h => ⟨h.relative, h.below⟩⟩

lemma staysBelow_cons (h : IsName name) (depth : Nat) (xs : List String) :
    staysBelow depth (name :: xs) = staysBelow (depth + 1) xs := by
  rw [staysBelow, h.moves, if_neg Bool.false_ne_true, if_neg h.ne_up]

lemma staysBelow_append_singleton {y z : String} (h : staysBelow depth (xs ++ [y]) = true)
    (hz : z ≠ "..") : staysBelow depth (xs ++ [z]) = true := by
  induction xs generalizing depth with
  | nil => simp [staysBelow, hz]
  | cons x xs ih =>
    rw [List.cons_append, staysBelow] at h ⊢
    split_ifs at h ⊢
    · exact ih h
    · rw [Bool.and_eq_true] at h ⊢
      exact ⟨h.1, ih h.2⟩
    · exact ih h

/-! ### The names along joined paths -/

lemma IsName.ne_empty (h : IsName name) : name ≠ "" := by
  rintro rfl
  exact absurd h.moves (by decide)

lemma IsName.isAbsolute (h : IsName name) : isAbsolute name = false := by
  rw [Path.isAbsolute, beq_eq_false_iff_ne]
  intro hhead
  exact h.no_slash (List.mem_of_head? hhead)

lemma IsName.isAbsolute_append (h : IsName a) (b : String) :
    Path.isAbsolute (a ++ "/" ++ b) = false := by
  have hne : a.toList ≠ [] := by simpa using h.ne_empty
  rw [String.append_assoc, Path.isAbsolute, String.toList_append,
    List.head?_append_of_ne_nil _ hne]
  exact h.isAbsolute

lemma names_slash (a b : String) : names (a ++ "/" ++ b) = names a ++ names b := by
  have hlist : (a ++ "/" ++ b).toList = a.toList ++ '/' :: b.toList := by
    simp only [String.toList_append, String.reduceToList, List.append_assoc, List.cons_append,
      List.nil_append]
  rw [names, Text.pieces, hlist, Text.piecesOf_append_cons (by decide), List.map_append]
  rfl

lemma names_of_no_slash (h : '/' ∉ name.toList) : names name = [name] := by
  rw [names, Text.pieces, Text.piecesOf_eq_singleton (Text.beq_of_not_mem h), List.map_singleton,
    String.ofList_toList]

lemma join_relative (hinner : isAbsolute inner = false) (houter : outer ≠ "") :
    join outer inner =
      (if outer.toList.getLast? == some '/' then outer else outer ++ "/") ++ inner := by
  have hempty : outer.isEmpty = false := by simpa using houter
  rw [join, hinner, hempty, Bool.or_self, if_neg Bool.false_ne_true]
  split_ifs <;> rfl

/-- Relative paths are joined by writing the same in front of each. -/
lemma exists_join_eq (outer : String) :
    ∃ lead : String, ∀ inner, isAbsolute inner = false → join outer inner = lead ++ inner := by
  by_cases houter : outer = ""
  · subst houter
    exact ⟨"", fun inner _ => by simp [join]⟩
  · exact ⟨_, fun inner hinner => join_relative hinner houter⟩

/-- What a path is joined to is followed first, up to a slash at its end. -/
lemma exists_names_join (hinner : isAbsolute inner = false) (houter : outer ≠ "") :
    ∃ front pad, names outer = front ++ pad ∧ (∀ name ∈ pad, staysPut name = true) ∧
      names (join outer inner) = front ++ names inner := by
  rw [join_relative hinner houter]
  split_ifs with hslash
  · rw [beq_iff_eq] at hslash
    obtain ⟨s, hs⟩ := List.getLast?_eq_some_iff.1 hslash
    have houter' : outer = String.ofList s ++ "/" ++ "" := by
      rw [← String.toList_inj]
      simp [hs]
    refine ⟨names (String.ofList s), [""], ?_, by decide, ?_⟩
    · rw [houter', names_slash]
      rfl
    · rw [houter', String.append_empty, names_slash]
  · exact ⟨names outer, [], (List.append_nil _).symm, nofun, names_slash outer inner⟩

lemma isAbsolute_join (hinner : isAbsolute inner = false) (houter : outer ≠ "") :
    isAbsolute (join outer inner) = isAbsolute outer := by
  have hne : outer.toList ≠ [] := by simpa using houter
  rw [join_relative hinner houter]
  split_ifs
  · rw [isAbsolute, isAbsolute, String.toList_append, List.head?_append_of_ne_nil _ hne]
  · rw [isAbsolute, isAbsolute, String.append_assoc, String.toList_append,
      List.head?_append_of_ne_nil _ hne]

lemma join_ne_empty (hinner : isAbsolute inner = false) (houter : outer ≠ "") :
    join outer inner ≠ "" := by
  rw [join_relative hinner houter]
  split_ifs <;> simp [houter]

/-- A path from a named folder below a root is a path from the root. -/
lemma join_join (h : IsName a) (hb : isAbsolute b = false) (outer : String) :
    join (join outer a) b = join outer (a ++ "/" ++ b) := by
  obtain ⟨lead, hlead⟩ := exists_join_eq outer
  have hne : a.toList ≠ [] := by simpa using h.ne_empty
  have hlast : (lead ++ a).toList.getLast? ≠ some '/' := by
    rw [String.toList_append, List.getLast?_append_of_ne_nil _ hne]
    exact fun hlast => h.no_slash (List.mem_of_getLast? hlast)
  have houter : lead ++ a ≠ "" := by simpa using fun _ => h.ne_empty
  rw [hlead a h.isAbsolute, hlead _ (h.isAbsolute_append b), join_relative hb houter,
    if_neg (by simpa using hlast)]
  simp only [String.append_assoc]

/-! ### Paths that stay inside -/

/-- A text with an extension is the name of a file. -/
lemma isName_xml {s : String} (h : '/' ∉ s.toList) : IsName (s ++ ".xml") := by
  have hlast : ∀ c, (s ++ ".xml").toList.getLast? = some c → c = 'l' := by
    intro c hc
    simpa [eq_comm] using hc
  refine ⟨by simpa using h, ?_, fun hup => ?_⟩
  · rw [staysPut, Bool.or_eq_false_iff, beq_eq_false_iff_ne, beq_eq_false_iff_ne]
    refine ⟨by simp, fun hdot => ?_⟩
    exact absurd (hlast '.' (by rw [hdot]; rfl)) (by decide)
  · exact absurd (hlast '.' (by rw [hup]; rfl)) (by decide)

lemma IsName.staysBelow (h : IsName name) (depth : Nat) :
    Path.staysBelow depth (names name) = true := by
  rw [names_of_no_slash h.no_slash, staysBelow_cons h, Path.staysBelow]

lemma IsName.staysInside (h : IsName name) : StaysInside name := ⟨h.isAbsolute, h.staysBelow 1⟩

/-- From a root, a path leads below it if it leads below it from a folder there. -/
lemma StaysInside.staysBelow (hb : StaysInside b) (ha : IsName a) :
    Path.staysBelow 0 (names (a ++ "/" ++ b)) = true := by
  rw [names_slash, names_of_no_slash ha.no_slash, List.singleton_append, staysBelow_cons ha]
  exact hb.below

lemma no_slash_of_mem_names {path : String} (h : name ∈ names path) : '/' ∉ name.toList := by
  obtain ⟨piece, hpiece, rfl⟩ := List.mem_map.1 h
  rw [String.toList_ofList]
  intro hslash
  exact absurd (Text.eq_false_of_mem_piecesOf hpiece _ hslash) (by decide)

/-- A language stays inside with the extension of its file. -/
lemma StaysInside.xml (h : StaysInside a) : StaysInside (a ++ ".xml") := by
  refine ⟨?_, ?_⟩
  · have habsolute := h.relative
    rw [isAbsolute] at habsolute ⊢
    rw [String.toList_append]
    cases hlist : a.toList with
    | nil => decide
    | cons c s => rwa [hlist] at habsolute
  · obtain ⟨front, last, hpieces, hpieces'⟩ := Text.exists_piecesOf_append (p := (· == '/'))
      a.toList (Text.beq_of_not_mem (u := ".xml".toList) (by decide))
    have hnames : names a = front.map String.ofList ++ [String.ofList last] := by
      rw [names, Text.pieces, hpieces, List.map_append, List.map_singleton]
    have hnames' : names (a ++ ".xml") =
        front.map String.ofList ++ [String.ofList last ++ ".xml"] := by
      rw [names, Text.pieces, String.toList_append, hpieces', List.map_append, List.map_singleton,
        String.ofList_append, String.ofList_toList]
    have hmem : String.ofList last ∈ names a := by simp [hnames]
    have hbelow := h.below
    rw [hnames] at hbelow
    rw [hnames']
    exact staysBelow_append_singleton hbelow (isName_xml (no_slash_of_mem_names hmem)).ne_up

end Path

open Walkthrough.Path (IsName staysBelow staysPut)

/-! ### File trees without links -/

/-- The place of a path that is taken from a folder. -/
def FilePlace.under (folder : List String) : FilePlace → FilePlace
  | found path entry => found (folder ++ path) entry
  | free path => free (folder ++ path)

namespace Files

variable {t t' : Files} {follow : Bool} {links : Nat} {root inner : String}
  {here place folder path rel xs ys : List String}

/-- Whether a file tree is one that a disk can hold without symbolic links. -/
structure Plain (t : Files) : Prop where
  names : ∀ e ∈ t.entries, ∀ name ∈ e.1, IsName name
  no_link : ∀ e ∈ t.entries, ∀ target, e.2 ≠ .link target

/-- What is left of a path below a folder. -/
def inside? (folder path : List String) : Option (List String) :=
  (folder.isPrefixOf? path).filter fun rest => !rest.isEmpty

/-- What stands below a folder, as a file tree of its own. -/
def below (t : Files) (folder : List String) : Files where
  entries := t.entries.filterMap fun e => (inside? folder e.1).map fun rest => (rest, e.2)
  working := []

/-- What stands below the folder that a path leads to, if it leads to one. -/
def below? (t : Files) (root : String) : Option Files :=
  match t.resolve true root with
  | .ok (.found folder .folder) => some (t.below folder)
  | _ => none

lemma inside?_eq_some : inside? folder path = some rel ↔ path = folder ++ rel ∧ rel ≠ [] := by
  rw [inside?, Option.filter_eq_some_iff, List.isPrefixOf?_eq_some_iff_append_eq]
  refine and_congr ⟨Eq.symm, Eq.symm⟩ ?_
  cases rel <;> simp

lemma Plain.entry?_ne_link (ht : t.Plain) (path : List String) (target : String) :
    t.entry? path ≠ some (.link target) := by
  rw [ entry?]
  split_ifs
  · simp
  · intro h
    obtain ⟨e, he, hlink⟩ := Option.map_eq_some_iff.1 h
    exact ht.no_link e (List.mem_of_find?_eq_some he) target hlink

/-- What stands below a folder stands in the file tree below it. -/
lemma entry?_below (t : Files) (folder : List String) (hrel : rel ≠ []) :
    Files.entry? (t.below folder) rel = t.entry? (folder ++ rel) := by
  have hempty : rel.isEmpty = false := by simpa using hrel
  have hempty' : (folder ++ rel).isEmpty = false := by simp [hrel]
  have hfind : ∀ e : List String × FileEntry,
      ((inside? folder e.1).map fun rest => (rest, e.2)).any (fun e => e.1 == rel) =
        (e.1 == folder ++ rel) := by
    intro e
    rw [Option.any_map, Bool.eq_iff_iff, Option.any_eq_true]
    simp only [beq_iff_eq]
    constructor
    · rintro ⟨rest, hrest, rfl⟩
      exact (inside?_eq_some.1 hrest).1
    · intro he
      exact ⟨rel, inside?_eq_some.2 ⟨he, hrel⟩, rfl⟩
  rw [ entry?, entry?, hempty, hempty', if_neg Bool.false_ne_true, if_neg Bool.false_ne_true, below,
    List.find?_filterMap]
  simp only [hfind]
  cases hfound : t.entries.find? fun e => e.1 == folder ++ rel with
  | none => rfl
  | some e =>
    have he : e.1 = folder ++ rel := by simpa using List.find?_some hfound
    have hinside : inside? folder e.1 = some rel := inside?_eq_some.2 ⟨he, hrel⟩
    simp only [Option.bind_some, hinside, Option.map_some]

/-- In a file tree without links, names that do not lead above a folder lead where they lead in the
file tree below it. -/
lemma resolveFrom_below (ht : t.Plain) (folder : List String)
    (h : staysBelow rel.length xs = true) :
    t.resolveFrom follow links (folder ++ rel) xs =
      ((t.below folder).resolveFrom follow links rel xs).map (FilePlace.under folder) := by
  induction xs generalizing rel with
  | nil =>
    rw [resolveFrom, resolveFrom]
    rfl
  | cons name rest ih =>
    rw [staysBelow] at h
    rw [resolveFrom, resolveFrom]
    by_cases hput : staysPut name = true
    · simp only [if_pos hput] at h ⊢
      exact ih h
    by_cases hup : name = ".."
    · simp only [if_neg hput, if_pos hup, Bool.and_eq_true, bne_iff_ne] at h ⊢
      have hrel : rel ≠ [] := by
        rintro rfl
        exact h.1 rfl
      rw [List.dropLast_append_of_ne_nil hrel]
      refine ih ?_
      rw [List.length_dropLast]
      exact h.2
    by_cases hlong : name.utf8ByteSize > nameBound
    · simp only [if_neg hput, if_neg hup, if_pos hlong]
      rfl
    have hentry :
        Files.entry? (t.below folder) (rel ++ [name]) = t.entry? (folder ++ (rel ++ [name])) :=
      t.entry?_below folder (by simp)
    simp only [if_neg hput, if_neg hup, if_neg hlong, List.append_assoc, hentry] at h ⊢
    cases hfound : t.entry? (folder ++ (rel ++ [name])) with
    | none => cases rest <;> rfl
    | some entry =>
      cases entry with
      | folder =>
        refine ih ?_
        rw [List.length_append]
        exact h
      | file text => cases rest <;> rfl
      | link target => exact absurd hfound (ht.entry?_ne_link _ _)

/-- Behind names that lead to a folder, further names are followed from there. -/
lemma resolveFrom_append (ht : t.Plain) {pad : List String}
    (hpad : ∀ name ∈ pad, staysPut name = true)
    (h : t.resolveFrom follow links here (xs ++ pad) = .ok (.found place .folder)) :
    t.resolveFrom follow links here (xs ++ ys) = t.resolveFrom follow links place ys := by
  induction xs generalizing here with
  | nil =>
    have hplace : here = place := by
      induction pad with
      | nil =>
        rw [List.nil_append, resolveFrom] at h
        cases h
        rfl
      | cons name pad ih =>
        rw [List.forall_mem_cons] at hpad
        rw [List.nil_append, resolveFrom, if_pos hpad.1] at h
        exact ih hpad.2 h
    rw [List.nil_append, hplace]
  | cons name rest ih =>
    rw [List.cons_append, resolveFrom] at h ⊢
    by_cases hput : staysPut name = true
    · rw [if_pos hput] at h ⊢
      exact ih h
    by_cases hup : name = ".."
    · rw [if_neg hput, if_pos hup] at h ⊢
      exact ih h
    by_cases hlong : name.utf8ByteSize > nameBound
    · rw [if_neg hput, if_neg hup, if_pos hlong] at h
      cases h
    simp only [if_neg hput, if_neg hup, if_neg hlong] at h ⊢
    -- the names lead to a folder, so each of them does
    cases hfound : t.entry? (here ++ [name]) with
    | none =>
      rw [hfound] at h
      dsimp only at h
      split_ifs at h
      cases h
    | some entry =>
      rw [hfound] at h
      cases entry with
      | folder => exact ih h
      | file text =>
        dsimp only at h
        split_ifs at h
        cases h
      | link target => exact absurd hfound (ht.entry?_ne_link _ _)

/-! ### Paths from a root -/

/-- Where a path leads that is given from a root below which a file tree stands. -/
def resolveIn (inner : Files) (root path : String) : Except FileError FilePlace :=
  if (Path.join root path).toList.any (·.toNat == 0) then .error .badName
  else if (Path.join root path).utf8ByteSize > pathBound then .error .nameTooLong
  else inner.resolveFrom true linkBound [] (Path.names path)

lemma ne_empty_of_resolve (h : t.resolve follow root = .ok (.found place .folder)) : root ≠ "" := by
  rintro rfl
  cases h

lemma resolve_join (ht : t.Plain) (h : t.resolve true root = .ok (.found place .folder))
    (hinner : Path.isAbsolute inner = false) (hbelow : staysBelow 0 (Path.names inner) = true) :
    t.resolve true (Path.join root inner) =
      ((t.below place).resolveIn root inner).map (FilePlace.under place) := by
  have hroot := ne_empty_of_resolve h
  have hjoin : ¬(Path.join root inner).isEmpty = true := by
    simpa using Path.join_ne_empty hinner hroot
  obtain ⟨front, pad, hnames, hpad, hnames'⟩ := Path.exists_names_join hinner hroot
  have hmoves : t.resolveFrom true linkBound
      (if Path.isAbsolute root then [] else t.working) (front ++ pad) =
        .ok (.found place .folder) := by
    rw [resolve, resolveNames, hnames] at h
    split_ifs at h ⊢ <;> exact h
  have hstays : t.resolveFrom true linkBound (place ++ []) (Path.names inner) =
      ((t.below place).resolveFrom true linkBound [] (Path.names inner)).map
        (FilePlace.under place) := resolveFrom_below ht place hbelow
  rw [List.append_nil] at hstays
  rw [resolve, resolveNames, if_neg hjoin, Path.isAbsolute_join hinner hroot, hnames',
    resolveFrom_append ht hpad hmoves, hstays, resolveIn]
  split_ifs <;> rfl

lemma below?_eq (h : t.resolve true root = .ok (.found place .folder)) :
    t.below? root = some (t.below place) := by
  rw [below?, h]

lemma isSome_below? (t : Files) (root : String) : (t.below? root).isSome = t.isFolder root := by
  rw [below?, isFolder]
  rcases t.resolve true root with cause | ⟨path, entry⟩ | path
  · rfl
  · cases entry <;> rfl
  · rfl

lemma exists_of_below? {inner : Files} (h : t.below? root = some inner) :
    ∃ place, t.resolve true root = .ok (.found place .folder) ∧ t.below place = inner := by
  rw [below?] at h
  split at h
  · next place hplace => exact ⟨place, hplace, Option.some.inj h⟩
  · cases h

/-! ### What is in a folder -/

/-- The name of an entry that stands directly in a folder, and what it is. -/
def child? (folder : List String) (e : List String × FileEntry) : Option (String × FileEntry) :=
  match e.1.getLast? with
  | some name => if e.1.dropLast = folder then some (name, e.2) else none
  | none => none

lemma list_eq {path : String} (h : t.resolve true path = .ok (.found place .folder)) :
    t.list path = t.entries.filterMap (child? place) := by
  rw [list, h]
  rfl

lemma child?_eq_some {e : List String × FileEntry} {c : String × FileEntry} :
    child? folder e = some c ↔ e.1 = folder ++ [c.1] ∧ e.2 = c.2 := by
  rw [child?]
  constructor
  · intro h
    split at h
    · next name hname =>
      rw [Option.ite_none_right_eq_some] at h
      obtain ⟨rfl, hc⟩ := h
      obtain rfl := Option.some.inj hc
      exact ⟨(List.dropLast_append_getLast? name hname).symm, rfl⟩
    · cases h
  · rintro ⟨hpath, hentry⟩
    rw [hpath, List.getLast?_concat, List.dropLast_concat, hentry]
    exact if_pos rfl

/-- What stands directly in a folder further below is the same in the file tree below. -/
lemma filterMap_child?_below (t : Files) (folder rel : List String) :
    (t.below folder).entries.filterMap (child? rel) =
      t.entries.filterMap (child? (folder ++ rel)) := by
  rw [below, List.filterMap_filterMap]
  refine List.filterMap_congr fun e _ => Option.ext fun c => ?_
  rw [Option.bind_eq_some_iff, child?_eq_some, List.append_assoc]
  constructor
  · rintro ⟨rest, hrest, hc⟩
    obtain ⟨path, hinside, rfl⟩ := Option.map_eq_some_iff.1 hrest
    obtain ⟨rfl, hentry⟩ := child?_eq_some.1 hc
    exact ⟨(inside?_eq_some.1 hinside).1, hentry⟩
  · rintro ⟨hpath, hentry⟩
    have hinside : inside? folder e.1 = some (rel ++ [c.1]) :=
      inside?_eq_some.2 ⟨hpath, by simp⟩
    exact ⟨(rel ++ [c.1], e.2), by rw [hinside, Option.map_some],
      child?_eq_some.2 ⟨rfl, hentry⟩⟩

lemma Plain.isName_of_mem_list (ht : t.Plain) {path : String} {c : String × FileEntry}
    (hc : c ∈ t.list path) : IsName c.1 := by
  rw [list] at hc
  split at hc
  · obtain ⟨e, he, hchild⟩ := List.mem_filterMap.1 hc
    obtain ⟨hpath, -⟩ := child?_eq_some.1 hchild
    exact ht.names e he _ (hpath ▸ List.mem_append_right _ List.mem_cons_self)
  · cases hc

/-! ### Two file trees -/

/-- Whether the same stands below a root, in the same order, in two file trees without links.  What
stands elsewhere, and where the root itself is, may differ. -/
structure SameBelow (root : String) (t t' : Files) : Prop where
  plain : t.Plain
  plain' : t'.Plain
  below : t.below? root = t'.below? root

namespace SameBelow

variable (h : SameBelow root t t')

include h

lemma isFolder_eq : t.isFolder root = t'.isFolder root := by
  rw [← isSome_below?, ← isSome_below?, h.below]

section Join

variable (hroot : t.isFolder root = true) (hinner : Path.isAbsolute inner = false)
  (hbelow : staysBelow 0 (Path.names inner) = true)

include hroot hinner hbelow

/-- Such a path leads to the same place below the root. -/
lemma exists_resolve : ∃ (result : Except FileError FilePlace) (folder folder' : List String),
    t.below folder = t'.below folder' ∧
    t.resolve true (Path.join root inner) = result.map (FilePlace.under folder) ∧
    t'.resolve true (Path.join root inner) = result.map (FilePlace.under folder') := by
  rw [← isSome_below?] at hroot
  obtain ⟨sub, hsub⟩ := Option.isSome_iff_exists.1 hroot
  obtain ⟨folder, hfolder, rfl⟩ := exists_of_below? hsub
  obtain ⟨folder', hfolder', hsame⟩ := exists_of_below? (h.below ▸ hsub)
  refine ⟨(t.below folder).resolveIn root inner, folder, folder', hsame.symm,
    resolve_join h.plain hfolder hinner hbelow, ?_⟩
  rw [resolve_join h.plain' hfolder' hinner hbelow, hsame]

lemma isFile_join : t.isFile (Path.join root inner) = t'.isFile (Path.join root inner) := by
  obtain ⟨result, folder, folder', -, hresolve, hresolve'⟩ := h.exists_resolve hroot hinner hbelow
  rw [isFile, isFile, hresolve, hresolve']
  rcases result with cause | ⟨path, entry⟩ | path
  · rfl
  · cases entry <;> rfl
  · rfl

lemma readText_join : t.readText (Path.join root inner) = t'.readText (Path.join root inner) := by
  obtain ⟨result, folder, folder', -, hresolve, hresolve'⟩ := h.exists_resolve hroot hinner hbelow
  rw [readText, readText, hresolve, hresolve']
  rcases result with cause | ⟨path, entry⟩ | path
  · rfl
  · rcases entry with _ | ⟨_ | text⟩ | target <;> rfl
  · rfl

lemma list_join : t.list (Path.join root inner) = t'.list (Path.join root inner) := by
  obtain ⟨result, folder, folder', hsame, hresolve, hresolve'⟩ :=
    h.exists_resolve hroot hinner hbelow
  rcases result with cause | ⟨path, entry⟩ | path
  · rw [list, list, hresolve, hresolve']
    rfl
  · cases entry with
    | folder =>
      rw [list_eq hresolve, list_eq hresolve', ← filterMap_child?_below, ← filterMap_child?_below,
        hsame]
    | _ =>
      rw [list, list, hresolve, hresolve']
      rfl
  · rw [list, list, hresolve, hresolve']
    rfl

end Join

section Inside

variable {a b : String} (hroot : t.isFolder root = true) (ha : IsName a)
  (hb : Path.StaysInside b)

include hroot ha

lemma list_join_name : t.list (Path.join root a) = t'.list (Path.join root a) :=
  h.list_join hroot ha.isAbsolute (ha.staysBelow 0)

include hb

lemma isFile_inside :
    t.isFile (Path.join (Path.join root a) b) = t'.isFile (Path.join (Path.join root a) b) := by
  rw [Path.join_join ha hb.relative]
  exact h.isFile_join hroot (ha.isAbsolute_append b) (hb.staysBelow ha)

lemma readText_inside :
    t.readText (Path.join (Path.join root a) b) =
      t'.readText (Path.join (Path.join root a) b) := by
  rw [Path.join_join ha hb.relative]
  exact h.readText_join hroot (ha.isAbsolute_append b) (hb.staysBelow ha)

lemma list_inside :
    t.list (Path.join (Path.join root a) b) = t'.list (Path.join (Path.join root a) b) := by
  rw [Path.join_join ha hb.relative]
  exact h.list_join hroot (ha.isAbsolute_append b) (hb.staysBelow ha)

end Inside

end SameBelow

end Files

end Walkthrough
