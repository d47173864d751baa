import Mathlib.Data.List.Basic
import Walkthrough.Files

/-!
# Writing one file

A text is written at a path that leads to a file or to a free name in a folder.  The file tree is
then the same at every other place, and the path leads to the text.  Folders that are missing are
made before, and making them fills only places where nothing stood.
-/

namespace Walkthrough

namespace Files

variable {t t' t'' made : Files} {follow : Bool} {links : Nat} {folder path root name : String}
  {here rest place : List String} {entry : FileEntry} {content : Option String}
  {goal : FilePlace} {before : Option FileEntry}

/-! ### What is put at a place -/

lemma entry?_eq_find? {p : List String} (hp : p ≠ []) (t : Files) :
    t.entry? p = (t.entries.find? fun e => e.1 == p).map Prod.snd :=
  if_neg (by simpa using hp)

/-- What is put at a place stands there, and elsewhere nothing changes. -/
lemma entry?_put (hplace : place ≠ []) (t : Files) (entry : FileEntry) (p : List String) :
    Files.entry? (t.put place entry) p = if p = place then some entry else t.entry? p := by
  by_cases hp : p = []
  · rw [hp, if_neg (Ne.symm hplace)]
    rfl
  -- the paths of all entries stay, so what is found at `p` is the entry that was found before
  have hsame : ∀ e : List String × FileEntry,
      (if e.1 = place then (place, entry) else e).1 = e.1 := by
    intro e
    split_ifs with he
    · exact he.symm
    · rfl
  rw [entry?_eq_find? hp, entry?_eq_find? hp, put, entry?_eq_find? hplace, Option.isSome_map]
  cases hthere : t.entries.find? fun e => e.1 == place with
  | none =>
    rw [Option.isSome_none, if_neg Bool.false_ne_true, List.find?_append, List.find?_singleton]
    by_cases hmoved : p = place
    · rw [hmoved, hthere, if_pos rfl, Option.none_or, if_pos (beq_self_eq_true place)]
      rfl
    · rw [if_neg hmoved, if_neg (by simpa using Ne.symm hmoved), Option.or_none]
  | some old =>
    rw [Option.isSome_some, if_pos rfl, List.find?_map, Function.comp_def]
    simp only [hsame]
    by_cases hmoved : p = place
    · have hold : old.1 = place := by simpa using List.find?_some hthere
      rw [hmoved, hthere, if_pos rfl, Option.map_some, if_pos hold]
      rfl
    · rw [if_neg hmoved, Option.map_map]
      refine Option.map_congr fun e he => ?_
      have hfound : e.1 = p := by simpa using List.find?_some he
      rw [Function.comp_apply, if_neg (hfound ▸ hmoved)]

/-! ### Where paths lead -/

/-- Whether a name leads to something in a folder. -/
structure Enters (name : String) : Prop where
  moves : Path.staysPut name = false
  ne_up : name ≠ ".."
  short : ¬name.utf8ByteSize > nameBound

/-- Where names lead from a folder, as a relation.  Each name stays in the folder, leaves it, or
leads to what stands in it; a link is followed to where its target leads. -/
inductive Leads (t : Files) (follow : Bool) :
    Nat → List String → List String → FilePlace → Prop
  | stop {links : Nat} {here : List String} : Leads t follow links here [] (.found here .folder)
  | stay {links : Nat} {here rest : List String} {name : String} {goal : FilePlace}
      (hname : Path.staysPut name = true) (h : Leads t follow links here rest goal) :
      Leads t follow links here (name :: rest) goal
  | up {links : Nat} {here rest : List String} {goal : FilePlace}
      (h : Leads t follow links here.dropLast rest goal) :
      Leads t follow links here (".." :: rest) goal
  | free {links : Nat} {here : List String} {name : String} (hname : Enters name)
      (hentry : t.entry? (here ++ [name]) = none) :
      Leads t follow links here [name] (.free (here ++ [name]))
  | enter {links : Nat} {here rest : List String} {name : String} {goal : FilePlace}
      (hname : Enters name) (hentry : t.entry? (here ++ [name]) = some .folder)
      (h : Leads t follow links (here ++ [name]) rest goal) :
      Leads t follow links here (name :: rest) goal
  | file {links : Nat} {here : List String} {name : String} {content : Option String}
      (hname : Enters name) (hentry : t.entry? (here ++ [name]) = some (.file content)) :
      Leads t follow links here [name] (.found (here ++ [name]) (.file content))
  | link {links : Nat} {here : List String} {name target : String} (hname : Enters name)
      (hentry : t.entry? (here ++ [name]) = some (.link target)) (hfollow : follow = false) :
      Leads t follow links here [name] (.found (here ++ [name]) (.link target))
  | follow {links : Nat} {here rest : List String} {name target : String} {goal : FilePlace}
      (hname : Enters name) (hentry : t.entry? (here ++ [name]) = some (.link target))
      (hfollow : (rest.isEmpty && !follow) = false)
      (h : Leads t follow links (if Path.isAbsolute target then [] else here)
        (Path.names target ++ rest) goal) :
      Leads t follow (links + 1) here (name :: rest) goal

lemma resolveFrom_eq_ok :
    t.resolveFrom follow links here rest = .ok goal ↔ Leads t follow links here rest goal := by
  constructor
  · intro h
    fun_induction resolveFrom t follow links here rest with
    | case1 links here =>
      obtain rfl := Except.ok.inj h
      exact .stop
    | case2 links here name rest hname ih => exact .stay hname (ih h)
    | case3 links here rest hname ih => exact .up (ih h)
    | case4 => cases h
    | case5 links here name rest hmoves hup hshort path hentry hrest =>
      obtain rfl := Except.ok.inj h
      obtain rfl := List.isEmpty_iff.1 hrest
      exact .free ⟨by simpa using hmoves, hup, hshort⟩ hentry
    | case6 => cases h
    | case7 links here name rest hmoves hup hshort path hentry ih =>
      exact .enter ⟨by simpa using hmoves, hup, hshort⟩ hentry (ih h)
    | case8 links here name rest hmoves hup hshort path content hentry hrest =>
      obtain rfl := Except.ok.inj h
      obtain rfl := List.isEmpty_iff.1 hrest
      exact .file ⟨by simpa using hmoves, hup, hshort⟩ hentry
    | case9 => cases h
    | case10 links here name rest hmoves hup hshort path target hentry hrest =>
      obtain rfl := Except.ok.inj h
      rw [Bool.and_eq_true, List.isEmpty_iff] at hrest
      obtain ⟨rfl, hfollow⟩ := hrest
      exact .link ⟨by simpa using hmoves, hup, hshort⟩ hentry (by simpa using hfollow)
    | case11 => cases h
    | case12 here name rest hmoves hup hshort path target hentry hfollow links ih =>
      exact .follow ⟨by simpa using hmoves, hup, hshort⟩ hentry
        (by simpa using hfollow) (ih h)
  · intro h
    induction h with
    | stop => rw [resolveFrom]
    | stay hname _ ih => rw [resolveFrom, if_pos hname, ih]
    | up _ ih => rw [resolveFrom, if_neg (by decide), if_pos rfl, ih]
    | free hname hentry =>
      simp [resolveFrom, hname.moves, hname.ne_up, hname.short, hentry]
    | enter hname hentry _ ih =>
      simp [resolveFrom, hname.moves, hname.ne_up, hname.short, hentry, ih]
    | file hname hentry =>
      simp [resolveFrom, hname.moves, hname.ne_up, hname.short, hentry]
    | link hname hentry hfollow =>
      simp [resolveFrom, hname.moves, hname.ne_up, hname.short, hentry, hfollow]
    | follow hname hentry hfollow _ ih =>
      simp [resolveFrom, hname.moves, hname.ne_up, hname.short, hentry, hfollow, ih]

/-! ### Writing -/

/-- Whether a text can be written to where a path leads, which is a place that holds a file or
nothing. -/
inductive Takes (place : List String) : Option FileEntry → FilePlace → Prop
  | free : Takes place none (.free place)
  | file (old : Option String) : Takes place (some (.file old)) (.found place (.file old))

lemma Leads.stands (h : Leads t follow links here rest goal) (hgoal : Takes place before goal) :
    place ≠ [] ∧ t.entry? place = before := by
  induction h with
  | stop => cases hgoal
  | free _ hentry =>
    cases hgoal
    exact ⟨by simp, hentry⟩
  | file _ hentry =>
    cases hgoal
    exact ⟨by simp, hentry⟩
  | link => cases hgoal
  | stay _ _ ih | up _ ih | enter _ _ _ ih | follow _ _ _ _ ih => exact ih hgoal

/-- Names lead to a file that is written where they lead, for on the way to it nothing changes. -/
lemma Leads.put (h : Leads t follow links here rest goal) (hgoal : Takes place before goal)
    (content : Option String) :
    Leads (t.put place (.file content)) follow links here rest (.found place (.file content)) := by
  obtain ⟨hplace, hbefore⟩ := h.stands hgoal
  have hput := t.entry?_put hplace (.file content)
  -- a folder or a link on the way is not where the file is put
  have hkept : ∀ {p e}, t.entry? p = some e → (∀ old, e ≠ .file old) →
      Files.entry? (t.put place (.file content)) p = some e := by
    intro p e he hfile
    rw [hput, if_neg, he]
    rintro rfl
    obtain rfl := hbefore.symm.trans he
    cases hgoal with
    | file old => exact hfile old rfl
  induction h with
  | stop => cases hgoal
  | stay hname _ ih => exact .stay hname (ih hgoal)
  | up _ ih => exact .up (ih hgoal)
  | enter hname hfolder _ ih => exact .enter hname (hkept hfolder nofun) (ih hgoal)
  | follow hname hlink hfollow _ ih => exact .follow hname (hkept hlink nofun) hfollow (ih hgoal)
  | link => cases hgoal
  | free hname =>
    cases hgoal
    exact .file hname (by rw [hput, if_pos rfl])
  | file hname =>
    cases hgoal
    exact .file hname (by rw [hput, if_pos rfl])

/-- Where links are followed, no path leads to one. -/
lemma Leads.ne_link (h : Leads t true links here rest goal) (place : List String)
    (target : String) : goal ≠ .found place (.link target) := by
  induction h with
  | stop | free | file => nofun
  | link _ _ hfollow => cases hfollow
  | stay _ _ ih | up _ ih | enter _ _ _ ih | follow _ _ _ _ ih => exact ih

lemma entry?_of_resolveNames {names : List String}
    (h : t.resolveNames follow path names = .ok goal) (hgoal : Takes place before goal) :
    place ≠ [] ∧ t.entry? place = before := by
  rw [resolveNames] at h
  split_ifs at h
  all_goals
    rw [resolveFrom_eq_ok] at h
    exact h.stands hgoal

lemma working_put (t : Files) (place : List String) (entry : FileEntry) :
    (t.put place entry).working = t.working := by
  rw [put]
  split_ifs <;> rfl

lemma resolve_put (h : t.resolve true path = .ok goal) (hgoal : Takes place before goal)
    (content : Option String) :
    (t.put place (.file content)).resolve true path = .ok (.found place (.file content)) := by
  rw [resolve, resolveNames] at h ⊢
  split_ifs at h ⊢
  all_goals
    rw [resolveFrom_eq_ok] at h ⊢
    try rw [working_put]
    exact h.put hgoal content

lemma writeText_eq (h : t.resolve true path = .ok goal) (hgoal : Takes place before goal)
    (text : String) : t.writeText path text = .ok (t.put place (.file (some text))) := by
  rw [writeText, h]
  cases hgoal <;> rfl

/-- A text is written only where a path leads to a file or to a free name. -/
lemma takes_of_writeText (h : t.writeText path text = .ok t') :
    ∃ goal place before, t.resolve true path = .ok goal ∧ Takes place before goal := by
  rw [writeText] at h
  split at h
  · cases h
  · next place entry hfolder hgoal =>
    cases entry with
    | folder => exact absurd rfl hfolder
    | file old => exact ⟨_, place, _, hgoal, .file old⟩
    | link target =>
      rw [resolve, resolveNames] at hgoal
      split_ifs at hgoal
      all_goals
        rw [resolveFrom_eq_ok] at hgoal
        exact absurd rfl (hgoal.ne_link place target)
  · next place hgoal => exact ⟨_, place, _, hgoal, .free⟩
  · cases h

/-! ### Making folders -/

/-- Whether a file tree is another with folders made where nothing stood. -/
def Grown (t t' : Files) : Prop :=
  ∀ p, t'.entry? p = t.entry? p ∨ t.entry? p = none ∧ t'.entry? p = some .folder

lemma Grown.refl (t : Files) : Grown t t := fun _ => Or.inl rfl

lemma Grown.trans (h : Grown t t') (h' : Grown t' t'') : Grown t t'' := by
  intro p
  rcases h' p with hsame' | ⟨hnone', hfolder'⟩
  · rw [hsame']
    exact h p
  · rcases h p with hsame | ⟨-, hfolder⟩
    · exact Or.inr ⟨hsame ▸ hnone', hfolder'⟩
    · exact absurd (hnone'.symm.trans hfolder) nofun

lemma grown_makeFolder (h : t.makeFolder folder = .ok made) : Grown t made := by
  rw [makeFolder] at h
  split at h
  · cases h
  · next place hplace =>
    obtain rfl := Except.ok.inj h
    obtain ⟨hroot, hnone⟩ := entry?_of_resolveNames hplace .free
    intro p
    rw [entry?_put hroot]
    split_ifs with hp
    · exact Or.inr ⟨hp ▸ hnone, rfl⟩
    · exact Or.inl rfl
  · cases h

lemma grown_ensureFolder {outer : Except FileError Files}
    (houter : ∀ around, outer = .ok around → Grown t around)
    (h : t.ensureFolder outer folder = .ok made) : Grown t made := by
  have hexisting : ∀ {u : Files} {cause : FileError}, Grown t u →
      (if u.isFolder folder then Except.ok u else .error cause) = .ok made → Grown t made := by
    intro u cause hu hmade
    split_ifs at hmade
    obtain rfl := Except.ok.inj hmade
    exact hu
  rw [ensureFolder] at h
  -- the folder is made, or made once those around it are, or nothing is made
  split at h
  · next u hu =>
    obtain rfl := Except.ok.inj h
    exact grown_makeFolder hu
  · cases houter' : outer with
    | error cause =>
      rw [houter'] at h
      cases h
    | ok around =>
      rw [houter'] at h
      have haround := houter around houter'
      simp only [bind, Except.bind] at h
      split at h
      · next u hu =>
        obtain rfl := Except.ok.inj h
        exact haround.trans (grown_makeFolder hu)
      · exact hexisting haround h
  · exact hexisting (Grown.refl t) h

lemma grown_ensureSteps {steps : List String} {n : Nat}
    (h : t.ensureSteps root steps n = .ok made) : Grown t made := by
  induction n generalizing made with
  | zero =>
    obtain rfl := Except.ok.inj h
    exact Grown.refl t
  | succ n ih => exact grown_ensureFolder (fun _ => ih) h

lemma grown_ensureFolders (h : t.ensureFolders folder = .ok made) : Grown t made := by
  rw [ensureFolders] at h
  split_ifs at h
  · obtain rfl := Except.ok.inj h
    exact Grown.refl t
  · exact grown_ensureFolder (fun _ => grown_ensureSteps) h
  · exact grown_ensureFolder (fun _ => grown_ensureSteps) h

/-! ### Writing into a folder -/

/-- Whether a file can be written into a folder under a name.  The folder exists or can be made, and
there the name is free or leads to a file. -/
def Writable (t : Files) (folder name : String) : Prop :=
  ∃ made goal place before, t.ensureFolders folder = .ok made ∧
    made.resolve true (Path.join folder name) = .ok goal ∧ Takes place before goal

/-- Whether one file is all that was written between two file trees.  A path leads to it and it
holds a text, it is new or was a file before, and whatever else is new is a folder. -/
structure Writes (t t' : Files) (path text : String) (place : List String) : Prop where
  found : t'.resolve true path = .ok (.found place (.file (some text)))
  before : t.entry? place = none ∨ ∃ old, t.entry? place = some (.file old)
  others : ∀ p ≠ place,
    t'.entry? p = t.entry? p ∨ t.entry? p = none ∧ t'.entry? p = some .folder

lemma writable_of_writeText (hmade : t.ensureFolders folder = .ok made)
    (h : made.writeText (Path.join folder name) text = .ok t') : t.Writable folder name := by
  obtain ⟨goal, place, before, hgoal, htakes⟩ := takes_of_writeText h
  exact ⟨made, goal, place, before, hmade, hgoal, htakes⟩

lemma Writable.exists_writes (h : t.Writable folder name) (text : String) :
    ∃ made t' place, t.ensureFolders folder = .ok made ∧
      made.writeText (Path.join folder name) text = .ok t' ∧
      Writes t t' (Path.join folder name) text place := by
  obtain ⟨made, goal, place, before, hmade, hgoal, htakes⟩ := h
  have hgrown := grown_ensureFolders hmade
  obtain ⟨hplace, hbefore⟩ := entry?_of_resolveNames hgoal htakes
  refine ⟨made, _, place, hmade, writeText_eq hgoal htakes text, ?_, ?_, ?_⟩
  · exact resolve_put hgoal htakes (some text)
  · have hsame : t.entry? place = before := by
      rcases hgrown place with hsame | ⟨-, hfolder⟩
      · rw [← hsame, hbefore]
      · obtain rfl := hbefore.symm.trans hfolder
        cases htakes
    rw [hsame]
    cases htakes with
    | free => exact Or.inl rfl
    | file old => exact Or.inr ⟨old, rfl⟩
  · intro p hp
    rw [entry?_put hplace, if_neg hp]
    exact hgrown p

end Files

end Walkthrough
