import Mathlib.Data.List.Nodup
import Mathlib.Data.List.Perm.Basic
import Walkthrough.Proofs.StayingBelow

/-!
# What a folder holds

A disk lists what is in a folder in an order of its own, which depends on how the folder came about.
What the folder holds under a name does not depend on that.  Two file trees that are the same but
for the order of their listings cannot be told apart by following paths, nor by reading files, nor
by asking what a folder holds under a name.
-/

namespace Walkthrough.Files

variable {t t' : Files} {folder name : String} {path : List String} {entry : FileEntry}

/-- Whether no two things stand at one path. -/
def Distinct (t : Files) : Prop := (t.entries.map Prod.fst).Nodup

instance (t : Files) : Decidable t.Distinct :=
  inferInstanceAs (Decidable (t.entries.map Prod.fst).Nodup)

/-- Whether a folder holds something under a name. -/
def Holds (t : Files) (folder name : String) (entry : FileEntry) : Prop :=
  ∃ place, t.resolve true folder = .ok (.found place .folder) ∧
    t.entry? (place ++ [name]) = some entry

/-- Whether two file trees are the same, but for the order in which folders are listed. -/
structure Reordered (t t' : Files) : Prop where
  distinct : t.Distinct
  working : t'.working = t.working
  entries : t'.entries.Perm t.entries

/-! ### One file tree -/

lemma Distinct.entry?_eq_some (ht : t.Distinct) (hpath : path ≠ []) :
    t.entry? path = some entry ↔ (path, entry) ∈ t.entries := by
  rw [Files.entry?, if_neg (by simpa using hpath), Option.map_eq_some_iff]
  constructor
  · rintro ⟨⟨p, entry⟩, hfound, rfl⟩
    obtain rfl : p = path := by simpa using List.find?_some hfound
    exact List.mem_of_find?_eq_some hfound
  · intro hmem
    have hsome : (t.entries.find? fun e => e.1 == path).isSome := by
      rw [List.find?_isSome]
      exact ⟨_, hmem, beq_self_eq_true path⟩
    obtain ⟨e, he⟩ := Option.isSome_iff_exists.1 hsome
    have hpath : e.1 = path := by simpa using List.find?_some he
    have hentry : e = (path, entry) :=
      List.inj_on_of_nodup_map ht (List.mem_of_find?_eq_some he) hmem hpath
    exact ⟨e, he, congrArg Prod.snd hentry⟩

/-- A folder lists under a name what it holds there. -/
lemma Distinct.mem_list (ht : t.Distinct) :
    (name, entry) ∈ t.list folder ↔ t.Holds folder name entry := by
  constructor
  · intro hmem
    rw [list] at hmem
    split at hmem
    · next place hplace =>
      obtain ⟨e, he, hchild⟩ := List.mem_filterMap.1 hmem
      obtain ⟨hpath, rfl⟩ := child?_eq_some.1 hchild
      exact ⟨place, hplace, (ht.entry?_eq_some (by simp)).2 (hpath ▸ he)⟩
    · cases hmem
  · rintro ⟨place, hplace, hentry⟩
    rw [list_eq hplace, List.mem_filterMap]
    exact ⟨_, (ht.entry?_eq_some (by simp)).1 hentry, child?_eq_some.2 ⟨rfl, rfl⟩⟩

/-! ### Two file trees -/

lemma resolveFrom_congr (h : ∀ path, t'.entry? path = t.entry? path) (follow : Bool) (links : ℕ)
    (here rest : List String) :
    t'.resolveFrom follow links here rest = t.resolveFrom follow links here rest := by
  -- each step goes on along the same names, or behind a link with one link less
  induction links generalizing here rest with
  | zero =>
    induction rest generalizing here with
    | nil => rw [resolveFrom, resolveFrom]
    | cons name rest ih =>
      rw [resolveFrom, resolveFrom]
      simp only [h, ih]
  | succ links ihlinks =>
    induction rest generalizing here with
    | nil => rw [resolveFrom, resolveFrom]
    | cons name rest ih =>
      rw [resolveFrom, resolveFrom]
      simp only [h, ih, ihlinks]

namespace Reordered

variable (h : t.Reordered t')

include h

lemma distinct' : t'.Distinct := (h.entries.map Prod.fst).nodup_iff.2 h.distinct

lemma entry?_eq (path : List String) : t'.entry? path = t.entry? path := by
  by_cases hpath : path = []
  · rw [hpath]
    rfl
  · ext entry
    rw [h.distinct'.entry?_eq_some hpath, h.distinct.entry?_eq_some hpath, h.entries.mem_iff]

lemma resolve_eq (follow : Bool) (path : String) :
    t'.resolve follow path = t.resolve follow path := by
  simp only [resolve, resolveNames, h.working, resolveFrom_congr h.entry?_eq]

lemma isFile_eq (path : String) : t'.isFile path = t.isFile path := by
  rw [isFile, isFile, h.resolve_eq]

lemma readText_eq (path : String) : t'.readText path = t.readText path := by
  rw [readText, readText, h.resolve_eq]

lemma holds_iff : t'.Holds folder name entry ↔ t.Holds folder name entry := by
  simp only [Holds, h.resolve_eq, h.entry?_eq]

end Reordered

end Walkthrough.Files
