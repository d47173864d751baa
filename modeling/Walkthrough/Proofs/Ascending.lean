import Mathlib.Algebra.Ring.Parity
import Mathlib.Data.Finset.SymmDiff
import Mathlib.Data.List.Nodup
import Mathlib.Order.Lattice
import Walkthrough.Ascending

/-!
# Ascending lists as finite sets

An ascending list stays ascending when an element is added, taken out or toggled, and it then has
the members that it should have: toggling an element changes whether that one is there and nothing
else.
-/

namespace Walkthrough.Ascending

variable {α : Type} [LinearOrder α]

lemma mem_insert {x y : α} {xs : List α} : y ∈ insert x xs ↔ y = x ∨ y ∈ xs := by
  induction xs with
  | nil => simp [insert]
  | cons z zs ih =>
    rw [insert]
    split_ifs with hlt heq
    · rw [List.mem_cons]
    · rw [heq, List.mem_cons]
      exact ⟨Or.inr, fun h => h.elim Or.inl id⟩
    · rw [List.mem_cons, List.mem_cons, ih]
      exact or_left_comm

lemma mem_ofList {x : α} {xs : List α} : x ∈ ofList xs ↔ x ∈ xs := by
  induction xs with
  | nil => rfl
  | cons y ys ih =>
    have hcons : ofList (y :: ys) = insert y (ofList ys) := rfl
    rw [hcons, mem_insert, ih, List.mem_cons]

lemma pairwise_insert {x : α} {xs : List α} (h : xs.Pairwise (· < ·)) :
    (insert x xs).Pairwise (· < ·) := by
  induction xs with
  | nil => simp [insert]
  | cons z zs ih =>
    obtain ⟨hz, hzs⟩ := List.pairwise_cons.1 h
    rw [insert]
    split_ifs with hlt heq
    · refine List.pairwise_cons.2 ⟨fun y hy => ?_, h⟩
      rcases List.mem_cons.1 hy with rfl | hy
      · exact hlt
      · exact lt_trans hlt (hz y hy)
    · exact h
    · refine List.pairwise_cons.2 ⟨fun y hy => ?_, ih hzs⟩
      rcases mem_insert.1 hy with rfl | hy
      · exact lt_of_le_of_ne (not_lt.1 hlt) (Ne.symm heq)
      · exact hz y hy

lemma pairwise_ofList (xs : List α) : (ofList xs).Pairwise (· < ·) := by
  induction xs with
  | nil => exact List.Pairwise.nil
  | cons x xs ih => exact pairwise_insert ih

/-- A search in an ascending list gives the least element that passes the test. -/
lemma find?_eq_some {xs : List α} (h : xs.Pairwise (· < ·)) {p : α → Bool} {x : α} :
    xs.find? p = some x ↔ x ∈ xs ∧ p x = true ∧ ∀ y ∈ xs, p y = true → x ≤ y := by
  induction xs with
  | nil => simp
  | cons z zs ih =>
    obtain ⟨hz, hzs⟩ := List.pairwise_cons.1 h
    by_cases hp : p z = true
    · rw [List.find?_cons_of_pos hp, Option.some.injEq]
      constructor
      · rintro rfl
        exact ⟨List.mem_cons_self, hp, List.forall_mem_cons.2 ⟨fun _ => le_rfl,
          fun y hy _ => (hz y hy).le⟩⟩
      · rintro ⟨hx, -, hleast⟩
        have hle := hleast z List.mem_cons_self hp
        rcases List.mem_cons.1 hx with rfl | hx
        · rfl
        · exact absurd (hz x hx) (not_lt.2 hle)
    · rw [List.find?_cons_of_neg hp, ih hzs]
      have hmem : p x = true → (x ∈ z :: zs ↔ x ∈ zs) := fun hx =>
        List.mem_cons.trans (or_iff_right fun he => hp (he ▸ hx))
      simp only [List.forall_mem_cons, hp, Bool.false_eq_true, false_implies, true_and]
      exact ⟨fun ⟨hx, hpx, hleast⟩ => ⟨(hmem hpx).2 hx, hpx, hleast⟩,
        fun ⟨hx, hpx, hleast⟩ => ⟨(hmem hpx).1 hx, hpx, hleast⟩⟩

lemma pairwise_toggle {x : α} {xs : List α} (h : xs.Pairwise (· < ·)) :
    (toggle x xs).Pairwise (· < ·) := by
  rw [toggle]
  split_ifs
  · exact h.sublist List.erase_sublist
  · exact pairwise_insert h

/-- Toggling `x` changes whether `x` is there, and nothing else. -/
lemma mem_toggle {x y : α} {xs : List α} (h : xs.Pairwise (· < ·)) :
    y ∈ toggle x xs ↔ (y ∈ xs ↔ y ≠ x) := by
  have hnodup : xs.Nodup := h.imp ne_of_lt
  rw [toggle]
  split_ifs with hx
  · rw [hnodup.mem_erase_iff]
    constructor
    · rintro ⟨hne, hy⟩
      exact ⟨fun _ => hne, fun _ => hy⟩
    · intro hiff
      have hne : y ≠ x := fun he => hiff.1 (he ▸ hx) he
      exact ⟨hne, hiff.2 hne⟩
  · rw [mem_insert]
    constructor
    · rintro (rfl | hy)
      · exact ⟨fun hy => absurd hy hx, fun hne => absurd rfl hne⟩
      · exact ⟨fun _ he => hx (he ▸ hy), fun _ => hy⟩
    · intro hiff
      by_cases he : y = x
      · exact Or.inl he
      · exact Or.inr (hiff.2 he)

/-! ### Toggling in turn -/

/-- The ascending list after some elements are toggled in turn. -/
def toggleEach (xs ys : List α) : List α := ys.foldl (fun xs y => toggle y xs) xs

lemma pairwise_toggleEach {xs : List α} (h : xs.Pairwise (· < ·)) (ys : List α) :
    (toggleEach xs ys).Pairwise (· < ·) := by
  induction ys generalizing xs with
  | nil => exact h
  | cons y ys ih => exact ih (pairwise_toggle h)

/-- What is toggled an even number of times stays as it was. -/
lemma mem_toggleEach {xs : List α} (h : xs.Pairwise (· < ·)) (ys : List α) {z : α} :
    z ∈ toggleEach xs ys ↔ (z ∈ xs ↔ Even (ys.count z)) := by
  induction ys generalizing xs with
  | nil => simp [toggleEach]
  | cons y ys ih =>
    have hcons : toggleEach xs (y :: ys) = toggleEach (toggle y xs) ys := rfl
    rw [hcons, ih (pairwise_toggle h), mem_toggle h]
    by_cases hz : z = y
    · rw [← hz, List.count_cons_self, Nat.even_add_one]
      simp only [ne_eq, not_true_eq_false]
      tauto
    · rw [List.count_cons_of_ne (Ne.symm hz)]
      simp only [ne_eq, hz, not_false_eq_true, iff_true]

/-- As sets, the elements that are toggled an odd number of times are those that make the
difference. -/
lemma toFinset_toggleEach {xs : List α} (h : xs.Pairwise (· < ·)) (ys : List α) :
    (toggleEach xs ys).toFinset =
      symmDiff xs.toFinset (ys.toFinset.filter fun y => Odd (ys.count y)) := by
  ext z
  have hmem : Odd (ys.count z) → z ∈ ys := by
    intro hodd
    by_contra hz
    rw [List.count_eq_zero_of_not_mem hz] at hodd
    exact absurd hodd (by decide)
  rw [List.mem_toFinset, mem_toggleEach h, Finset.mem_symmDiff, Finset.mem_filter,
    List.mem_toFinset, List.mem_toFinset, ← Nat.not_odd_iff_even]
  tauto

end Walkthrough.Ascending
