/-!
# Ascending lists

The ticked boxes of a checklist and the languages of a tree are finite sets that are shown in
order.  Both are kept as strictly ascending lists; this file sets up the two operations on them.
-/

namespace Walkthrough.Ascending

variable {α : Type} [LT α] [DecidableLT α] [DecidableEq α]

/-- The ascending list with `x` added, which changes nothing if `x` is already there. -/
def insert (x : α) : List α → List α
  | [] => [x]
  | y :: ys => if x < y then x :: y :: ys else if x = y then y :: ys else y :: insert x ys

/-- The ascending list of the elements of any list. -/
def ofList (xs : List α) : List α := xs.foldr insert []

/-- The ascending list with `x` taken out if it is there, and added if it is not. -/
def toggle (x : α) (xs : List α) : List α :=
  if x ∈ xs then xs.erase x else insert x xs

end Walkthrough.Ascending
