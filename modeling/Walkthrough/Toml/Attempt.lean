import Walkthrough.Text.Cut

/-!
# Attempts to read

A reader takes what it wants off the front of a list of characters.  Where it cannot, the place
of its failure matters, because a file is refused with that place; and it matters whether the
characters so far leave room for something else, because then another reader may try.  A fault
keeps its place as the characters from there to the end of the file, which is what a reader knows
of it.
-/

namespace Walkthrough.Toml

/-- Why an attempt to read failed. -/
structure Fault where
  /-- The characters from the fault to the end of the file. -/
  rest : List Char
  /-- Whether nothing else can be meant, so that no other reader may try. -/
  isFinal : Bool
  deriving DecidableEq, Repr

/-- The outcome of an attempt to read. -/
abbrev Attempt (α : Type) := Except Fault α

namespace Attempt

variable {α : Type}

/-- The attempt that fails in front of a list, and leaves it to other readers. -/
def reject (s : List Char) : Attempt α := .error ⟨s, false⟩

/-- The attempt that fails in front of a list for good. -/
def fail (s : List Char) : Attempt α := .error ⟨s, true⟩

/-- The attempt, after whose failure nothing else may be tried. -/
def commit (a : Attempt α) : Attempt α := a.mapError fun f => { f with isFinal := true }

/-- The first attempt, or the second if the first leaves room for it. -/
def orElse (first : Attempt α) (second : Unit → Attempt α) : Attempt α :=
  match first with
  | .error ⟨_, false⟩ => second ()
  | first => first

/-- An attempt at something that may be missing: what `a` gives, or `absent` if `a` leaves room
for it. -/
def optional (a : Attempt α) (absent : α) : Attempt α := a.orElse fun _ => .ok absent

end Attempt

/-- What follows a given character. -/
def expect (c : Char) : List Char → Attempt (List Char)
  | d :: s => if d = c then .ok s else .reject (d :: s)
  | [] => .reject []

/-- What follows given characters, all of which are there or none counts. -/
def expectAll (word s : List Char) : Attempt (List Char) :=
  match Text.dropFront? word s with
  | some rest => .ok rest
  | none => .reject s

end Walkthrough.Toml
