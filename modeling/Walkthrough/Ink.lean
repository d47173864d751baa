/-!
# Inks

A terminal shows a text in an ink when the text stands between two control sequences.  Without
colors, texts are shown as they are.
-/

namespace Walkthrough

/-- A way in which a terminal shows a text. -/
inductive Ink
  | bold
  | dim
  | italic
  | green
  | yellow
  | cyan
  deriving DecidableEq, Repr

namespace Ink

/-- The number by which a terminal knows the ink. -/
def number : Ink → Nat
  | bold => 1
  | dim => 2
  | italic => 3
  | green => 32
  | yellow => 33
  | cyan => 36

/-- A text in an ink. -/
def paint (colored : Bool) (ink : Ink) (text : String) : String :=
  if colored then s!"\x1b[{ink.number}m" ++ text ++ "\x1b[0m" else text

end Ink

end Walkthrough
