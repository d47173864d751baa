/-!
# Blank characters and trimming

An answer that is typed, the language named by a document and the pieces of a name are all
compared after the blanks around them are taken away.  This file says which characters are
blank, and sets up trimming on character lists, where the two ends can be reasoned about
separately; `trim` is the same on strings.
-/

namespace Walkthrough.Text

/-- The characters with the Unicode property `White_Space`. -/
def isBlank (c : Char) : Bool :=
  (0x9 ≤ c.toNat && c.toNat ≤ 0xD) || c.toNat == 0x20 || c.toNat == 0x85 || c.toNat == 0xA0 ||
    c.toNat == 0x1680 || (0x2000 ≤ c.toNat && c.toNat ≤ 0x200A) || c.toNat == 0x2028 ||
    c.toNat == 0x2029 || c.toNat == 0x202F || c.toNat == 0x205F || c.toNat == 0x3000

/-- The list without its longest final run of elements that satisfy `p`. -/
def dropEndWhile (p : Char → Bool) (s : List Char) : List Char :=
  (s.reverse.dropWhile p).reverse

/-- The list without the elements satisfying `p` at either end. -/
def stripWhile (p : Char → Bool) (s : List Char) : List Char :=
  dropEndWhile p (s.dropWhile p)

/-- The text without the blanks at either end. -/
def trim (s : String) : String :=
  String.ofList (stripWhile isBlank s.toList)

end Walkthrough.Text
