import Walkthrough.Markup.Element
import Walkthrough.Markup.Reference
import Walkthrough.Text.Cut

/-!
# Start tags

The content of a start tag is a name and then attributes, each a key, an equals sign and a value
between quotes.  Attributes are read one at a time and a value is unescaped before the next
attribute is looked at, so that the first fault in the tag is the one reported.
-/

namespace Walkthrough.Markup

/-- The characters that separate words in mark-up. -/
def isSpace (c : Char) : Bool := c == ' ' || c == '\t' || c == '\n' || c == '\r'

/-- An attribute as it is written: its key and the position of that in the tag, the value
between the quotes, and what follows the closing quote. -/
structure RawAttribute where
  key : List Char
  position : Nat
  value : List Char
  rest : List Char

/-- The characters that can follow the first one in a key. -/
def isKeyChar (c : Char) : Bool := c != '=' && !isSpace c

/-- The value after the equals sign in a tag of `total` bytes, and what follows it. -/
def quotedValue (total : Nat) (s : List Char) :
    Except AttributeError (List Char × List Char) :=
  match s.dropWhile isSpace with
  | [] => .error (.missingValue total)
  | quote :: s =>
    if quote = '"' ∨ quote = '\'' then
      match s.dropWhile (· != quote) with
      | [] => .error (.missingQuote total quote)
      | _ :: rest => .ok (s.takeWhile (· != quote), rest)
    else .error (.unquotedValue (total - byteLength (quote :: s)))

/-- The next attribute in the rest `s` of a tag of `total` bytes, if there is one.  The keys in
`seen`, each with its position, were written before. -/
def RawAttribute.next? (total : Nat) (seen : List (List Char × Nat)) (s : List Char) :
    Except AttributeError (Option RawAttribute) :=
  match s.dropWhile isSpace with
  | [] => .ok none
  | first :: s =>
    let key := first :: s.takeWhile isKeyChar
    let position := total - byteLength (first :: s)
    match (s.dropWhile isKeyChar).dropWhile isSpace with
    | [] => .error (.missingEquals total)
    | c :: s =>
      if c = '=' then
        match seen.find? fun k => k.1 == key with
        | some earlier => .error (.duplicate position earlier.2)
        | none => do
          let (value, rest) ← quotedValue total s
          return some ⟨key, position, value, rest⟩
      else .error (.missingEquals (total - byteLength (c :: s)))

theorem length_of_quotedValue {total : Nat} {s : List Char} {v : List Char × List Char}
    (h : quotedValue total s = .ok v) : v.2.length < s.length := by
  have hs := Text.length_dropWhile_le isSpace s
  unfold quotedValue at h
  split at h
  · simp at h
  · next quote s' hd =>
    split at h
    · have hq := Text.length_dropWhile_le (· != quote) s'
      split at h
      · simp at h
      · next hr =>
        cases h
        rw [hd] at hs
        rw [hr] at hq
        simp only [List.length_cons] at *
        omega
    · simp at h

theorem length_of_next? {total : Nat} {seen : List (List Char × Nat)} {s : List Char}
    {a : RawAttribute} (h : RawAttribute.next? total seen s = .ok (some a)) :
    a.rest.length < s.length := by
  have hs := Text.length_dropWhile_le isSpace s
  unfold RawAttribute.next? at h
  split at h
  · simp at h
  · next first s₁ hd =>
    have hk := Text.length_dropWhile_le isKeyChar s₁
    have hb := Text.length_dropWhile_le isSpace (s₁.dropWhile isKeyChar)
    simp only at h
    split at h
    · simp at h
    · next c s₂ hc =>
      split at h
      · split at h
        · simp at h
        · cases hv : quotedValue total s₂ with
          | error e => simp [hv, bind, Except.bind] at h
          | ok v =>
            have := length_of_quotedValue hv
            simp only [hv, bind, Except.bind, pure, Except.pure, Except.ok.injEq,
              Option.some.injEq] at h
            subst h
            rw [hd] at hs
            rw [hc] at hb
            simp only [List.length_cons] at *
            omega
      · simp at h

/-- The attributes in the rest `s` of a tag of `total` bytes, added to those read before. -/
def attributesFrom (total : Nat) (seen : List (List Char × Nat)) (table : Table String)
    (s : List Char) : Except Error (Table String) :=
  match _ : RawAttribute.next? total seen s with
  | .error cause => .error (.badAttribute cause)
  | .ok none => .ok table
  | .ok (some a) =>
    match unescape a.value with
    | .error cause => .error (.badReference cause)
    | .ok value =>
      attributesFrom total (seen ++ [(a.key, a.position)])
        (table.insert (String.ofList a.key) value) a.rest
termination_by s.length
decreasing_by
  have := length_of_next? ‹_›
  omega

/-- The element that a start tag opens, still without children and text. -/
def Element.ofTag (content : List Char) : Except Error Element := do
  let name := content.takeWhile fun c => !isSpace c
  let attributes ←
    attributesFrom (byteLength content) [] Table.empty (content.dropWhile fun c => !isSpace c)
  return ⟨String.ofList name, attributes, [], ""⟩

end Walkthrough.Markup
