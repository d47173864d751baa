import Walkthrough.Ascending
import Walkthrough.Table

/-!
# Phrasebooks

A document is written in one language, its base language.  A phrasebook says it in others: for
each of them it has a table from the texts of the document to their wording there.  A language is
offered as soon as it is announced, with a table or without.  Looking a text up never fails, for
a text without another wording stands for itself.
-/

namespace Walkthrough

/-- The languages of a document besides its base language, and their tables. -/
structure Phrasebook where
  base : String
  announced : List String
  tables : Table (Table String)

namespace Phrasebook

/-- No language besides the base language. -/
def none (base : String) : Phrasebook := ⟨base, [], Table.empty⟩

/-- The phrasebook with a language announced. -/
def announce (b : Phrasebook) (language : String) : Phrasebook :=
  { b with announced := b.announced ++ [language] }

/-- The phrasebook with a table for a language, in place of an earlier one. -/
def setTable (b : Phrasebook) (language : String) (table : Table String) : Phrasebook :=
  { b with tables := b.tables.insert language table }

/-- The phrasebook with a table for a language, which is announced unless it was before. -/
def insert (b : Phrasebook) (language : String) (table : Table String) : Phrasebook :=
  (if language ∈ b.announced then b else b.announce language).setTable language table

/-- The base language and every announced language, in order. -/
def languages (b : Phrasebook) : List String := Ascending.ofList (b.base :: b.announced)

/-- The wording of a text in a language, which is the text itself if there is no other. -/
def wording (b : Phrasebook) (language text : String) : String :=
  if language = b.base then text
  else ((b.tables.get? language).bind (·.get? text)).getD text

end Phrasebook

/-- A list of characters with line breaks in place of the marks for them. -/
def breakLinesOf : List Char → List Char
  | '\x7b' :: 'b' :: 'r' :: '\x7d' :: s => '\n' :: breakLinesOf s
  | c :: s => c :: breakLinesOf s
  | [] => []

/-- A text with line breaks in place of the marks for them, which are the letters br between
braces. -/
def breakLines (s : String) : String := String.ofList (breakLinesOf s.toList)

end Walkthrough
