import Walkthrough.Text.Blank
import Walkthrough.Text.Case

/-!
# Languages

Languages go by their English names.  This file says which language a document is in when it does
not say so itself, and which locale speaks a language aloud.
-/

namespace Walkthrough.Language

/-- The language of a document that names none. -/
def default : String := "English"

/-- The locale that speaks a language.  The Philippine languages share the Spanish voice, and
English speaks what is not known. -/
def code (language : String) : String :=
  match Text.lower (Text.trim language) with
  | "english" => "en-EN"
  | "spanish" | "bisaya" | "ilonggo" | "tagalog" | "filipino" => "es-ES"
  | "french" => "fr-FR"
  | "german" => "de-DE"
  | "japanese" => "ja-JP"
  | "mandarin" | "chinese" => "zh-CN"
  | _ => "en-EN"

end Walkthrough.Language
