import ApiBundle.OrderedMap
import ApiBundle.Uri.Basic

/-!
# Sources of documents

Where the texts of documents come from: a source answers a URL with the text there, or with why
there is none.
-/

namespace ApiBundle

/-- Answers the URL of a document with its text or with a reason. -/
abbrev Source : Type := Uri → Except String String

namespace Source

/-- The text that a document's URL is known by: fragments do not matter. -/
def key (url : Uri) : String := url.withoutFragment.text

/-- Documents in memory, each under the key of its URL. -/
abbrev Texts : Type := OrderedMap String String

/-- Puts a document into memory. -/
def Texts.add (texts : Texts) (url : Uri) (text : String) : Texts :=
  OrderedMap.put texts (key url) text

/-- Answers from memory. -/
def ofTexts (texts : Texts) : Source := fun url =>
  match OrderedMap.find? texts (key url) with
  | some text => .ok text
  | none => .error ("No document registered for " ++ url.text)

end Source

end ApiBundle
