import ApiBundle.Json.Parser
import ApiBundle.Text.Classes
import ApiBundle.Yaml.Reader

/-!
# The text of a document

A document is JSON if the first thing in its text is an opening brace, and YAML otherwise.
-/

namespace ApiBundle

/-- Why a text is no document. -/
inductive DocumentError where
  /-- It starts like JSON and is none. -/
  | json (cause : JsonError)
  /-- It is no YAML either. -/
  | yaml (cause : Yaml.Error)
  /-- It is YAML that JSON cannot express. -/
  | inexpressible (cause : YamlError)
  /-- It holds nothing. -/
  | empty

/-- The wording of a failure. -/
def DocumentError.message : DocumentError → String
  | json e => "invalid JSON: " ++ e.message
  | yaml e => "invalid YAML: " ++ e.message
  | inexpressible e => e.message
  | empty => "document is empty"

/-- Reads JSON. -/
def readJson (text : String) : Except DocumentError Json :=
  (Json.parse text).mapError .json

/-- Reads YAML as a JSON tree. -/
def readYaml (text : String) : Except DocumentError Json := do
  let v ← (Yaml.parse text).mapError .yaml
  v.toJson.mapError .inexpressible

/-- Whether a text starts like JSON. -/
def looksLikeJson (text : String) : Bool := (Text.trimStart text.toList).head? = some '\x7b'

/-- Reads the text of a document. -/
def parseDocument (text : String) : Except DocumentError Json := do
  let tree ← if looksLikeJson text then readJson text else readYaml text
  if tree.isNull then throw .empty else return tree

end ApiBundle
