import ApiBundle.Json.Basic
import ApiBundle.Decimal.Shortest
import ApiBundle.Yaml.Token

/-!
# YAML values

The values of YAML documents, and what they are as JSON trees. A mapping may have keys of any kind;
as a JSON object it has their texts. Tags are left out, and numbers that are not finite cannot be
expressed.
-/

namespace ApiBundle

/-- A YAML number. -/
inductive YamlNumber where
  /-- An integer. -/
  | integer (value : Int)
  /-- A finite float. -/
  | float (value : Double)
  /-- An infinite float. -/
  | infinite (negative : Bool)
  /-- Not a number. -/
  | undefined
  deriving DecidableEq, Repr, Inhabited

/-- A YAML value. -/
inductive Yaml where
  /-- The absent value. -/
  | null
  /-- A truth value. -/
  | bool (value : Bool)
  /-- A number. -/
  | number (value : YamlNumber)
  /-- A text. -/
  | string (value : String)
  /-- Items in order. -/
  | sequence (items : List Yaml)
  /-- Values under keys, in order. -/
  | mapping (entries : List (Yaml × Yaml))
  /-- A value with a tag of the document's own. -/
  | tagged (tag : String) (value : Yaml)
  deriving Repr, Inhabited

namespace YamlNumber

/-- Positional notation as in JSON, and no mark at positive exponents. -/
def floats : Double.TextStyle := ⟨-5, 16, ""⟩

/-- The text of a number. -/
def text : YamlNumber → String
  | integer n => toString n
  | float x => x.text floats
  | infinite true => "-.inf"
  | infinite false => ".inf"
  | undefined => ".nan"

/-- Whether two numbers count as one key: the two zeros do. -/
def sameKey : YamlNumber → YamlNumber → Bool
  | integer a, integer b => a == b
  | float a, float b => a.sameValue b
  | infinite a, infinite b => a == b
  | undefined, undefined => true
  | _, _ => false

end YamlNumber

/-- Why a YAML value is no JSON tree. -/
inductive YamlError where
  /-- A number that is not finite. -/
  | unsupportedNumber (number : YamlNumber)
  /-- A sequence or mapping as a key. -/
  | unsupportedKey (key : Yaml)
  deriving Repr

/-- The wording of a failure. -/
def YamlError.message : YamlError → String
  | .unsupportedNumber n => "Unsupported number: " ++ n.text
  | .unsupportedKey (.sequence _) => "Unsupported mapping key: a sequence"
  | .unsupportedKey _ => "Unsupported mapping key: a mapping"

namespace Yaml

/-- A tag as it counts in comparisons: without a mark at its start, unless that is all there is. -/
def comparedTag (tag : String) : String :=
  match tag.toList with
  | '!' :: c :: cs => String.ofList (c :: cs)
  | _ => tag

mutual

/-- Whether two values count as one key. The order of a mapping's entries does not matter. -/
def sameKey : Yaml → Yaml → Bool
  | .null, .null => true
  | .bool a, .bool b => a == b
  | .number a, .number b => a.sameKey b
  | .string a, .string b => a == b
  | .sequence a, .sequence b => sameItems a b
  | .mapping a, .mapping b => a.length == b.length && sameEntries a b
  | .tagged s a, .tagged t b => comparedTag s == comparedTag t && sameKey a b
  | _, _ => false

/-- Whether items agree one by one. -/
def sameItems : List Yaml → List Yaml → Bool
  | [], [] => true
  | x :: xs, y :: ys => sameKey x y && sameItems xs ys
  | _, _ => false

/-- Whether every entry of the first list has an equal one in the second. -/
def sameEntries : List (Yaml × Yaml) → List (Yaml × Yaml) → Bool
  | [], _ => true
  | (k, x) :: xs, ys => hasEntry k x ys && sameEntries xs ys

/-- Whether a list has an entry with a key and value. -/
def hasEntry (key value : Yaml) : List (Yaml × Yaml) → Bool
  | [] => false
  | (k, x) :: rest => (sameKey key k && sameKey value x) || hasEntry key value rest

end

/-- A number as a JSON tree. -/
def numberToJson : YamlNumber → Except YamlError Json
  | .integer n => .ok (.number (.integer n))
  | .float x => .ok (.number (.float x))
  | n => .error (.unsupportedNumber n)

/-- The text of a key. -/
def keyText : Yaml → Except YamlError String
  | .string s => .ok s
  | .number n => .ok n.text
  | .bool true => .ok "true"
  | .bool false => .ok "false"
  | .null => .ok "null"
  | .tagged _ v => keyText v
  | key => .error (.unsupportedKey key)

mutual

/-- A value as a JSON tree. Of entries whose keys have one text, the last value is kept. -/
def toJson : Yaml → Except YamlError Json
  | .null => .ok .null
  | .bool b => .ok (.bool b)
  | .number n => numberToJson n
  | .string s => .ok (.string s)
  | .sequence items => do return .array (← itemsToJson items)
  | .mapping entries => do return .object (← entriesToJson [] entries)
  | .tagged _ v => toJson v

/-- Items as JSON trees. -/
def itemsToJson : List Yaml → Except YamlError (List Json)
  | [] => .ok []
  | x :: xs => do return (← toJson x) :: (← itemsToJson xs)

/-- Puts entries into a list of members. -/
def entriesToJson (members : List (String × Json)) :
    List (Yaml × Yaml) → Except YamlError (List (String × Json))
  | [] => .ok members
  | (k, x) :: rest => do
    let key ← keyText k
    let value ← toJson x
    entriesToJson (OrderedMap.put members key value) rest

end

end Yaml

end ApiBundle
