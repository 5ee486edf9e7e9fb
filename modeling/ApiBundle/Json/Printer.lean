import ApiBundle.Json.Basic
import ApiBundle.Decimal.Shortest

/-!
# Writing trees as JSON text

Two layouts: compact, without any blank, and indented by two blanks a level. Strings escape the
quote, the backslash and the characters below U+0020, and nothing else.
-/

namespace ApiBundle

/-- JSON writes decimal exponents from -5 to 15 positionally and marks positive exponents. -/
def jsonFloats : Double.TextStyle := ⟨-5, 16, "+"⟩

/-- The text of a number. -/
def Number.text : Number → String
  | .integer value => toString value
  | .float value => value.text jsonFloats

namespace Json

/-- A hexadecimal digit in lower case. -/
def hexDigit (n : Nat) : Char :=
  if n < 10 then Char.ofNat (48 + n) else Char.ofNat (87 + n)

/-- The four hexadecimal digits of a 16-bit number. -/
def hexFour (n : Nat) : List Char :=
  [hexDigit (n / 4096 % 16), hexDigit (n / 256 % 16), hexDigit (n / 16 % 16), hexDigit (n % 16)]

/-- A character as it stands inside a quoted string. -/
def escaped (c : Char) : List Char :=
  if c = '"' then ['\\', '"']
  else if c = '\\' then ['\\', '\\']
  else if c.toNat = 8 then ['\\', 'b']
  else if c.toNat = 12 then ['\\', 'f']
  else if c = '\n' then ['\\', 'n']
  else if c = '\r' then ['\\', 'r']
  else if c = '\t' then ['\\', 't']
  else if c.toNat < 32 then '\\' :: 'u' :: hexFour c.toNat
  else [c]

/-- A text in quotes. -/
def quoted (text : String) : String :=
  "\"" ++ String.ofList (text.toList.flatMap escaped) ++ "\""

mutual

/-- The compact text of a tree. -/
def compact : Json → String
  | .null => "null"
  | .bool true => "true"
  | .bool false => "false"
  | .number n => n.text
  | .string s => quoted s
  | .array items => "[" ++ compactItems items ++ "]"
  | .object members => "\x7b" ++ compactMembers members ++ "\x7d"

/-- Items with commas between them. -/
def compactItems : List Json → String
  | [] => ""
  | [x] => compact x
  | x :: xs => compact x ++ "," ++ compactItems xs

/-- Members with commas between them. -/
def compactMembers : List (String × Json) → String
  | [] => ""
  | [(k, x)] => quoted k ++ ":" ++ compact x
  | (k, x) :: xs => quoted k ++ ":" ++ compact x ++ "," ++ compactMembers xs

end

/-- A new line at a depth. -/
def newLine (depth : Nat) : String := "\n" ++ String.ofList (List.replicate (2 * depth) ' ')

mutual

/-- The indented text of a tree that stands at a depth. -/
def indentedAt (depth : Nat) : Json → String
  | .array [] => "[]"
  | .array items => "[" ++ indentedItems (depth + 1) items ++ newLine depth ++ "]"
  | .object [] => "\x7b\x7d"
  | .object members =>
    "\x7b" ++ indentedMembers (depth + 1) members ++ newLine depth ++ "\x7d"
  | .null => "null"
  | .bool true => "true"
  | .bool false => "false"
  | .number n => n.text
  | .string s => quoted s

/-- Items, each on its own line. -/
def indentedItems (depth : Nat) : List Json → String
  | [] => ""
  | [x] => newLine depth ++ indentedAt depth x
  | x :: xs => newLine depth ++ indentedAt depth x ++ "," ++ indentedItems depth xs

/-- Members, each on its own line. -/
def indentedMembers (depth : Nat) : List (String × Json) → String
  | [] => ""
  | [(k, x)] => newLine depth ++ quoted k ++ ": " ++ indentedAt depth x
  | (k, x) :: xs =>
    newLine depth ++ quoted k ++ ": " ++ indentedAt depth x ++ "," ++ indentedMembers depth xs

end

/-- The indented text of a whole document, without a final line break. -/
def indented (tree : Json) : String := indentedAt 0 tree

end Json

end ApiBundle
