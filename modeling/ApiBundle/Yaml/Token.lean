import ApiBundle.Text.Split
import ApiBundle.Text.Utf8

/-!
# YAML tokens

The tokens of a YAML stream, places in its text, and the classes of characters that tell tokens
apart. Line breaks of any kind are single characters by the time tokens are read
(`Yaml.unifyBreaks`).
-/

namespace ApiBundle.Yaml

/-- How a scalar is written. -/
inductive ScalarStyle where
  /-- Without marks. -/
  | plain
  /-- Between single or double quotes. -/
  | quoted
  /-- As a block with its line breaks. -/
  | literal
  /-- As a block whose lines are joined. -/
  | folded
  deriving DecidableEq, Repr

/-- A tag. It is kept in octets, since escapes can bring in octets that are no text. -/
abbrev Tag : Type := List Nat

/-- The octets of a tag without escapes. -/
def Tag.ofText (text : String) : Tag := Utf8.encode text.toList

/-- What octets bring into a tag: those before the first zero. -/
def Tag.ofOctets (octets : List Nat) : Tag := octets.takeWhile (· ≠ 0)

/-- What the tags of a document's own start with. -/
def Tag.mark : Tag := Tag.ofText "!"

/-- A token. -/
inductive Token where
  /-- A declaration of the version of the format. -/
  | version (major minor : Nat)
  /-- A declaration of a handle for tags. -/
  | handle (handle : String) (tag : Tag)
  /-- Three hyphens. -/
  | documentStart
  /-- Three dots. -/
  | documentEnd
  /-- The start of a sequence written with hyphens. -/
  | blockSequenceStart
  /-- The start of a mapping that is told by its indentation. -/
  | blockMappingStart
  /-- The end of a collection that is told by its indentation. -/
  | blockEnd
  /-- An opening bracket. -/
  | flowSequenceStart
  /-- A closing bracket. -/
  | flowSequenceEnd
  /-- An opening brace. -/
  | flowMappingStart
  /-- A closing brace. -/
  | flowMappingEnd
  /-- The hyphen before an item. -/
  | blockEntry
  /-- A comma. -/
  | flowEntry
  /-- What comes next is a key. -/
  | key
  /-- What comes next is a value. -/
  | value
  /-- A mention of an anchored node. -/
  | alias (name : String)
  /-- A name for the next node. -/
  | anchor (name : String)
  /-- A tag for the next node: a handle, or nothing for a complete tag, and the rest. -/
  | tag (handle : String) (suffix : Tag)
  /-- A scalar with its text. -/
  | scalar (style : ScalarStyle) (text : String)
  deriving DecidableEq, Repr

/-- A place in a text, counted from zero. -/
structure Place where
  /-- The line. -/
  line : Nat
  /-- How many characters of the line come before it. -/
  column : Nat
  /-- How many octets of the line come before it. -/
  offset : Nat
  deriving DecidableEq, Repr

/-- Why a text is no YAML document. -/
inductive Error where
  /-- A character that a stream may not hold. -/
  | forbidden (c : Char)
  /-- Something that is not allowed where it stands. -/
  | misplaced (what : String) (place : Place)
  /-- Something that is not written as it should be. -/
  | malformed (what : String) (place : Place)
  /-- Tokens that form no document. -/
  | unstructured (expected : String)
  /-- A second document. -/
  | severalDocuments
  /-- An alias for a name that no node has. -/
  | unknownAnchor (name : String)
  /-- Aliases that lead to far too many nodes. -/
  | tooManyAliases
  /-- Nodes that are nested too deeply. -/
  | tooDeep
  /-- A mapping with two equal keys. -/
  | duplicateKey
  /-- A scalar that is not of the kind its tag says, or out of range. -/
  | unsuitable (text : String)
  /-- A document that is not of the form wanted. -/
  | unexpected (wanted : String)
  deriving DecidableEq, Repr

/-- A place in words, counted from one. -/
def Place.text (p : Place) : String :=
  "line " ++ toString (p.line + 1) ++ " column " ++ toString (p.column + 1)

/-- The wording of a failure. -/
def Error.message : Error → String
  | .forbidden c => "character " ++ toString c.toNat ++ " is not allowed"
  | .misplaced what place => what ++ " is not allowed at " ++ place.text
  | .malformed what place => "malformed " ++ what ++ " at " ++ place.text
  | .unstructured expected => "did not find expected " ++ expected
  | .severalDocuments => "more than one document"
  | .unknownAnchor name => "unknown anchor " ++ name
  | .tooManyAliases => "repetition limit exceeded"
  | .tooDeep => "recursion limit exceeded"
  | .duplicateKey => "duplicate entry"
  | .unsuitable text => "invalid value: " ++ text
  | .unexpected wanted => "expected " ++ wanted

/-! ## Characters -/

/-- A character that a stream may hold. -/
def isAllowed (c : Char) : Bool :=
  let n := c.toNat
  n = 9 || n = 10 || n = 13 || (0x20 ≤ n && n ≤ 0x7E) || n = 0x85 || (0xA0 ≤ n && n ≤ 0xFFFD) ||
    0x10000 ≤ n

/-- A line break, once they are unified: two kinds keep their character. -/
def isBreak (c : Char) : Bool := c = '\n' || c = '\u2028' || c = '\u2029'

/-- A space or tab. -/
def isBlank (c : Char) : Bool := c = ' ' || c = '\t'

/-- A blank or a break. -/
def isSpacing (c : Char) : Bool := isBlank c || isBreak c

/-- Whether a text starts with spacing or has ended. -/
def atSpacing : List Char → Bool
  | [] => true
  | c :: _ => isSpacing c

/-- A character of a name: ASCII letters, digits, underscore and hyphen. -/
def isWordChar (c : Char) : Bool := c.isAlphanum || c = '_' || c = '-'

/-- A character with a meaning inside brackets and braces. -/
def isFlowIndicator (c : Char) : Bool := ",[]\x7b\x7d".toList.contains c

/-- Writes each break as one character; carriage returns and next-lines become line feeds. -/
def unifyBreaks : List Char → List Char
  | '\r' :: '\n' :: cs => '\n' :: unifyBreaks cs
  | '\r' :: cs => '\n' :: unifyBreaks cs
  | '\u0085' :: cs => '\n' :: unifyBreaks cs
  | c :: cs => c :: unifyBreaks cs
  | [] => []

/-- The place after a character. -/
def Place.after (p : Place) (c : Char) : Place :=
  if isBreak c then ⟨p.line + 1, 0, 0⟩ else ⟨p.line, p.column + 1, p.offset + c.utf8Size⟩

/-- The place after characters. -/
def Place.afterAll (p : Place) (cs : List Char) : Place := cs.foldl Place.after p

/-- Whether a text starts with the three marks of a document's start or end. -/
def atDocumentMark (cs : List Char) : Bool :=
  match cs with
  | '-' :: '-' :: '-' :: rest => atSpacing rest
  | '.' :: '.' :: '.' :: rest => atSpacing rest
  | _ => false

end ApiBundle.Yaml
