import ApiBundle.Json.Basic
import ApiBundle.Text.Split
import ApiBundle.Text.Percent

/-!
# JSON pointers

A pointer is a list of tokens. Its text writes every token after a `/`, with `~` as `~0` and `/` as
`~1`. In a URL fragment the text stands percent-encoded. Looking a pointer up goes one token at a
time, into the member of that name or to the item of that index.
-/

namespace ApiBundle

/-- A place in a tree: the tokens from the root down. -/
structure Pointer where
  /-- The tokens, not escaped. -/
  tokens : List String
  deriving DecidableEq, Repr, Inhabited

/-- Why a text is not a pointer. -/
inductive PointerError where
  /-- It is not empty and does not start with a slash. -/
  | noSlash (text : String)
  /-- A tilde is followed by neither `0` nor `1`. -/
  | badEscape (text : String)
  deriving DecidableEq, Repr

/-- The wording of a failure. -/
def PointerError.message : PointerError → String
  | .noSlash text => "JSON Pointer '" ++ text ++ "' must start with '/'"
  | .badEscape text => "JSON Pointer '" ++ text ++ "' contains an invalid '~' escape"

namespace Pointer

/-- The whole document. -/
def root : Pointer := ⟨[]⟩

/-- Whether this is the whole document. -/
def isRoot (p : Pointer) : Bool := p.tokens.isEmpty

/-- The last token. -/
def last? (p : Pointer) : Option String := p.tokens.getLast?

/-- One token deeper. -/
def push (p : Pointer) (token : String) : Pointer := ⟨p.tokens ++ [token]⟩

/-- The place that `q` has below the place `p`. -/
def join (p q : Pointer) : Pointer := ⟨p.tokens ++ q.tokens⟩

/-- Whether this is `top` or lies below it. -/
def startsWith (p top : Pointer) : Bool := top.tokens.isPrefixOf p.tokens

/-! ## Text -/

/-- Writes a token: `~` as `~0`, `/` as `~1`. -/
def escapeToken : List Char → List Char
  | [] => []
  | c :: cs =>
    if c = '~' then '~' :: '0' :: escapeToken cs
    else if c = '/' then '~' :: '1' :: escapeToken cs
    else c :: escapeToken cs

/-- Reads a token; `none` at a tilde that starts no escape. -/
def unescapeToken? : List Char → Option (List Char)
  | [] => some []
  | '~' :: '0' :: cs => (unescapeToken? cs).map ('~' :: ·)
  | '~' :: '1' :: cs => (unescapeToken? cs).map ('/' :: ·)
  | c :: cs => if c = '~' then none else (unescapeToken? cs).map (c :: ·)

/-- A token as it stands in a pointer's text. -/
def escape (token : String) : String := String.ofList (escapeToken token.toList)

/-- The text of a pointer as characters. -/
def chars (p : Pointer) : List Char := p.tokens.flatMap fun token => '/' :: escapeToken token.toList

/-- The text of a pointer. -/
def text (p : Pointer) : String := String.ofList p.chars

/-- Reads the tokens between slashes; `none` at a bad escape. -/
def tokens? (cs : List Char) : Option (List String) :=
  (Text.splitAt '/' cs).mapM fun piece => (unescapeToken? piece).map String.ofList

/-- Reads the text of a pointer. -/
def parse (text : String) : Except PointerError Pointer :=
  match text.toList with
  | [] => .ok root
  | '/' :: cs =>
    match tokens? cs with
    | some tokens => .ok ⟨tokens⟩
    | none => .error (.badEscape text)
  | _ => .error (.noSlash text)

/-- Reads a URL fragment: percent escapes first, then the pointer's text. -/
def ofFragment (fragment : String) : Except PointerError Pointer :=
  parse (String.ofList (Percent.decode fragment.toList))

/-- Replaces every `~1` by a slash. -/
def unescapeSlashes : List Char → List Char
  | '~' :: '1' :: cs => '/' :: unescapeSlashes cs
  | c :: cs => c :: unescapeSlashes cs
  | [] => []

/-- Replaces every `~0` by a tilde. -/
def unescapeTildes : List Char → List Char
  | '~' :: '0' :: cs => '~' :: unescapeTildes cs
  | c :: cs => c :: unescapeTildes cs
  | [] => []

/-- Decodes one segment leniently: `~1`, then `~0`, then percent escapes. -/
def decodeSegment (segment : String) : String :=
  String.ofList (Percent.decode (unescapeTildes (unescapeSlashes segment.toList)))

/-! ## Lookup -/

/-- One more than the greatest index. -/
def indexLimit : Nat := Nat.pow 2 64

/-- The number written by a list of decimal digits, at least one. -/
def digits? (cs : List Char) : Option Nat :=
  if !cs.isEmpty && cs.all Char.isDigit then
    some (cs.foldl (fun n c => n * 10 + (c.toNat - 48)) 0)
  else none

/--
The index that a token means: decimal digits without a leading zero, after an optional plus sign,
below the limit.
-/
def index? (token : String) : Option Nat :=
  let cs := token.toList
  let number := match cs with
    | ['0'] => some 0
    | '0' :: _ => none
    | '+' :: cs => digits? cs
    | cs => digits? cs
  number.filter (· < indexLimit)

/-- The child of a node under a token. -/
def child? (node : Json) (token : String) : Option Json :=
  match node with
  | .object members => OrderedMap.find? members token
  | .array items => (index? token).bind (items[·]?)
  | _ => none

/-- Follows tokens from a node down. -/
def lookup (node : Json) : List String → Option Json
  | [] => some node
  | token :: rest => (child? node token).bind (lookup · rest)

/-- The node at a place in a tree. -/
def find? (p : Pointer) (tree : Json) : Option Json := lookup tree p.tokens

/-- Puts a node in the place of the one that the tokens lead to; `none` if they lead nowhere. -/
def overwrite (node value : Json) : List String → Option Json
  | [] => some value
  | token :: rest =>
    match node with
    | .object members =>
      match OrderedMap.find? members token with
      | some child =>
        (overwrite child value rest).map fun new => .object (OrderedMap.put members token new)
      | none => none
    | .array items =>
      match index? token with
      | some i =>
        match items[i]? with
        | some child => (overwrite child value rest).map fun new => .array (items.set i new)
        | none => none
      | none => none
    | _ => none

/-- Replaces the node at a place in a tree; `none` if there is none. -/
def set? (p : Pointer) (tree value : Json) : Option Json := overwrite tree value p.tokens

end Pointer

end ApiBundle
