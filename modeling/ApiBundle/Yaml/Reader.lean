import ApiBundle.Yaml.Node
import ApiBundle.Yaml.Scalar

/-!
# Reading YAML values

The value of a document: scalars by their tags and texts, aliases by the nodes that they mention.
Collections nest at most 128 deep, aliases followed may be a hundred for each part of the document,
and no mapping may have two equal keys.
-/

namespace ApiBundle

namespace Yaml

/-- How deep collections may nest. -/
def depthLimit : Nat := 128

/-- Steps that count the aliases followed, and may fail. -/
abbrev Reading : Type → Type := StateT Nat (Except Error)

/--
The document's own tag on a node, which starts with an exclamation mark; without that mark, unless
it is all there is. A tag whose octets are no text counts as none.
-/
def ownTag? (tag : Option Tag) : Option String := do
  let tag ← tag
  if !Tag.mark.isPrefixOf tag then none
  else
    let name := tag.drop Tag.mark.length
    (Utf8.decode? (if name.isEmpty then Tag.mark else name)).map String.ofList

/-- A value under the document's own tag, if there is one. -/
def underTag (tag : Option Tag) (v : Yaml) : Yaml :=
  match ownTag? tag with
  | some t => .tagged t v
  | none => v

/-- The value of a scalar node. -/
def ofScalar (p : Properties Nat) (style : ScalarStyle) (text : String) : Except Error Yaml :=
  match ownTag? p.tag with
  | some t => return .tagged t (← scalarValue none style text)
  | none => scalarValue p.tag style text

/-- Follows an alias. -/
def follow (d : Document) (n : Node Nat) : Reading (Node Nat) :=
  match n with
  | .alias target => do
    let followed := (← get) + 1
    set followed
    if 100 * d.size < followed then throw .tooManyAliases
    match d.anchor? target with
    | some node => return node
    | none => throw (.unknownAnchor (toString target))
  | node => return node

/-- Reads entries, each of whose keys must be new. -/
def readEntries (child : Node Nat → Reading Yaml) (sofar : List (Yaml × Yaml)) :
    List (Node Nat × Node Nat) → Reading (List (Yaml × Yaml))
  | [] => return sofar.reverse
  | (k, x) :: rest => do
    let key ← child k
    if sofar.any fun entry => sameKey entry.1 key then throw .duplicateKey
    let value ← child x
    readEntries child ((key, value) :: sofar) rest

/-- Reads a node whose parts are read by `child`; without it, the node must be a scalar. -/
def readNode (d : Document) (child : Option (Node Nat → Reading Yaml)) (n : Node Nat) :
    Reading Yaml := do
  match ← follow d n, child with
  | .scalar p style text, _ => ofScalar p style text
  | .sequence p items, some child => return underTag p.tag (.sequence (← items.mapM child))
  | .mapping p entries, some child =>
    return underTag p.tag (.mapping (← readEntries child [] entries))
  | _, _ => throw .tooDeep

/-- The value of a node whose collections may nest as deep as given. -/
def ofNode (d : Document) : Nat → Node Nat → Reading Yaml
  | 0, n => readNode d none n
  | depth + 1, n => readNode d (some (ofNode d depth)) n

/-- The value of a document. -/
def ofDocument (d : Document) : Except Error Yaml := do
  return (← (ofNode d depthLimit d.root).run 0).1

/-- Reads a text; without a document it is the absent value. -/
def parse (text : String) : Except Error Yaml := do
  match ← document? text with
  | some d => ofDocument d
  | none => return .null

end Yaml

end ApiBundle
