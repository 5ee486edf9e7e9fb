import ApiBundle.Pointer

/-!
# Structural paths

The steps that a traversal takes: by the name of a member or by the index of an item. A path tells
the two apart, which a pointer does not; every path has a pointer. `Json.insertAt` stores a value at
the end of a path and makes the containers that are missing on the way.
-/

namespace ApiBundle

/-- One step down a tree. -/
inductive Segment where
  /-- To the member of a name. -/
  | key (name : String)
  /-- To the item of an index. -/
  | index (position : Nat)
  deriving DecidableEq, Repr, Inhabited

/-- The token of a step. -/
def Segment.token : Segment → String
  | .key name => name
  | .index position => toString position

/-- The pointer of a path. -/
def Pointer.ofPath (path : List Segment) : Pointer := ⟨path.map Segment.token⟩

namespace Json

/-- The child that a step leads to. -/
def step? (node : Json) (segment : Segment) : Option Json :=
  match node, segment with
  | .object members, .key name => OrderedMap.find? members name
  | .array items, .index position => items[position]?
  | _, _ => none

/-- Follows a path from a node down. -/
def follow? (node : Json) : List Segment → Option Json
  | [] => some node
  | segment :: rest => (node.step? segment).bind (follow? · rest)

/-- The empty container that the next step needs. -/
def containerFor : List Segment → Json
  | .index _ :: _ => .array []
  | _ => .object []

/-- What stands in a slot before the rest of a path is followed: a missing or null slot is fresh. -/
def slotOr (slot : Option Json) (rest : List Segment) : Json :=
  match slot with
  | none | some .null => containerFor rest
  | some node => node

/-- Items, with nulls added up to a length. -/
def padTo (items : List Json) (length : Nat) : List Json :=
  items ++ List.replicate (length - items.length) .null

/--
Stores `value` at the end of a path below `node`. Missing and null slots on the way become objects
or arrays as the next step demands; an array is padded with nulls. `none` if a node on the way is of
the wrong kind.
-/
def insertAt (node value : Json) : List Segment → Option Json
  | [] => some value
  | segment :: rest =>
    match node, segment with
    | .object members, .key name =>
      (insertAt (slotOr (OrderedMap.find? members name) rest) value rest).map fun new =>
        .object (OrderedMap.put members name new)
    | .array items, .index position =>
      (insertAt (slotOr items[position]? rest) value rest).map fun new =>
        .array ((padTo items (position + 1)).set position new)
    | _, _ => none

end Json

end ApiBundle
