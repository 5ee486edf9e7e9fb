import ApiBundle.Path

/-!
# Reference nodes

An object whose `$ref` member is a string refers to content elsewhere. While a document is being
worked on, such a node may also carry an `_info` member, its adornment. This module recognises
reference nodes, takes their special members off, overlays members, and lists the references of a
tree that lead nowhere inside it.
-/

namespace ApiBundle

/-- The member that holds a reference's text. -/
def refKey : String := "$ref"

/-- The member that holds a reference's adornment. -/
def adornmentKey : String := "_info"

namespace Json

/-- The text of a reference node. -/
def refText? (node : Json) : Option String := (node.member? refKey).bind string?

/-- Whether a node is a reference node. -/
def isRefNode (node : Json) : Bool := node.refText?.isSome

/-- The reference node that has a text and nothing else. -/
def refNode (text : String) : Json := .object [(refKey, .string text)]

/-- An object without its reference text and adornment; other nodes stay as they are. -/
def withoutRef : Json → Json
  | .object members => .object (members.filter fun m => m.1 ≠ refKey && m.1 ≠ adornmentKey)
  | node => node

/-- An object without its adornment; other nodes stay as they are. -/
def withoutAdornment : Json → Json
  | .object members => .object (OrderedMap.remove members adornmentKey)
  | node => node

/-- Overlays the members of one object with those of another; anything else is replaced. -/
def mergeFields (target source : Json) : Json :=
  match target, source with
  | .object members, .object incoming => .object (OrderedMap.overlay members incoming)
  | _, _ => source

mutual

/-- Takes the adornment off every reference node of a tree. -/
def stripAdornments : Json → Json
  | .object members =>
    let stripped := stripMembers members
    .object (if isRefNode (.object members) then OrderedMap.remove stripped adornmentKey
      else stripped)
  | .array items => .array (stripItems items)
  | .null => .null
  | .bool b => .bool b
  | .number n => .number n
  | .string s => .string s

/-- Takes the adornments off the reference nodes below items. -/
def stripItems : List Json → List Json
  | [] => []
  | x :: xs => stripAdornments x :: stripItems xs

/-- Takes the adornments off the reference nodes below members. -/
def stripMembers : List (String × Json) → List (String × Json)
  | [] => []
  | (k, x) :: xs => (k, stripAdornments x) :: stripMembers xs

end

/-- Whether a reference text is a pointer into the tree that leads somewhere. -/
def resolvesIn (tree : Json) (text : String) : Bool :=
  match text.toList with
  | '#' :: fragment =>
    match Pointer.ofFragment (String.ofList fragment) with
    | .ok p => (p.find? tree).isSome
    | .error _ => false
  | _ => false

mutual

/-- The references at and below a node that do not resolve in `tree`, in document order. -/
def unresolvedFrom (tree : Json) (here : Pointer) : Json → List (Pointer × String)
  | .object members =>
    let own := match refText? (.object members) with
      | some text => if resolvesIn tree text then [] else [(here, text)]
      | none => []
    own ++ unresolvedMembers tree here members
  | .array items => unresolvedItems tree here 0 items
  | _ => []

/-- The unresolved references below items that start at an index. -/
def unresolvedItems (tree : Json) (here : Pointer) (position : Nat) :
    List Json → List (Pointer × String)
  | [] => []
  | x :: xs =>
    unresolvedFrom tree (here.push (toString position)) x ++
      unresolvedItems tree here (position + 1) xs

/-- The unresolved references below members. -/
def unresolvedMembers (tree : Json) (here : Pointer) :
    List (String × Json) → List (Pointer × String)
  | [] => []
  | (k, x) :: xs => unresolvedFrom tree (here.push k) x ++ unresolvedMembers tree here xs

end

/-- The references of a tree that do not resolve inside it, each with its place. -/
def unresolved (tree : Json) : List (Pointer × String) := unresolvedFrom tree Pointer.root tree

end Json

end ApiBundle
