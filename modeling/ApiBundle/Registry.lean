import ApiBundle.Dialect.Naming
import ApiBundle.Error
import ApiBundle.Reference

/-!
# The registry of hoisted content

Content that is hoisted out of its place gets an entry with a name in the container of its
component. An entry is known by its origin: hoisting the content of one place twice gives one entry.
Names are unique within a component; where the preferred name is taken, the least free number is put
behind it.
-/

namespace ApiBundle

/-- Hoisted content. -/
structure Entry where
  /-- The component. -/
  component : Component
  /-- The name in the container. -/
  name : String
  /-- The content. -/
  node : Json
  /-- Where it comes from. -/
  origin : Reference
  /-- Where it is collected. -/
  container : Pointer
  deriving DecidableEq, Repr

namespace Entry

/-- The text of a reference to the entry from the document that holds its container. -/
def refText (e : Entry) : String := "#" ++ e.container.text ++ "/" ++ Pointer.escape e.name

/-- The node of such a reference. -/
def refNode (e : Entry) : Json := Json.refNode e.refText

end Entry

/-- All entries, oldest first. -/
structure Registry where
  /-- The entries. -/
  entries : List Entry
  deriving DecidableEq, Repr

namespace Registry

/-- A registry without entries. -/
def empty : Registry := ⟨[]⟩

/-- The entry for an origin. -/
def find? (r : Registry) (origin : RefId) : Option Entry :=
  r.entries.find? fun e => e.origin.id = origin

/-- Whether there is an entry for an origin. -/
def contains (r : Registry) (origin : RefId) : Bool := (r.find? origin).isSome

/-- The entries of a component. -/
def entriesOf (r : Registry) (c : Component) : List Entry :=
  r.entries.filter fun e => e.component = c

/-- The components that have entries, in the order of their first ones. -/
def components (r : Registry) : List Component :=
  r.entries.foldl
    (fun found e => if found.contains e.component then found else found ++ [e.component]) []

/-- The names that are taken in a component. -/
def names (r : Registry) (c : Component) : List String := (r.entriesOf c).map Entry.name

/-- The candidates for a name: the preferred one, then with numbers behind it. -/
def candidate (preferred : String) : Nat → String
  | 0 => preferred
  | n + 1 => preferred ++ "_" ++ toString (n + 1)

/-- The first candidate from the `n`-th on that is not taken. -/
def freeFrom (taken : List String) (preferred : String) (n fuel : Nat) : String :=
  match fuel with
  | 0 => candidate preferred n
  | fuel + 1 =>
    if taken.contains (candidate preferred n) then freeFrom taken preferred (n + 1) fuel
    else candidate preferred n

/-- The first candidate that is not taken; there is one among the first `taken.length + 1`. -/
def freeName (taken : List String) (preferred : String) : String :=
  freeFrom taken preferred 0 taken.length

/-- Replaces the content of the entry for an origin, if there is one. -/
def updateNode (r : Registry) (origin : RefId) (f : Json → Json) : Registry :=
  ⟨r.entries.map fun e => if e.origin.id = origin then { e with node := f e.node } else e⟩

/--
Makes an entry for the content at a place of a document. If there is one for that place already, it
is left as it is.
-/
def localize (r : Registry) (node : Json) (c : Component) (place : Pointer) (base : Uri) :
    Except BundleError (Entry × Registry) :=
  let origin := Reference.atPointer base place
  match r.find? origin.id with
  | some e => .ok (e, r)
  | none =>
    match c.container? with
    | none => .error (.noContainer c.name)
    | some container =>
      let name := freeName (r.names c) (c.preferredName place (some base))
      let e : Entry := ⟨c, name, node, origin, container⟩
      .ok (e, ⟨r.entries ++ [e]⟩)

/-- Overlays the content of the entry for a place with the members of a node. -/
def merge (r : Registry) (node : Json) (place : Pointer) (base : Uri) :
    Except BundleError Registry :=
  let origin := Reference.atPointer base place
  if r.contains origin.id then .ok (r.updateNode origin.id (·.mergeFields node))
  else .error (.mergeBeforeLocalize origin.display)

/-- Replaces the content of the entry for an origin, if there is one. -/
def refresh (r : Registry) (origin : RefId) (node : Json) : Registry :=
  r.updateNode origin fun _ => node

end Registry

end ApiBundle
