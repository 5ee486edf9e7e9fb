import ApiBundle.DocumentText
import ApiBundle.Error
import ApiBundle.Reference
import ApiBundle.Source

/-!
# The store of documents

What references lead to, retrieved once and kept. Every reference that was ever looked up has one
content. The content of a whole document owns its tree; the content of a place inside it is a view
of that tree, so that a change through one view is seen through all. A reference that leads nowhere
has a content too, which says why.
-/

namespace ApiBundle

/-- The number of a content. -/
abbrev ContentId : Type := Nat

/-- Where the tree of a content is. -/
inductive Body where
  /-- The content is a document with its own tree. -/
  | document (tree : Json)
  /-- The content is a place in another one. -/
  | subtree (document : ContentId)
  /-- There is no tree; the reference says why. -/
  | invalid
  deriving DecidableEq, Repr

/-- What a reference leads to. -/
structure Content where
  /-- The reference, with what went wrong. -/
  reference : Reference
  /-- The tree. -/
  body : Body
  /-- The state of the site where the reference was first met; `none` is off-road. -/
  start : Option Nat
  deriving DecidableEq, Repr

/-- Whether there is a tree. -/
def Content.isValid (c : Content) : Bool := c.body ≠ .invalid

/-- All contents. -/
structure Store where
  /-- The contents by their numbers. -/
  contents : List Content
  /-- The number of each reference's content. -/
  cache : OrderedMap RefId ContentId
  /-- The documents that the source was asked for, oldest first. -/
  requests : List Uri
  deriving DecidableEq, Repr

namespace Store

/-- A store that knows nothing. -/
def empty : Store := ⟨[], [], []⟩

/-- The content of a number. -/
def content? (s : Store) (id : ContentId) : Option Content := s.contents[id]?

/-- The number of a reference's content, if it was looked up before. -/
def get? (s : Store) (r : Reference) : Option ContentId := OrderedMap.find? s.cache r.id

/-- Gives a reference that has none yet a content. -/
def create (s : Store) (r : Reference) (body : Body) (start : Option Nat) :
    Except BundleError ContentId × Store :=
  if OrderedMap.contains s.cache r.id then (.error (.duplicateContent r.display), s)
  else
    let id := s.contents.length
    (.ok id, { s with contents := s.contents ++ [⟨r, body, start⟩],
                      cache := OrderedMap.put s.cache r.id id })

/-- Takes in a document whose tree is known. -/
def addDocument (s : Store) (r : Reference) (tree : Json) (start : Option Nat) :
    Except BundleError ContentId × Store :=
  s.create r.documentRef (.document tree) start

/-- The tree of the document that a content is or lies in. -/
def documentTree? (s : Store) (id : ContentId) : Option Json :=
  match (s.content? id).map Content.body with
  | some (.document tree) => some tree
  | _ => none

/-- The tree of a content. -/
def tree? (s : Store) (id : ContentId) : Option Json := do
  let c ← s.content? id
  match c.body with
  | .document tree => some tree
  | .subtree document => c.reference.pointer.find? (← s.documentTree? document)
  | .invalid => none

/-- Replaces the body of a content. -/
def setBody (s : Store) (id : ContentId) (body : Body) : Store :=
  { s with contents := s.contents.modify id fun c => { c with body := body } }

/-- Replaces the tree of a content. A view writes into the document that it lies in. -/
def write (s : Store) (id : ContentId) (tree : Json) : Except BundleError Store :=
  match s.content? id with
  | none => .error (.storeIntoInvalid "")
  | some c =>
    match c.body with
    | .document _ => .ok (s.setBody id (.document tree))
    | .subtree document =>
      match (s.documentTree? document).bind fun whole => c.reference.pointer.set? whole tree with
      | some whole => .ok (s.setBody document (.document whole))
      | none => .error (.subtreeVanished c.reference.display)
    | .invalid => .error (.storeIntoInvalid c.reference.display)

/-! ## Loading -/

/-- The first line of a text. -/
def firstLine (text : String) : String :=
  let line := text.toList.takeWhile (· ≠ '\n')
  String.ofList (if line.getLast? = some '\r' then line.dropLast else line)

/-- Asks a source for a document and reads its text. -/
def retrieve (source : Source) (url : Uri) : Except ReferenceError Json := do
  let text ← (source url).mapError .fetch
  (parseDocument text).mapError fun e => .parse (firstLine e.message)

/-- Gives a document that is not known yet a content. -/
def fetch (s : Store) (source : Source) (r : Reference) (start : Option Nat) :
    Except BundleError ContentId × Store :=
  match r.url with
  | none => s.create (r.markInvalid (.malformedUrl r.urlText)) .invalid start
  | some url =>
    let s := { s with requests := s.requests ++ [url] }
    match retrieve source url with
    | .ok tree => s.create r (.document tree) start
    | .error e => s.create (r.markInvalid e) .invalid start

/-- The number of a document's content, which is fetched if it is not known. -/
def document (s : Store) (source : Source) (r : Reference) (start : Option Nat) :
    Except BundleError ContentId × Store :=
  match s.get? r with
  | some id => (.ok id, s)
  | none => s.fetch source r start

/-- Gives a reference into a known document a content. -/
def view (s : Store) (document : ContentId) (r : Reference) (start : Option Nat) :
    Except BundleError ContentId × Store :=
  match (s.content? document).bind fun c => c.reference.error with
  | some e => s.create (r.markInvalid e) .invalid start
  | none =>
    if ((s.tree? document).bind r.pointer.find?).isSome then
      s.create r (.subtree document) start
    else s.create (r.markInvalid .missingTarget) .invalid start

/-- The number of a reference's content, which is made if there is none. -/
def load (s : Store) (source : Source) (r : Reference) (start : Option Nat) :
    Except BundleError ContentId × Store :=
  match s.get? r with
  | some id => (.ok id, s)
  | none =>
    if !r.isValid then s.create r .invalid start
    else
      match s.document source r.documentRef start with
      | (.error e, s) => (.error e, s)
      | (.ok document, s) =>
        if r.isDocument then (.ok document, s) else s.view document r start

end Store

end ApiBundle
