import ApiBundle.Scan

/-!
# Bundling

One document out of many. The root document and any additional ones go through the phases together:
each phase is done with all of them before the next one starts. What was hoisted is then written
into its containers in the root, and the adornments come off.

Scans nest as deep as references lead, so a run takes a bound on nesting and has no result where the
bound is too small.
-/

namespace ApiBundle

namespace Registry

/-- The members of a container that is being filled, found by its place. -/
abbrev Containers : Type := OrderedMap Pointer (List (String × Json))

/-- The members that an object has at a place of a tree already. -/
def presentMembers (tree : Json) (place : Pointer) : List (String × Json) :=
  ((place.find? tree).bind Json.members?).getD []

/-- Puts an entry into its container, which starts with the members that a tree has there. -/
def collectEntry (tree : Json) (filled : Containers) (e : Entry) : Containers :=
  let members := (OrderedMap.find? filled e.container).getD (presentMembers tree e.container)
  OrderedMap.put filled e.container (OrderedMap.put members e.name e.node)

/-- The entries, component by component. -/
def grouped (r : Registry) : List Entry := r.components.flatMap r.entriesOf

/-- All containers with their members. -/
def containers (r : Registry) (tree : Json) : Containers :=
  r.grouped.foldl (collectEntry tree) []

/-- Writes the members of a container into a tree. -/
def writeContainer (tree : Json) (container : Pointer × List (String × Json)) :
    Except BundleError Json :=
  match tree.insertAt (.object container.2) (container.1.tokens.map Segment.key) with
  | some tree => .ok tree
  | none => .error (.insertBlocked container.1.text)

/-- Writes every entry into its container. Members that are no entries stay. -/
def assemble (r : Registry) (tree : Json) : Except BundleError Json :=
  (r.containers tree).foldlM writeContainer tree

end Registry

namespace Bundle

open Scanning Scan

/-- What is said of a root document whose dialect cannot be told. -/
def unknownDialect : String :=
  "neither a Swagger 2.0 nor an OpenAPI 3 document; set the dialect explicitly"

/-- The dialect of a run: the one that is fixed, or the one that the root document shows. -/
def dialectFor (o : Options) (root : Uri) (tree : Json) : Except BundleError Dialect :=
  match o.dialect.forced?.or (Dialect.detect? tree) with
  | some d => .ok d
  | none => .error (.invalidRoot root.text unknownDialect)

/-- Takes in an additional document, which has to be readable. -/
def loadAdditional (root : Uri) (state : Nat) (location : String) : Scanning ContentId := do
  let r := (Reference.resolve location (some root) none).documentRef
  let id ← loadContent r (some state)
  match ((← get).store.content? id).bind fun c => c.reference.error with
  | some e => throw (.invalidRoot r.display e.message)
  | none => return id

/-- Takes in the root and the additional documents. -/
def loadTops (root : Uri) (tree : Json) : Scanning (List ContentId) := do
  let s ← get
  let model := s.dialect.model
  let rootId ← onStore fun s => s.store.addDocument (.forDocument root) tree (some model)
  let others ← s.options.additionalFiles.mapM (loadAdditional root model)
  return rootId :: others

/-- Takes documents through the phases; gives the settled tree of the first. -/
def runPhases (bound : Nat) (tops : List ContentId) : Scanning Json := do
  tops.forM fun id => discard (scan bound id .load)
  tops.forM fun id => discard (scan bound id .collect)
  let results ← tops.mapM fun id => scan bound id .settle
  match results.head?.join with
  | some tree => return tree
  | none => throw .rootVanished

/-- Takes the documents around a root whose tree is known through the phases. -/
def settled (bound : Nat) (root : Uri) (tree : Json) : Scanning Json := do
  runPhases bound (← loadTops root tree)

/-- Bundles the documents around a root whose tree is known. -/
def run (bound : Nat) (root : Uri) (tree : Json) : Scanning Json := do
  let settled ← settled bound root tree
  let assembled ← MonadExcept.ofExcept ((← get).registry.assemble settled)
  return assembled.stripAdornments

/-- A run in a dialect: its result and the state that it ends in. -/
def ended (bound : Nat) (source : Source) (o : Options) (root : Uri) (tree : Json) (d : Dialect) :
    Option (Except BundleError Json × Session) :=
  (run bound root tree).run.run (.start d o source)

/-- The outcome of a run, with the documents that it asked its source for. -/
structure Outcome where
  /-- The bundled document, or why there is none. -/
  result : Except BundleError Json
  /-- The documents asked for. -/
  requests : List Uri

/-- Bundles a document whose tree is known. -/
def ofTree (bound : Nat) (source : Source) (o : Options) (root : Uri) (tree : Json) :
    Option Outcome :=
  match dialectFor o root tree with
  | .error e => some ⟨.error e, []⟩
  | .ok d => do
    let (result, s) ← ended bound source o root tree d
    return ⟨result, s.store.requests⟩

/-- Bundles the document of a URL. -/
def ofUrl (bound : Nat) (source : Source) (o : Options) (root : Uri) : Option Outcome :=
  let unreadable (reason : String) : Outcome :=
    ⟨.error (.invalidRoot root.text reason), [root]⟩
  match source root with
  | .error reason => some (unreadable reason)
  | .ok text =>
    match parseDocument text with
    | .error e => some (unreadable e.message)
    | .ok tree => (ofTree bound source o root tree).map fun outcome =>
        { outcome with requests := root :: outcome.requests }

end Bundle

end ApiBundle
