import ApiBundle.Dialect.Machine
import ApiBundle.Registry
import ApiBundle.Store
import ApiBundle.VisitSet
import ApiBundle.Walk

/-!
# Scans

A scan walks the tree of one content in one of three phases. *Loading* resolves every reference and
adorns its node; where the dialect knows no references the target takes the node's place.
*Collecting* makes an entry for everything that stands where the dialect has definitions. *Settling*
hoists, inlines or merges what conforming references lead to, as the options say.

A reference whose target takes its place is scanned first, from the site of the reference, so scans
nest. `Session.resolving` holds the references that outer scans are in the middle of: meeting one of
them again is a cycle, which is cut by a reference into the registry where there is one to make, and
recorded as an error otherwise.
-/

namespace ApiBundle

/-- The phases of a run. -/
inductive Phase where
  /-- Resolve references, and inline those that the dialect does not know. -/
  | load
  /-- Register definitions. -/
  | collect
  /-- Hoist, inline or merge. -/
  | settle
  deriving DecidableEq, Repr

/-- What is left to do at a node when everything below it is done. -/
inductive Completion where
  /-- Make the node the content of the entry for a place. -/
  | refresh (origin : Reference)
  /--
  Overlay the node with a merged target. If there is an entry for the node's place, the entry is
  overlaid instead and the node becomes a plain reference node.
  -/
  | merge (target : Json) (origin : Option Reference) (plain : Json)
  deriving DecidableEq, Repr

/-- The state of a run. -/
structure Session where
  /-- The dialect. -/
  dialect : Dialect
  /-- The options. -/
  options : Options
  /-- Where documents come from. -/
  source : Source
  /-- What has been retrieved. -/
  store : Store
  /-- What has been hoisted. -/
  registry : Registry
  /-- The references that are being resolved, outermost first. -/
  resolving : VisitSet RefId
  /-- The references whose hoisted content is finished. -/
  finalized : List RefId
  /-- The references that were found to be invalid or were marked so, in the order of the log. -/
  lost : List Reference

/-- Steps of a run. They keep the state they have reached when they fail. -/
abbrev Scanning : Type → Type := ExceptT BundleError (Bounded Session)

/-- A nested scan: content, phase, start. Gives the scanned tree, if the content has one. -/
abbrev NestedScan : Type := ContentId → Phase → Option Nat → Scanning (Option Json)

namespace Session

/-- The start of a run. -/
def start (d : Dialect) (o : Options) (source : Source) : Session :=
  ⟨d, o, source, .empty, .empty, .empty, [], []⟩

end Session

namespace Scanning

/-- No result within the bound. -/
def exhausted {α : Type} : Scanning α := ExceptT.mk Bounded.exhausted

/-- A step on the store. -/
def onStore (f : Session → Except BundleError ContentId × Store) : Scanning ContentId := do
  let s ← get
  let (result, store) := f s
  set { s with store := store }
  MonadExcept.ofExcept result

/-- The number of a reference's content. -/
def loadContent (r : Reference) (start : Option Nat) : Scanning ContentId :=
  onStore fun s => s.store.load s.source r start

/-- Replaces the tree of a content. -/
def writeTree (id : ContentId) (tree : Json) : Scanning Unit := do
  let store ← MonadExcept.ofExcept ((← get).store.write id tree)
  modify fun s => { s with store := store }

/-- Replaces the registry. -/
def setRegistry (r : Registry) : Scanning Unit := modify fun s => { s with registry := r }

/-- Replaces the content of the entry for an origin, if there is one. -/
def refreshEntry (origin : RefId) (node : Json) : Scanning Unit :=
  modify fun s => { s with registry := s.registry.refresh origin node }

/-- Runs a step while a reference is being resolved; afterwards it is not, whatever happens. -/
def resolving {α : Type} (r : Reference) (step : Scanning α) : Scanning α := do
  let s ← get
  match s.resolving.visit r.id with
  | (.ok true, active) =>
    set { s with resolving := active }
    ExceptT.mk do
      let result ← step.run
      modify fun s => { s with resolving := s.resolving.unvisit r.id }
      return result
  | _ => throw (.alreadyResolving r.display)

/-- Notes that a reference is invalid. -/
def lose (r : Reference) : Scanning Unit := modify fun s => { s with lost := s.lost ++ [r] }

/-- Whether a reference is being resolved. -/
def isResolving (r : Reference) : Scanning Bool := return (← get).resolving.isActive r.id

/--
Loads what a reference leads to. Without a tree, the reference is given back with what went wrong.
-/
def loadTarget (r : Reference) (start : Option Nat) :
    Scanning (Except Reference ContentId) := do
  let id ← loadContent r start
  match (← get).store.content? id with
  | none => return .error r
  | some c =>
    match c.reference.error with
    | some e =>
      lose (r.markInvalid e)
      return .error (r.markInvalid e)
    | none => return if c.isValid then .ok id else .error r

end Scanning

namespace Scan

open Scanning

/-- The node of a reference with the members beside its text. -/
def adorned (node : Json) (r : Reference) : Json := node.mergeFields r.adornedNode

/-- A reference that would have to be put into itself. -/
def inCycle (r : Reference) : Reference := r.markInvalid (.cycle r.display)

/-- The place of the visited node in its document. -/
def origin? (base : Reference) (t : Tracker Component) : Option Reference :=
  base.url.map fun url => .atPointer url (base.pointer.join t.pointer)

/--
The reference that a node holds, for the site it stands at. An adorned node keeps the identity that
it got when it was loaded.
-/
def reference? (o : Options) (base : Reference) (node : Json) (t : Tracker Component) :
    Option Reference :=
  let c := t.site.tag?
  node.refText?.map fun text =>
    match Reference.ofNode? node with
    | some r => r.withComponent c
    | none =>
      let r := Reference.resolve text base.url c
      if o.expandNames then r.expandName else r

/-! ## Loading -/

/-- Puts the target of a reference in its place. -/
def splice (nested : NestedScan) (node : Json) (r : Reference) (state : Option Nat) :
    Scanning (Disposition Completion) := do
  if ← isResolving r then
    lose (inCycle r)
    return .doneWith (adorned node (inCycle r))
  match ← loadTarget r state with
  | .error r => return .doneWith (adorned node r)
  | .ok id =>
    match ← resolving r (nested id .load state) with
    | some tree => return .revisit tree
    | none => return .doneWith (adorned node r)

/-- Visits a node while loading. -/
def load (nested : NestedScan) (base : Reference) (node : Json) (t : Tracker Component) :
    Scanning (Disposition Completion) := do
  let o := (← get).options
  match reference? o base node t with
  | none => return .descend
  | some r =>
    match r.treatment o with
    -- what stands beside a merged reference is scanned like other content
    | .merge => return .descendInto (adorned node r)
    | .inlineNonconforming => splice nested node r t.current
    | .error =>
      lose r
      return .doneWith (adorned node r)
    | _ => return .doneWith (adorned node r)

/-! ## Collecting -/

/-- Visits a node while collecting. -/
def collect (base : Reference) (node : Json) (t : Tracker Component) :
    Scanning (Disposition Completion) := do
  match t.site.tag?.bind Component.defined?, base.url, origin? base t with
  | some c, some url, some origin =>
    let content := if c.info.merge then node.withoutRef else node
    let (_, registry) ←
      MonadExcept.ofExcept ((← get).registry.localize content c origin.pointer url)
    setRegistry registry
    return .done
  | _, _, _ => return .descend

/-! ## Settling -/

/-- Loads and settles a content from a start. -/
def rescan (nested : NestedScan) (id : ContentId) (start : Option Nat) :
    Scanning (Option Json) := do
  let _ ← nested id .load start
  nested id .settle start

/-- The entry of a reference that needs no further work: it is under way, or finished. -/
def settledEntry? (s : Session) (r : Reference) : Option Entry :=
  if s.resolving.isActive r.id || s.finalized.contains r.id then s.registry.find? r.id else none

/-- Hoists what a reference leads to and points at the entry. -/
def localize (nested : NestedScan) (node : Json) (r : Reference) (state : Option Nat) :
    Scanning (Disposition Completion) := do
  let keep := Disposition.doneWith node.withoutAdornment
  match r.component, settledEntry? (← get) r with
  | none, _ => return keep
  | some _, some e => return .doneWith e.refNode
  | some c, none =>
    match ← loadTarget r state with
    | .error _ => return keep
    | .ok id =>
      match (← get).store.tree? id, r.url with
      | some raw, some url =>
        let (e, registry) ← MonadExcept.ofExcept ((← get).registry.localize raw c r.pointer url)
        setRegistry registry
        -- whoever is resolving it refreshes the entry when done
        if ← isResolving r then return .doneWith e.refNode
        match ← resolving r (rescan nested id state) with
        | some tree => refreshEntry r.id tree
        | none => pure ()
        modify fun s => { s with finalized := s.finalized ++ [r.id] }
        return .doneWith e.refNode
      | _, _ => return keep

/-- Puts what a reference leads to in its place. Where it is allowed, hoisting cuts a cycle. -/
def inline (nested : NestedScan) (node : Json) (r : Reference) (conforming : Bool)
    (state : Option Nat) : Scanning (Disposition Completion) := do
  let keep := Disposition.doneWith node.withoutAdornment
  if ← isResolving r then
    if conforming && (r.component.bind Component.container?).isSome then
      return ← localize nested node r state
    else
      lose (inCycle r)
      return keep
  match ← loadTarget r state with
  | .error _ => return keep
  | .ok id =>
    match ← resolving r (rescan nested id state) with
    | none => return keep
    | some tree =>
      refreshEntry r.id tree
      return .doneWith tree

/-- What a merged reference contributes; its own plain node where it leads nowhere. -/
def mergeTarget (nested : NestedScan) (r : Reference) (state : Option Nat) : Scanning Json := do
  if ← isResolving r then
    lose (inCycle r)
    return r.plainNode
  match ← loadTarget r state with
  | .error _ => return r.plainNode
  | .ok id => return (← resolving r (rescan nested id state)).getD r.plainNode

/-- Merges what a reference leads to with the members beside it. -/
def merge (nested : NestedScan) (base : Reference) (node : Json) (r : Reference)
    (t : Tracker Component) : Scanning (Disposition Completion) := do
  let target ← mergeTarget nested r t.current
  return (Disposition.revisit node.withoutRef).andThen
    (some (.merge target (origin? base t) r.plainNode))

/-- Visits a node while settling. -/
def settle (nested : NestedScan) (base : Reference) (node : Json) (t : Tracker Component) :
    Scanning (Disposition Completion) := do
  let o := (← get).options
  let isDefinition := t.site.tag?.any fun c => c.info.defines.isSome
  let refresh := if isDefinition then (origin? base t).map Completion.refresh else none
  match reference? o base node t with
  | none => return Disposition.descend.andThen refresh
  | some r =>
    match r.treatment o with
    | .merge => merge nested base node r t
    | .error =>
      lose r
      return (Disposition.doneWith node.withoutAdornment).andThen refresh
    | .retain => return (Disposition.doneWith node.withoutAdornment).andThen refresh
    | .localize => return (← localize nested node r t.current).andThen refresh
    | .inlineConforming => return (← inline nested node r true t.current).andThen refresh
    | .inlineNonconforming => return (← inline nested node r false t.current).andThen refresh

/-- Finishes a node. -/
def complete (c : Completion) (node : Json) : Scanning Json := do
  match c with
  | .refresh origin =>
    refreshEntry origin.id node
    return node
  | .merge target origin plain =>
    match origin with
    | some origin =>
      if (← get).registry.contains origin.id then
        match origin.url with
        | some url =>
          setRegistry (← MonadExcept.ofExcept ((← get).registry.merge target origin.pointer url))
        | none => pure ()
        return plain
      else return node.mergeFields target
    | none => return node.mergeFields target

/-! ## Walking -/

/-- Visits a node in a phase. -/
def visit (nested : NestedScan) (phase : Phase) (base : Reference) (node : Json)
    (t : Tracker Component) : Scanning (Disposition Completion) :=
  match phase with
  | .load => load nested base node t
  | .collect => collect base node t
  | .settle => settle nested base node t

/-- The visitor of a scan. -/
def visitor (nested : NestedScan) (phase : Phase) (base : Reference) :
    Visitor Component Session BundleError Completion where
  visit node t := (visit nested phase base node t).run
  complete c node _ := do
    match ← (complete c node).run with
    | .ok node => return (node, none)
    | .error e => return (node, some e)

/-- Scans visit everything but hops. -/
def scope : WalkScope := ⟨false, true⟩

/-- Walks a tree; a failure is one of the run. -/
def walk (nested : NestedScan) (phase : Phase) (base : Reference) (bound : Nat)
    (start : Option Nat) (tree : Json) : Scanning Json := do
  let machine := (← get).dialect.machine
  let (tree, failed) ←
    (Walk.tree scope (visitor nested phase base) bound machine start tree : Bounded Session _)
  match failed with
  | some e => throw e
  | none => return tree

/--
Scans a copy of a content's tree from a state. A loaded tree is also written back, so that whoever
looks at the content later finds it loaded.
-/
def scanFrom (bound : Nat) (id : ContentId) (phase : Phase) (start : Option Nat) :
    Scanning (Option Json) :=
  match bound with
  | 0 => exhausted
  | bound + 1 => do
    let s := (← get).store
    match s.content? id, s.tree? id with
    | some c, some tree =>
      let tree ← walk (scanFrom bound) phase c.reference bound start tree
      if phase = .load then writeTree id tree
      return some tree
    | _, _ => return none

/-- Scans a content from the state where it was first met. -/
def scan (bound : Nat) (id : ContentId) (phase : Phase) : Scanning (Option Json) := do
  let start := ((← get).store.content? id).bind Content.start
  scanFrom bound id phase start

end Scan

end ApiBundle
