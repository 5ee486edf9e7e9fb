import ApiBundle.Dialect.Machine
import ApiBundle.Proofs.Pattern.Names
import ApiBundle.Proofs.Tree.Insert

/-!
# Conditions on the machines

What is known about definitions and the sites of references rests on a few conditions on the
machines of the dialects (`Dialect.Routed`): content is defined in containers only, and is scanned
there as it is where it is referred to. They are conditions on tables, decided by evaluation, once
for all dialects (`Dialect.isRouted`); what follows from them is proved elsewhere.
-/

namespace ApiBundle

namespace Label

/-- Whether a label takes a step. -/
def takes (label : Label) : Segment → Bool
  | .key name => label.allows name
  | .index _ => label == .anyIndex

/-- The ASCII characters of a set are all it has, and they are name characters. -/
def namesOnly (s : CharSet) : Bool :=
  s.ranges.all (fun range => range.2 < 128) &&
    (List.range 128).all fun n => !s.ranges.contains n || isNameChar (Char.ofNat n)

/-- Whether a label is for whole names, made of name characters. -/
def isForNames : Label → Bool
  | .pattern (.seq (.boundary .textStart) (.seq p (.boundary .textEnd))) => p.sets.all namesOnly
  | _ => false

end Label

namespace Machine

variable {τ : Type}

/-- Every edge, with the state that it leads from. -/
def edges (m : Machine τ) : List (Nat × Edge) :=
  m.states.toList.zipIdx.flatMap fun s => s.1.edges.map fun e => (s.2, e)

/-- Whether the edges into a state are all one edge for a name. -/
def isEnteredBy (m : Machine τ) (q q' : Nat) (name : String) : Bool :=
  m.edges.all fun e => e.2.target ≠ q' || e.1 = q && e.2.label = .exact name

/-- Where names lead from a state, if every state on the way is entered on this way only. -/
def onlyWay? (m : Machine τ) (q : Nat) : List String → Option Nat
  | [] => some q
  | name :: rest =>
    match m.step q (.key name) with
    | none => none
    | some q' => if m.isEnteredBy q q' name then onlyWay? m q' rest else none

end Machine

namespace Dialect

open Machine

/-- The places where hoisted content is collected. -/
def homes (d : Dialect) : List Pointer := d.components.filterMap Component.container?

/-- What is defined at a state. -/
def definedAt? (d : Dialect) (state : Nat) : Option Component :=
  (d.machine.tag state).bind Component.defined?

/-- Whether an edge is none into a definition, or one for a name in the definition's container. -/
def isFor (d : Dialect) (source : Nat) (e : Edge) : Bool :=
  match d.definedAt? e.target with
  | none => true
  | some c =>
    match c.container? with
    | none => false
    | some home => d.machine.onlyWay? d.model home.tokens = some source &&
        e.label ≠ .anyIndex && (c.info.naming = .pathKey || e.label.isForNames)

/-- Whether content is defined in containers only, and nothing leads back to the whole. -/
def definesInContainers (d : Dialect) : Bool :=
  d.definedAt? d.model = none &&
    d.machine.edges.all fun e => e.2.target ≠ d.model && d.isFor e.1 e.2

/-- The edges of a state. -/
def edgesAt (d : Dialect) (state : Nat) : Option (OrderedMap String Nat × List Edge) :=
  d.machine.states[state]?.map fun s => (s.exact, s.others)

/-- Whether content is scanned in the same way where it is defined and where it is referred to. -/
def definesLikeSites (d : Dialect) : Bool :=
  (List.range d.machine.size).all fun site => (List.range d.machine.size).all fun q =>
    match d.machine.tag site, d.definedAt? q with
    | some c, some c' => c ≠ c' || d.edgesAt site = d.edgesAt q
    | _, _ => true

/-- Whether all references on the way to a container merge with what is beside them. -/
def mergesOnWays (d : Dialect) : Bool :=
  d.homes.all fun p => (List.range (p.keys.length + 1)).all fun n =>
    ((d.machine.run (some d.model) (p.keys.take n)).bind d.machine.tag).all fun c =>
      !c.info.conforming || c.info.merge

/-- Whether nothing is defined under the name that makes a reference node. -/
def definesBesideReferences (d : Dialect) : Bool :=
  d.machine.edges.all fun e =>
    (d.definedAt? e.2.target).isNone || !e.2.label.takes (.key refKey)

/-- Whether the one way on from the container of a component leads by the names of definitions to
where the component is defined. -/
def leadsToDefinition (d : Dialect) (c : Component) : Bool :=
  match c.info.naming, c.container? with
  | .container _, some home =>
    match (d.machine.run (some d.model) home.keys).bind d.edgesAt with
    | some ([], [e]) =>
      e.label = .pattern definitionPattern.anchored && d.definedAt? e.target = some c
    | _ => false
  | .container _, none => false
  | _, _ => true

/-- Whether the states of components come first, in the order of their kinds, before all hops. -/
def placesKinds (d : Dialect) : Bool :=
  d.kinds.length ≤ d.machine.size &&
    (List.range d.machine.size).all fun q => d.machine.tag q = d.kinds[q]?.map (Component.mk d)

/-- Whether path items inside callbacks are scanned in the same way as others. -/
def callbacksLikePaths (d : Dialect) : Bool :=
  .callbackPath ∉ d.kinds || d.edgesAt (d.stateOf .callbackPath) = d.edgesAt (d.stateOf .path)

/-- The conditions hold. The machines are not small: all conditions are evaluated at once. -/
theorem conditions_hold (d : Dialect) : d.definesInContainers = true ∧
    d.definesLikeSites = true ∧ d.mergesOnWays = true ∧ d.definesBesideReferences = true ∧
    d.components.all d.leadsToDefinition = true ∧ d.placesKinds = true ∧
    d.callbacksLikePaths = true := by
  cases d <;> decide +kernel

/-- The conditions on a machine that what is known about definitions rests on. -/
structure Routed (d : Dialect) : Prop where
  inContainers : d.definesInContainers = true
  likeSites : d.definesLikeSites = true
  merges : d.mergesOnWays = true
  besideReferences : d.definesBesideReferences = true
  leads : d.components.all d.leadsToDefinition = true
  kinds : d.placesKinds = true
  callbacks : d.callbacksLikePaths = true

theorem isRouted (d : Dialect) : d.Routed := by
  obtain ⟨inContainers, likeSites, merges, besideReferences, leads, kinds, callbacks⟩ :=
    d.conditions_hold
  exact ⟨inContainers, likeSites, merges, besideReferences, leads, kinds, callbacks⟩

end Dialect

end ApiBundle
