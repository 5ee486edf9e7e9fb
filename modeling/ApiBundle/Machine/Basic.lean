import ApiBundle.Machine.Label
import ApiBundle.Path
import ApiBundle.OrderedMap

/-!
# Machines

Automata that are walked in lockstep with a tree. States are numbered in the order in which they are
made; a state has a tag, or none if it is only a hop on a path of several labels. From a state, an
edge for exactly the name moved by wins; otherwise the first of the other edges that allows the
move.

A machine is assembled by three operations: adding a state, declaring a transit along labels, and
copying the edges of one state to another. Each returns the machine that it leaves behind, also when
it fails.
-/

namespace ApiBundle

/-- An edge that is not for one exact name. -/
structure Edge where
  /-- The text of the label. -/
  text : String
  /-- The label. -/
  label : Label
  /-- The state it leads to. -/
  target : Nat
  deriving DecidableEq, Repr

/-- A state with its edges. -/
structure StateRecord (τ : Type) where
  /-- The tag; `none` for a hop. -/
  tag : Option τ
  /-- The edges for exact names. -/
  exact : OrderedMap String Nat
  /-- The other edges, oldest first. -/
  others : List Edge
  deriving Repr

/-- An automaton over property names and array indices. -/
structure Machine (τ : Type) where
  /-- The states, oldest first. -/
  states : Array (StateRecord τ)
  deriving Repr

namespace StateRecord

variable {τ : Type}

/-- A state without edges. -/
def fresh (tag : Option τ) : StateRecord τ := ⟨tag, [], []⟩

/-- Where the edge of a label text leads. -/
def target? (s : StateRecord τ) (text : String) : Option Nat :=
  (OrderedMap.find? s.exact text).orElse fun _ =>
    (s.others.find? (·.text == text)).map Edge.target

/-- Redirects the edge of a label text, or adds one. -/
def redirect (edges : List Edge) (text : String) (label : Label) (target : Nat) : List Edge :=
  match edges with
  | [] => [⟨text, label, target⟩]
  | e :: rest =>
    if e.text = text then { e with target := target } :: rest
    else e :: redirect rest text label target

/-- Installs an edge over any edge of the same label text. -/
def setEdge (s : StateRecord τ) (text : String) (label : Label) (target : Nat) : StateRecord τ :=
  match label with
  | .exact name => { s with exact := OrderedMap.put s.exact name target }
  | label => { s with others := redirect s.others text label target }

/-- Every edge: those for exact names first. -/
def edges (s : StateRecord τ) : List Edge :=
  s.exact.map (fun entry => ⟨entry.1, .exact entry.1, entry.2⟩) ++ s.others

/-- Where a property name leads. -/
def onKey (s : StateRecord τ) (name : String) : Option Nat :=
  (OrderedMap.find? s.exact name).orElse fun _ =>
    (s.others.find? (·.label.allows name)).map Edge.target

/-- Where an array index leads. -/
def onIndex (s : StateRecord τ) : Option Nat :=
  (s.others.find? (·.label == .anyIndex)).map Edge.target

end StateRecord

namespace Machine

variable {τ : Type}

/-- A machine without states. -/
def empty : Machine τ := ⟨#[]⟩

/-- How many states there are, hops included. -/
def size (m : Machine τ) : Nat := m.states.size

/-- The tag of a state; `none` for hops and for states that do not exist. -/
def tag (m : Machine τ) (state : Nat) : Option τ := m.states[state]?.bind StateRecord.tag

/-- The first state whose tag satisfies a predicate. -/
def find? (m : Machine τ) (p : τ → Bool) : Option Nat :=
  m.states.findIdx? fun s => s.tag.any p

/-- Where a property name leads from a state. -/
def stepKey (m : Machine τ) (state : Nat) (name : String) : Option Nat :=
  m.states[state]?.bind (·.onKey name)

/-- Where an array index leads from a state. -/
def stepIndex (m : Machine τ) (state : Nat) : Option Nat :=
  m.states[state]?.bind StateRecord.onIndex

/-- Where a step leads from a state. -/
def step (m : Machine τ) (state : Nat) : Segment → Option Nat
  | .key name => m.stepKey state name
  | .index _ => m.stepIndex state

/-- Where a path leads from a place that may be off-road. -/
def run (m : Machine τ) (state : Option Nat) (path : List Segment) : Option Nat :=
  path.foldl (fun state segment => state.bind (m.step · segment)) state

/-! ## Assembly -/

/-- An assembly step: it may fail, and leaves a machine in either case. -/
abbrev Assembly (τ : Type) : Type → Type := ExceptT BundleError (StateM (Machine τ))

/-- Adds a state and gives its number. -/
def addState (tag : Option τ) : Assembly τ Nat := do
  let m ← get
  set (⟨m.states.push (.fresh tag)⟩ : Machine τ)
  return m.states.size

/-- The record of a state that has to exist. -/
def record (state : Nat) : Assembly τ (StateRecord τ) := do
  match (← get).states[state]? with
  | some s => return s
  | none => throw (.unknownState state)

/-- Installs an edge. -/
def install (source : Nat) (text : String) (label : Label) (target : Nat) : Assembly τ Unit :=
  modify fun m => ⟨m.states.modify source (·.setEdge text label target)⟩

/-- Reads a label as part of an assembly. -/
def readLabel (text : String) : Assembly τ Label :=
  match Label.parse text with
  | .ok label => pure label
  | .error e => throw e

/-- Follows all labels but the last, adding the hops that are missing; gives the last hop. -/
def follow (current : Nat) : List String → Assembly τ Nat
  | [] => pure current
  | text :: rest => do
    match (← record current).target? text with
    | some next => follow next rest
    | none =>
      let label ← readLabel text
      let hop ← addState none
      install current text label hop
      follow hop rest

/-- Declares a path along labels. One that is there already must end at the same state. -/
def transit (source : Nat) (labels : List String) (target : Nat) : Assembly τ Unit := do
  match labels.getLast? with
  | none => throw .noLabels
  | some last =>
    let _ ← record target
    let current ← follow source labels.dropLast
    match (← record current).target? last with
    | some present =>
      if present = target then return ()
      else throw (.transitConflict labels present target)
    | none =>
      let label ← readLabel last
      install current last label target

/-- Copies every edge of one state to another, over the edges of the same labels. -/
def copyEdges (source target : Nat) : Assembly τ Unit := do
  let _ ← record target
  let s ← record source
  s.edges.forM fun e => install target e.text e.label e.target

end Machine

end ApiBundle
