import ApiBundle.Machine.Tracker

/-!
# Walks

A depth-first walk over a tree with a tracker in step, so that a visitor always knows the site of
the node before it. For each node the visitor says what comes next: walk the children, visit a
replacement at the same place, or leave the node alone. It may replace the node, and may attach a
completion, which it gets back with the finished node once everything below has been walked. The
completions of one node come back last first.

A visitor carries a state of its own. It may replace nodes by ever larger ones, so a walk takes a
bound on the length of its chains of nested steps, and has no result (`none`) where the bound is too
small; a larger bound never changes a result.
-/

namespace ApiBundle

/-- What follows a visit. -/
inductive Action where
  /-- Walk the children. -/
  | descend
  /-- Visit the replacement at the same place. -/
  | revisit
  /-- Leave the node alone. -/
  | done
  deriving DecidableEq, Repr

/-- The answer of a visitor for one node. -/
structure Disposition (κ : Type) where
  /-- What follows. -/
  action : Action
  /-- The node to put in place of the visited one. -/
  replacement : Option Json
  /-- What to hand back when the node is finished. -/
  completion : Option κ

namespace Disposition

variable {κ : Type}

/-- Walk the children of the node as it is. -/
def descend : Disposition κ := ⟨.descend, none, none⟩

/-- Leave the node as it is. -/
def done : Disposition κ := ⟨.done, none, none⟩

/-- Replace the node and leave the replacement alone. -/
def doneWith (node : Json) : Disposition κ := ⟨.done, some node, none⟩

/-- Replace the node and visit the replacement. -/
def revisit (node : Json) : Disposition κ := ⟨.revisit, some node, none⟩

/-- Replace the node and walk the children of the replacement. -/
def descendInto (node : Json) : Disposition κ := ⟨.descend, some node, none⟩

/-- With a completion. -/
def andThen (d : Disposition κ) (completion : Option κ) : Disposition κ :=
  { d with completion := completion }

/--
What the walk makes of an answer: the node and what follows. A replacement that equals the node is
none, and a revisit without a replacement is a descent.
-/
def settle (d : Disposition κ) (node : Json) : Json × Action :=
  match d.replacement with
  | some new =>
    if new.sameValue node then (node, if d.action = .revisit then .descend else d.action)
    else (new, d.action)
  | none => (node, if d.action = .revisit then .descend else d.action)

end Disposition

/-- Steps on a state that may not come to an end: `none` is a bound that was too small. -/
abbrev Bounded (σ : Type) : Type → Type := StateT σ Option

/-- No result within the bound. -/
def Bounded.exhausted {σ α : Type} : Bounded σ α := fun _ => none

/-- Whoever visits the nodes of a walk: tags `τ`, own state `σ`, failures `ε`, completions `κ`. -/
structure Visitor (τ σ ε κ : Type) where
  /-- Visits a node. -/
  visit : Json → Tracker τ → Bounded σ (Except ε (Disposition κ))
  /-- Finishes a node; the node may be changed, also by a failing completion. -/
  complete : κ → Json → Tracker τ → Bounded σ (Json × Option ε)

/-- Which sites are visited. Named ones always are. -/
structure WalkScope where
  /-- Whether hops are visited; they are walked through in any case. -/
  anonymous : Bool
  /-- Whether off-road nodes are visited; if not, they are left out with all that is below. -/
  offRoad : Bool
  deriving DecidableEq, Repr

namespace Walk

variable {τ σ ε κ : Type}

/-- Whether a site is visited. -/
def eligible (scope : WalkScope) : Site τ → Bool
  | .named _ => true
  | .anonymous => scope.anonymous
  | .offRoad => scope.offRoad

/-- Walks items from an index on, up to the first failure. -/
def items (child : Json → Tracker τ → Bounded σ (Json × Option ε)) (t : Tracker τ)
    (position : Nat) : List Json → Bounded σ (List Json × Option ε)
  | [] => pure ([], none)
  | x :: rest => do
    match ← child x (t.move (.index position)) with
    | (new, some e) => return (new :: rest, some e)
    | (new, none) =>
      let (others, failed) ← items child t (position + 1) rest
      return (new :: others, failed)

/-- Walks members, up to the first failure. -/
def members (child : Json → Tracker τ → Bounded σ (Json × Option ε)) (t : Tracker τ) :
    List (String × Json) → Bounded σ (List (String × Json) × Option ε)
  | [] => pure ([], none)
  | (name, x) :: rest => do
    match ← child x (t.move (.key name)) with
    | (new, some e) => return ((name, new) :: rest, some e)
    | (new, none) =>
      let (others, failed) ← members child t rest
      return ((name, new) :: others, failed)

/-- Walks the children of a node. -/
def children (child : Json → Tracker τ → Bounded σ (Json × Option ε)) (node : Json)
    (t : Tracker τ) : Bounded σ (Json × Option ε) :=
  match node with
  | .object ms => do
    let (ms, failed) ← members child t ms
    return (.object ms, failed)
  | .array xs => do
    let (xs, failed) ← items child t 0 xs
    return (.array xs, failed)
  | node => pure (node, none)

/-- Hands completions back in order, up to the first failure. -/
def finish (v : Visitor τ σ ε κ) (t : Tracker τ) :
    List κ → Json → Bounded σ (Json × Option ε)
  | [], node => pure (node, none)
  | completion :: rest, node => do
    match ← v.complete completion node t with
    | (node, some e) => return (node, some e)
    | (node, none) => finish v t rest node

/--
Walks a node and all below it. `pending` holds the completions of earlier visits at this place, last
first. Gives the node as it is then, and what stopped the walk, if anything did.
-/
def node (scope : WalkScope) (v : Visitor τ σ ε κ) (bound : Nat) (pending : List κ) (x : Json)
    (t : Tracker τ) : Bounded σ (Json × Option ε) :=
  match bound with
  | 0 => .exhausted
  | bound + 1 => do
    if !eligible scope t.site then
      if t.isOffRoad then return (x, none)
      else return ← children (node scope v bound []) x t
    match ← v.visit x t with
    | .error e => return (x, some e)
    | .ok d =>
      let pending := d.completion.toList ++ pending
      match d.settle x with
      | (x, .revisit) => node scope v bound pending x t
      | (x, .descend) =>
        match ← children (node scope v bound []) x t with
        | (x, some e) => return (x, some e)
        | (x, none) => finish v t pending x
      | (x, .done) => finish v t pending x

/-- Walks a whole tree from a state, or off-road. -/
def tree (scope : WalkScope) (v : Visitor τ σ ε κ) (bound : Nat) (machine : Machine τ)
    (start : Option Nat) (x : Json) : Bounded σ (Json × Option ε) :=
  node scope v bound [] x (.start machine start)

end Walk

end ApiBundle
