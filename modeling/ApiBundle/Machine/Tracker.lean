import ApiBundle.Machine.Basic

/-!
# Trackers

A tracker stands at a state of a machine, or off-road once a move has matched no edge, and remembers
its moves so that they can be undone.
-/

namespace ApiBundle

/-- What kind of place a tracker is at. -/
inductive Site (τ : Type) where
  /-- A state with a tag. -/
  | named (tag : τ)
  /-- A hop on a path of several labels. -/
  | anonymous
  /-- Outside the machine. -/
  | offRoad
  deriving DecidableEq, Repr

/-- The tag of a named site. -/
def Site.tag? {τ : Type} : Site τ → Option τ
  | .named tag => some tag
  | _ => none

/-- A place in a machine with the moves that led to it. -/
structure Tracker (τ : Type) where
  /-- The machine. -/
  machine : Machine τ
  /-- The current state; `none` is off-road. -/
  current : Option Nat
  /-- The moves made, newest first, each with the state it was made from. -/
  trail : List (Segment × Option Nat)

namespace Tracker

variable {τ : Type}

/-- A tracker that has not moved; `none` starts off-road. -/
def start (machine : Machine τ) (state : Option Nat) : Tracker τ := ⟨machine, state, []⟩

/-- The moves made, oldest first. -/
def path (t : Tracker τ) : List Segment := (t.trail.map Prod.fst).reverse

/-- The pointer of the moves made. -/
def pointer (t : Tracker τ) : Pointer := .ofPath t.path

/-- The state that the first move was made from. -/
def origin (t : Tracker τ) : Option Nat :=
  match t.trail.getLast? with
  | some (_, state) => state
  | none => t.current

/-- Whether the tracker has left the machine. -/
def isOffRoad (t : Tracker τ) : Bool := t.current.isNone

/-- The kind of the current place. -/
def site (t : Tracker τ) : Site τ :=
  match t.current with
  | none => .offRoad
  | some state =>
    match t.machine.tag state with
    | some tag => .named tag
    | none => .anonymous

/-- Where a step would lead. -/
def peek (t : Tracker τ) (segment : Segment) : Option Nat :=
  t.current.bind (t.machine.step · segment)

/-- Makes a step. -/
def move (t : Tracker τ) (segment : Segment) : Tracker τ :=
  { t with current := t.peek segment, trail := (segment, t.current) :: t.trail }

/-- Undoes one move; `none` if there is none. -/
def undo? (t : Tracker τ) : Option (Tracker τ) :=
  match t.trail with
  | [] => none
  | (_, state) :: rest => some { t with current := state, trail := rest }

/-- Undoes the last `n` moves. -/
def backup (t : Tracker τ) (n : Nat) : Except BundleError (Tracker τ) :=
  match n with
  | 0 => .ok t
  | n + 1 =>
    match t.undo? with
    | some t => backup t n
    | none => .error .backupUnderflow

/-- Returns to a state and forgets the moves. -/
def reset (t : Tracker τ) (state : Nat) : Tracker τ := { t with current := some state, trail := [] }

end Tracker

end ApiBundle
