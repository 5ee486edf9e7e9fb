import ApiBundle.Text.Quoted

/-!
# Active visits

The set of things that a recursive process is in the middle of, oldest visit first. Entering one
that is already in the set is a cycle, which is met either with an answer or with a failure. What
makes two visits the same is the key they are made under: the visited value, or the value together
with the place it lives at (`VisitKey`).
-/

namespace ApiBundle

/-- How a repeated visit is met. -/
inductive VisitSet.OnRepeat where
  /-- The visit answers that it is not fresh. -/
  | report
  /-- The visit fails. -/
  | fail
  deriving DecidableEq, Repr

/-- The keys of the visits under way, oldest first. -/
structure VisitSet (κ : Type) where
  /-- How a repeated visit is met. -/
  onRepeat : VisitSet.OnRepeat
  /-- The active keys. -/
  active : List κ
  deriving DecidableEq, Repr

/-- A visit to something that is being visited already. -/
structure CycleError (κ : Type) where
  /-- The key that was visited again. -/
  revisited : κ
  deriving DecidableEq, Repr

/-- What makes two visited things the same. -/
inductive VisitEquality where
  /-- Equal values. -/
  | value
  /-- One place. -/
  | place
  deriving DecidableEq, Repr

/-- What a visit is made under. -/
inductive VisitKey (α : Type) where
  /-- A value, wherever it lives. -/
  | anywhere (value : α)
  /-- The value at a place. -/
  | located (place : Nat) (value : α)
  deriving DecidableEq, Repr

/-- The key of the value at a place. -/
def VisitEquality.key {α : Type} (equality : VisitEquality) (place : Nat) (value : α) :
    VisitKey α :=
  match equality with
  | .value => .anywhere value
  | .place => .located place value

/-- The value visited under a key. -/
def VisitKey.visited {α : Type} : VisitKey α → α
  | .anywhere value | .located _ value => value

/-- The wording of a failure, for texts. -/
def CycleError.message (e : CycleError (VisitKey String)) : String :=
  "Cycle detected at " ++ Text.quoted e.revisited.visited

namespace VisitSet

variable {κ : Type} [DecidableEq κ]

/-- A set without visits that reports repeats. -/
def empty : VisitSet κ := ⟨.report, []⟩

/-- Whether a key is being visited. -/
def isActive (s : VisitSet κ) (key : κ) : Bool := s.active.contains key

/-- Begins a visit. A repeated one leaves the set as it is. -/
def visit (s : VisitSet κ) (key : κ) : Except (CycleError κ) Bool × VisitSet κ :=
  if s.isActive key then
    match s.onRepeat with
    | .report => (.ok false, s)
    | .fail => (.error ⟨key⟩, s)
  else (.ok true, { s with active := s.active ++ [key] })

/-- Ends a visit, if there is one. -/
def unvisit (s : VisitSet κ) (key : κ) : VisitSet κ :=
  { s with active := s.active.filter (· ≠ key) }

end VisitSet

end ApiBundle
