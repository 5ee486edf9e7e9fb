import ApiBundle.Proofs.Tree.Places
import ApiBundle.Proofs.Walk.Turns

/-!
# What a walk does, call by call

A visitor may note down each of its calls that succeeds: a visit with its answer, a completion with
the node that it was given and what has become of it (`Visitor.recorded`). It walks as before. Since
every call puts its outcome where the node stood, the notes tell what the whole tree was before any
of the calls (`WalkEvent.replay`).
-/

namespace ApiBundle

/-- A call of a visitor that succeeded. -/
inductive WalkEvent (κ : Type) where
  /-- A node was visited. -/
  | visited (path : List Segment) (node : Json) (answer : Disposition κ)
  /-- A completion was handed back, and left a node. -/
  | completed (path : List Segment) (completion : κ) (node outcome : Json)

namespace WalkEvent

variable {κ : Type}

/-- Where the call was made. -/
def path : WalkEvent κ → List Segment
  | visited path _ _ => path
  | completed path _ _ _ => path

/-- The node that was handed over. -/
def node : WalkEvent κ → Json
  | visited _ node _ => node
  | completed _ _ node _ => node

/-- What stands in its place afterwards. -/
def outcome : WalkEvent κ → Json
  | visited _ node answer => (answer.settle node).1
  | completed _ _ _ outcome => outcome

/-- The completion that a visit came with. -/
def attached : WalkEvent κ → Option κ
  | visited _ _ answer => answer.completion
  | completed .. => none

def delivered : WalkEvent κ → Option κ
  | visited .. => none
  | completed _ completion _ _ => some completion

def visit? : WalkEvent κ → Option (List Segment × Json)
  | visited path node _ => some (path, node)
  | completed .. => none

/-- A whole tree after some calls. -/
def replay (whole : Json) (log : List (WalkEvent κ)) : Json :=
  log.foldl (fun whole e => whole.putAt e.path e.outcome) whole

@[simp] theorem replay_nil (whole : Json) : replay whole ([] : List (WalkEvent κ)) = whole := rfl

@[simp] theorem replay_cons (whole : Json) (e : WalkEvent κ) (log : List (WalkEvent κ)) :
    replay whole (e :: log) = replay (whole.putAt e.path e.outcome) log := rfl

@[simp] theorem replay_append (whole : Json) (log log' : List (WalkEvent κ)) :
    replay whole (log ++ log') = replay (replay whole log) log' :=
  List.foldl_append

end WalkEvent

namespace Visitor

variable {τ σ ε κ : Type}

def noteVisit (x : Json) (t : Tracker τ) (log : List (WalkEvent κ)) :
    Except ε (Disposition κ) → List (WalkEvent κ)
  | .ok d => log ++ [.visited t.path x d]
  | .error _ => log

def noteCompletion (c : κ) (x : Json) (t : Tracker τ) (log : List (WalkEvent κ)) :
    Json × Option ε → List (WalkEvent κ)
  | (y, none) => log ++ [.completed t.path c x y]
  | (_, some _) => log

/-- A visitor that notes down its calls, as far as they succeed. -/
def recorded (v : Visitor τ σ ε κ) : Visitor τ (σ × List (WalkEvent κ)) ε κ where
  visit x t p := (v.visit x t p.1).map fun out => (out.1, out.2, noteVisit x t p.2 out.1)
  complete c x t p :=
    (v.complete c x t p.1).map fun out => (out.1, out.2, noteCompletion c x t p.2 out.1)

variable {v : Visitor τ σ ε κ} {x y : Json} {t : Tracker τ} {s s' : σ} {d : Disposition κ} {c : κ}

theorem recorded_visit (h : v.visit x t s = some (.ok d, s')) (log : List (WalkEvent κ)) :
    v.recorded.visit x t (s, log) = some (.ok d, s', log ++ [.visited t.path x d]) := by
  show (v.visit x t s).map _ = _
  rw [h]
  rfl

theorem recorded_complete (h : v.complete c x t s = some ((y, none), s'))
    (log : List (WalkEvent κ)) :
    v.recorded.complete c x t (s, log) =
      some ((y, none), s', log ++ [.completed t.path c x y]) := by
  show (v.complete c x t s).map _ = _
  rw [h]
  rfl

theorem of_recorded_visit {p p' : σ × List (WalkEvent κ)}
    (h : v.recorded.visit x t p = some (.ok d, p')) :
    v.visit x t p.1 = some (.ok d, p'.1) ∧ p'.2 = p.2 ++ [.visited t.path x d] := by
  obtain ⟨⟨_, s'⟩, hvisit, hout⟩ := Option.map_eq_some_iff.mp h
  cases hout
  exact ⟨hvisit, rfl⟩

theorem of_recorded_complete {p p' : σ × List (WalkEvent κ)}
    (h : v.recorded.complete c x t p = some ((y, none), p')) :
    p'.2 = p.2 ++ [.completed t.path c x y] := by
  obtain ⟨⟨_, s'⟩, -, hout⟩ := Option.map_eq_some_iff.mp h
  cases hout
  rfl

/-- Notes change nothing. -/
theorem recorded_standsFor (v : Visitor τ σ ε κ) : v.recorded.StandsFor v Prod.fst where
  visit x t p := by
    simp only [recorded, Option.map_map]
    rfl
  complete c x t p := by
    simp only [recorded, Option.map_map]
    exact Option.map_id'

end Visitor

end ApiBundle
