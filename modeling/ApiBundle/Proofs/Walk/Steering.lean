import ApiBundle.Proofs.Machine.Cursor
import ApiBundle.Proofs.Walk.Turns

/-!
# Walks with one cursor

A walk gives each child a tracker of its own. Here is the same walk with a single cursor, which is
moved before a child is walked and taken back behind it. The two agree (`Steered.steers_tree`): no
move is undone that was not made, and a walk without a failure leaves the cursor where it started,
without a move. Only what it has looked up remains.
-/

namespace ApiBundle

namespace Steered

variable {τ σ ε κ α : Type}

/-- A step that leaves the cursor where it is. -/
def still (m : Bounded σ α) : Bounded (Cursor τ × σ) α :=
  fun p => (m p.2).map fun out => (out.1, p.1, out.2)

def move (step : Segment) : Bounded (Cursor τ × σ) Unit := fun p => some ((), p.1.move step, p.2)

/-- Takes the cursor one move back, or gives the reason why not. -/
def back : Bounded (Cursor τ × σ) (Option BundleError) := fun p =>
  match p.1.call (.backup 1) with
  | (.failed e, c) => some (some e, c, p.2)
  | (_, c) => some (none, c, p.2)

/-- Walks children one after the other, up to the first failure. -/
def inTurn (child : Json → Bounded (Cursor τ × σ) (Json × Option (ε ⊕ BundleError))) :
    List (Segment × Json) → Bounded (Cursor τ × σ) (List Json × Option (ε ⊕ BundleError))
  | [] => pure ([], none)
  | (step, x) :: rest => do
    move step
    match ← child x with
    | (y, some e) => return (y :: rest.map Prod.snd, some e)
    | (y, none) =>
      match ← back with
      | some e => return (y :: rest.map Prod.snd, some (.inr e))
      | none =>
        let (ys, failed) ← inTurn child rest
        return (y :: ys, failed)

def children (child : Json → Bounded (Cursor τ × σ) (Json × Option (ε ⊕ BundleError))) (x : Json) :
    Bounded (Cursor τ × σ) (Json × Option (ε ⊕ BundleError)) := do
  let (ys, failed) ← inTurn child x.kids
  return (x.withKids ys, failed)

/-- Hands completions back in order, up to the first failure. -/
def finish (v : Visitor τ σ ε κ) (pending : List κ) (x : Json) :
    Bounded (Cursor τ × σ) (Json × Option (ε ⊕ BundleError)) := do
  let t := (← get).1.tracker
  let (y, failed) ← still (Walk.finish v t pending x)
  return (y, failed.map .inl)

/-- Walks a node and all below it. -/
def node (scope : WalkScope) (v : Visitor τ σ ε κ) (bound : Nat) (pending : List κ) (x : Json) :
    Bounded (Cursor τ × σ) (Json × Option (ε ⊕ BundleError)) :=
  match bound with
  | 0 => .exhausted
  | bound + 1 => do
    let t := (← get).1.tracker
    if !Walk.eligible scope t.site then
      if t.isOffRoad then return (x, none)
      else return ← children (node scope v bound []) x
    match ← still (v.visit x t) with
    | .error e => return (x, some (.inl e))
    | .ok d =>
      let pending := d.completion.toList ++ pending
      match d.settle x with
      | (x, .revisit) => node scope v bound pending x
      | (x, .descend) =>
        match ← children (node scope v bound []) x with
        | (x, some e) => return (x, some e)
        | (x, none) => finish v pending x
      | (x, .done) => finish v pending x

/-- Walks a whole tree with a new cursor. -/
def tree (scope : WalkScope) (v : Visitor τ σ ε κ) (bound : Nat) (machine : Machine τ)
    (start : Option Nat) (x : Json) (s : σ) :
    Option ((Json × Option (ε ⊕ BundleError)) × Cursor τ × σ) :=
  node scope v bound [] x (Cursor.start machine start, s)

/--
What becomes of a walk with one cursor that began at `c`: the same as of the other walk. Without a
failure the cursor is back at its place; a failure is one of the visitor.
-/
inductive Steers (c : Cursor τ) : Option ((α × Option ε) × σ) →
    Option ((α × Option (ε ⊕ BundleError)) × Cursor τ × σ) → Prop where
  | exhausted : Steers c none none
  | ended {a : α} {s : σ} {memo : OrderedMap (Nat × String) (Option Nat)}
      (sound : Cursor.Sound { c with memo := memo }) :
      Steers c (some ((a, none), s)) (some ((a, none), { c with memo := memo }, s))
  | stopped {a : α} {e : ε} {s : σ} {c' : Cursor τ} :
      Steers c (some ((a, some e), s)) (some ((a, some (.inl e)), c', s))

variable {scope : WalkScope} {v : Visitor τ σ ε κ} {c : Cursor τ}

/-- What a cursor remembers does not count. -/
theorem Steers.of_memo {memo : OrderedMap (Nat × String) (Option Nat)}
    {r : Option ((α × Option ε) × σ)}
    {r' : Option ((α × Option (ε ⊕ BundleError)) × Cursor τ × σ)}
    (h : Steers { c with memo := memo } r r') : Steers c r r' := by
  cases h with
  | exhausted => exact .exhausted
  | ended sound => exact .ended sound
  | stopped => exact .stopped

theorem Steers.still (hc : c.Sound) {a : α} {s : σ} :
    Steers c (some ((a, (none : Option ε)), s)) (some ((a, none), c, s)) :=
  .ended (show Cursor.Sound { c with memo := c.memo } from hc)

theorem Steers.bind {β : Type} {m : Bounded σ (α × Option ε)}
    {m' : Bounded (Cursor τ × σ) (α × Option (ε ⊕ BundleError))}
    {f : α × Option ε → Bounded σ (β × Option ε)}
    {f' : α × Option (ε ⊕ BundleError) → Bounded (Cursor τ × σ) (β × Option (ε ⊕ BundleError))}
    {s : σ} {p : Cursor τ × σ} (h : Steers c (m s) (m' p))
    (next : ∀ {a s memo}, Cursor.Sound { c with memo := memo } →
      Steers { c with memo := memo } (f (a, none) s) (f' (a, none) ({ c with memo := memo }, s)))
    (stop : ∀ {a e s c'}, Steers c (f (a, some e) s) (f' (a, some (.inl e)) (c', s))) :
    Steers c ((m >>= f) s) ((m' >>= f') p) := by
  rw [Bounded.bind_apply, Bounded.bind_apply]
  generalize m s = r at h
  generalize m' p = r' at h
  cases h with
  | exhausted => exact .exhausted
  | ended sound => exact (next sound).of_memo
  | stopped => exact stop

/-- After a move, one move back leads to where the cursor was. -/
theorem back_move (step : Segment) (memo : OrderedMap (Nat × String) (Option Nat)) (s : σ) :
    back ({ c.move step with memo := memo }, s) = some (none, { c with memo := memo }, s) := by
  obtain ⟨next, memo', hmove⟩ := c.move_eq step
  rw [hmove]
  rfl

theorem steers_inTurn {child : Json → Tracker τ → Bounded σ (Json × Option ε)}
    {child' : Json → Bounded (Cursor τ × σ) (Json × Option (ε ⊕ BundleError))}
    (hchild : ∀ x (c : Cursor τ) s, c.Sound → Steers c (child x c.tracker s) (child' x (c, s)))
    (hc : c.Sound) (kids : List (Segment × Json)) (s : σ) :
    Steers c (Walk.inTurn child c.tracker kids s) (inTurn child' kids (c, s)) := by
  induction kids generalizing c s with
  | nil => exact .still hc
  | cons k rest ih =>
    obtain ⟨step, x⟩ := k
    obtain ⟨htracker, hsound⟩ := hc.move step
    have hfirst := hchild x (c.move step) s hsound
    rw [htracker] at hfirst
    -- the child is walked from the next place, so that the rule for two steps does not apply
    rw [Walk.inTurn, inTurn, Bounded.bind_apply, Bounded.bind_apply]
    simp only [move, Option.bind_some, Bounded.bind_apply]
    generalize child x (c.tracker.move step) s = r at hfirst
    generalize child' x (c.move step, s) = r' at hfirst
    cases hfirst with
    | exhausted => exact .exhausted
    | stopped => exact .stopped
    | @ended y s₁ memo sound =>
      have hmachine : (c.move step).machine = c.machine := congrArg Tracker.machine htracker
      have hmemo : Cursor.Sound { c with memo := memo } :=
        ⟨hc.paired, fun {state name _} h =>
          (sound.remembers h).trans (congrArg (fun m : Machine τ => m.stepKey state name) hmachine)⟩
      have hrest : Steers { c with memo := memo }
          ((Walk.inTurn child c.tracker rest >>= fun out => pure (y :: out.1, out.2)) s₁)
          ((inTurn child' rest >>= fun out => pure (y :: out.1, out.2))
            ({ c with memo := memo }, s₁)) :=
        (ih hmemo s₁).bind (fun sound => .ended sound) .stopped
      simp only [Option.bind_some, Bounded.bind_apply, back_move]
      exact hrest.of_memo

theorem steers_finish (hc : c.Sound) (pending : List κ) (x : Json) (s : σ) :
    Steers c (Walk.finish v c.tracker pending x s) (finish v pending x (c, s)) := by
  simp only [finish, still, Bounded.bind_apply]
  show Steers c _ (((Walk.finish v c.tracker pending x s).map _).bind _)
  rcases Walk.finish v c.tracker pending x s with _ | ⟨⟨y, _ | e⟩, s'⟩
  · exact .exhausted
  · exact .still hc
  · exact .stopped

theorem steers_children {child : Json → Tracker τ → Bounded σ (Json × Option ε)}
    {child' : Json → Bounded (Cursor τ × σ) (Json × Option (ε ⊕ BundleError))}
    (hchild : ∀ x (c : Cursor τ) s, c.Sound → Steers c (child x c.tracker s) (child' x (c, s)))
    (hc : c.Sound) (x : Json) (s : σ) :
    Steers c (Walk.children child x c.tracker s) (children child' x (c, s)) := by
  rw [Walk.children_eq_inTurn]
  exact (steers_inTurn hchild hc x.kids s).bind (fun sound => .ended sound) .stopped

/-- The walk with one cursor does what the walk does. -/
theorem steers_node (bound : Nat) (pending : List κ) (x : Json) (hc : c.Sound) (s : σ) :
    Steers c (Walk.node scope v bound pending x c.tracker s)
      (node scope v bound pending x (c, s)) := by
  induction bound generalizing pending x c s with
  | zero => exact .exhausted
  | succ bound ih =>
    have hkids {c : Cursor τ} (x : Json) (hc : c.Sound) (s : σ) :
        Steers c (Walk.children (Walk.node scope v bound []) x c.tracker s)
          (children (node scope v bound []) x (c, s)) :=
      steers_children (fun x c s hc => ih [] x hc s) hc x s
    cases hel : Walk.eligible scope c.tracker.site with
    | false =>
      simp only [node, Walk.node, Bounded.bind_apply, Bounded.get_apply, Option.bind_some, hel,
        Bool.not_false, if_true]
      split
      · exact .still hc
      · exact hkids x hc s
    | true =>
      rw [Walk.node_of_eligible hel, Bounded.bind_apply]
      simp only [node, Bounded.bind_apply, Bounded.get_apply, Option.bind_some, hel,
        Bool.not_true, Bool.false_eq_true, if_false, still]
      rcases v.visit x c.tracker s with _ | ⟨e | d, s₁⟩
      · exact .exhausted
      · exact .stopped
      · simp only [Option.map_some, Option.bind_some, Walk.resume]
        rcases d.settle x with ⟨new, action⟩
        cases action with
        | revisit => exact ih _ new hc s₁
        | done => exact steers_finish hc _ new s₁
        | descend =>
          exact (hkids new hc s₁).bind (fun sound => steers_finish sound _ _ _) .stopped

theorem steers_tree (bound : Nat) (machine : Machine τ) (start : Option Nat) (x : Json) (s : σ) :
    Steers (Cursor.start machine start) (Walk.tree scope v bound machine start x s)
      (tree scope v bound machine start x s) :=
  steers_node bound [] x (Cursor.sound_start machine start) s

end Steered

end ApiBundle
