import ApiBundle.Proofs.Walk.Events
import ApiBundle.Proofs.Walk.Steering

/-!
# Where a walk is

A visitor may be guarded: it keeps the whole tree as the calls have left it so far, and refuses a
call whose tracker does not lead to the very node that was handed over, or is not in the state that
its path leads to from the start (`Visitor.guarded`). No walk is ever stopped by the guard, whatever
the visitor does to the tree (`Walk.placed_node`). A visitor that changes nothing sees the nodes of
the tree in document order, without those at suppressed sites (`Walk.inOrder_node`).
-/

namespace ApiBundle

/-- What stops a guarded walk. -/
inductive Halt (ε : Type) where
  /-- A failure of the visitor. -/
  | raised (e : ε)
  /-- The tracker is not where the node is. -/
  | misplaced
  deriving DecidableEq, Repr

namespace Tracker

variable {τ : Type} {m : Machine τ} {start : Option Nat} {t : Tracker τ}

/-- A tracker is in the state that its path leads to. -/
structure Along (m : Machine τ) (start : Option Nat) (t : Tracker τ) : Prop where
  machine : t.machine = m
  state : t.current = m.run start t.path

theorem along_start (m : Machine τ) (start : Option Nat) : Along m start (.start m start) :=
  ⟨rfl, rfl⟩

theorem Along.move (h : Along m start t) (step : Segment) : Along m start (t.move step) where
  machine := h.machine
  state := by
    rw [path_move, Machine.run, List.foldl_append]
    show t.current.bind (t.machine.step · step) = _
    rw [h.machine, h.state]
    rfl

/-- The path of a tracker leads to a node of a tree, and to its state. -/
structure InPlace (m : Machine τ) (start : Option Nat) (whole x : Json) (t : Tracker τ) : Prop where
  node : whole.follow? t.path = some x
  state : t.current = m.run start t.path

instance (whole x : Json) : Decidable (InPlace m start whole x t) :=
  decidable_of_iff (whole.follow? t.path = some x ∧ t.current = m.run start t.path)
    ⟨fun h => ⟨h.1, h.2⟩, fun h => ⟨h.node, h.state⟩⟩

end Tracker

namespace Visitor

variable {τ σ ε κ : Type}

def afterVisit (x : Json) : Except ε (Disposition κ) → Json
  | .ok d => (d.settle x).1
  | .error _ => x

/-- A visitor that keeps the whole tree and refuses calls out of place. -/
def guarded (m : Machine τ) (start : Option Nat) (v : Visitor τ σ ε κ) :
    Visitor τ (σ × Json) (Halt ε) κ where
  visit x t p :=
    if t.InPlace m start p.2 x then
      (v.visit x t p.1).map fun out =>
        (out.1.mapError .raised, out.2, p.2.putAt t.path (afterVisit x out.1))
    else some (.error .misplaced, p)
  complete c x t p :=
    if t.InPlace m start p.2 x then
      (v.complete c x t p.1).map fun out =>
        ((out.1.1, out.1.2.map .raised), out.2, p.2.putAt t.path out.1.1)
    else some ((x, some .misplaced), p)

/-- Every replacement for a well-formed node is well formed. -/
def KeepsForm (v : Visitor τ σ ε κ) : Prop :=
  ∀ {x t s d s' new}, x.WellFormed → v.visit x t s = some (.ok d, s') →
    d.replacement = some new → new.WellFormed

theorem KeepsForm.settle {v : Visitor τ σ ε κ} (hv : v.KeepsForm) {x : Json} {t : Tracker τ}
    {s s' : σ} {d : Disposition κ} (hx : x.WellFormed) (h : v.visit x t s = some (.ok d, s')) :
    (d.settle x).1.WellFormed := by
  unfold Disposition.settle
  split
  · next new hnew =>
    split
    · exact hx
    · exact hv hx h hnew
  · exact hx

end Visitor

namespace Walk

open Json (Surrounds)

variable {τ σ ε κ α β : Type} {scope : WalkScope} {v : Visitor τ σ ε κ} {m : Machine τ}
  {start : Option Nat} {t : Tracker τ} {around : Json → Json} {x whole : Json}

/--
A guarded step on a whole tree does what the other step does, and leaves the tree that is made from
its result.
-/
def Places (whole : Json) (place : α → Json) (step' : Bounded (σ × Json) (α × Option (Halt ε)))
    (step : Bounded σ (α × Option ε)) : Prop :=
  ∀ s, step' (s, whole) =
    (step s).map fun out => ((out.1.1, out.1.2.map .raised), out.2, place out.1.1)

theorem Places.pure {place : α → Json} {a : α} (e : Option ε) (h : place a = whole) :
    Places (σ := σ) whole place (pure (a, e.map .raised)) (pure (a, e)) := by
  subst h
  exact fun _ => rfl

theorem Places.bind {place : α → Json} {next : β → Json}
    {step' : Bounded (σ × Json) (α × Option (Halt ε))} {step : Bounded σ (α × Option ε)}
    {f' : α × Option (Halt ε) → Bounded (σ × Json) (β × Option (Halt ε))}
    {f : α × Option ε → Bounded σ (β × Option ε)} (h : Places whole place step' step)
    (go : ∀ a, Places (place a) next (f' (a, none)) (f (a, none)))
    (stop : ∀ a e, Places (place a) next (f' (a, some (.raised e))) (f (a, some e))) :
    Places whole next (step' >>= f') (step >>= f) := by
  intro s
  rw [Bounded.bind_apply, Bounded.bind_apply, h s]
  rcases step s with _ | ⟨⟨a, _ | e⟩, s₁⟩
  · rfl
  · exact go a s₁
  · exact stop a e s₁

theorem places_inTurn {child' : Json → Tracker τ → Bounded (σ × Json) (Json × Option (Halt ε))}
    {child : Json → Tracker τ → Bounded σ (Json × Option ε)} (hx : x.Distinct)
    (hplace : Surrounds around t.path)
    (hchild : ∀ k ∈ x.kids, ∀ {around}, Surrounds around (t.move k.1).path →
      Places (around k.2) around (child' k.2 (t.move k.1)) (child k.2 (t.move k.1)))
    {front rest : List (Segment × Json)} (hkids : x.kids = front ++ rest) {ys : List Json}
    (hlen : ys.length = front.length) :
    Places (around (x.withKids (ys ++ rest.map Prod.snd)))
      (fun zs => around (x.withKids (ys ++ zs))) (inTurn child' t rest) (inTurn child t rest) := by
  -- the children before those to come have become `ys`
  induction rest generalizing front ys with
  | nil => exact .pure none rfl
  | cons k rest ih =>
    have hfirst := hchild k (hkids ▸ by simp)
      (Tracker.path_move t k.1 ▸ hplace.kid hx hkids hlen)
    refine hfirst.bind (fun y => ?_) fun y e => .pure (some e) rfl
    have hlen' : (ys ++ [y]).length = (front ++ [k]).length := by simp [hlen]
    have hrest := ih (hkids.trans (List.append_cons front k rest)) hlen'
    simp only [List.append_assoc, List.singleton_append] at hrest
    exact hrest.bind (fun zs => .pure none rfl) fun zs e => .pure (some e) rfl

theorem places_finish (ht : t.Along m start) (hplace : Surrounds around t.path) (pending : List κ)
    (x : Json) : Places (around x) around (finish (v.guarded m start) t pending x)
      (finish v t pending x) := by
  induction pending generalizing x with
  | nil => exact .pure none rfl
  | cons c rest ih =>
    have hcall : Places (around x) around ((v.guarded m start).complete c x t)
        (v.complete c x t) := by
      intro s
      simp only [Visitor.guarded, if_pos (Tracker.InPlace.mk (hplace.finds x) ht.state),
        hplace.puts]
    exact hcall.bind ih fun y e => .pure (some e) rfl

/--
The guard never stops a walk, and the tree that it keeps is the tree around the node that the walk
makes. By induction on the bound.
-/
theorem placed_node (hv : v.KeepsForm) (bound : Nat) (pending : List κ) (hx : x.WellFormed)
    (ht : t.Along m start) (hplace : Surrounds around t.path) :
    Places (around x) around (node scope (v.guarded m start) bound pending x t)
      (node scope v bound pending x t) := by
  induction bound generalizing pending x t around with
  | zero => exact fun _ => rfl
  | succ bound ih =>
    have hkids {x : Json} (hx : x.WellFormed) : Places (around x) around
        (children (node scope (v.guarded m start) bound []) x t)
        (children (node scope v bound []) x t) := by
      -- each child is surrounded by the tree that its siblings have made so far
      have hturn := places_inTurn (Json.throughout_distinct hx).here hplace
        (fun k hk _ hkid => ih [] (hx.step? (hx.step?_of_mem_kids hk)) (ht.move k.1) hkid)
        (List.nil_append x.kids).symm (show ([] : List Json).length = 0 from rfl)
      rw [List.nil_append, Json.withKids_self] at hturn
      rw [children_eq_inTurn, children_eq_inTurn]
      exact hturn.bind (fun ys => .pure none rfl) fun ys e => .pure (some e) rfl
    cases hel : eligible scope t.site with
    | false =>
      simp only [node, hel, Bool.not_false, if_true]
      split
      · exact .pure none rfl
      · exact hkids hx
    | true =>
      rw [node_of_eligible hel, node_of_eligible hel]
      have hresume (d : Disposition κ) (hnew : (d.settle x).1.WellFormed) :
          Places (around (d.settle x).1) around
            (resume scope (v.guarded m start) bound pending x t (.ok d))
            (resume scope v bound pending x t (.ok d)) := by
        simp only [resume]
        generalize d.settle x = settled at hnew
        obtain ⟨new, action⟩ := settled
        cases action with
        | revisit => exact ih _ hnew ht hplace
        | done => exact places_finish ht hplace _ new
        | descend =>
          exact (hkids hnew).bind (fun y => places_finish ht hplace _ y)
            fun y e => .pure (some e) rfl
      intro s
      have hguard : (v.guarded m start).visit x t (s, around x) = (v.visit x t s).map fun out =>
          (out.1.mapError .raised, out.2, around (Visitor.afterVisit x out.1)) := by
        simp only [Visitor.guarded, if_pos (Tracker.InPlace.mk (hplace.finds x) ht.state),
          hplace.puts]
      rw [Bounded.bind_apply, Bounded.bind_apply, hguard]
      rcases hvisit : v.visit x t s with _ | ⟨e | d, s₁⟩
      · rfl
      · rfl
      · exact hresume d (hv.settle hx hvisit) s₁

/-! ## Visitors that change nothing -/

/-- Whether the node at the end of a path is visited. -/
def sees (scope : WalkScope) (m : Machine τ) (start : Option Nat) (path : List Segment) : Bool :=
  eligible scope (Tracker.start m (m.run start path)).site

theorem sees_of_along (ht : t.Along m start) : sees scope m start t.path = eligible scope t.site := by
  rw [sees, ← ht.state, ← ht.machine]
  rfl

/-- Off-road there is no way back. -/
theorem run_none (m : Machine τ) (path : List Segment) : m.run none path = none := by
  induction path with
  | nil => rfl
  | cons step rest ih => exact ih

theorem sees_below {path : List Segment} (hrun : m.run start path = none)
    (hsees : sees scope m start path = false) (rest : List Segment) :
    sees scope m start (path ++ rest) = false := by
  have hbelow : m.run start (path ++ rest) = none := by
    rw [Machine.run, List.foldl_append]
    show m.run (m.run start path) rest = none
    rw [hrun, run_none]
  rw [sees, hrun] at hsees
  rw [sees, hbelow]
  exact hsees

end Walk

/-- Every visit descends without a change, and completions leave nodes as they are. -/
structure Visitor.Descends {τ σ ε κ : Type} (v : Visitor τ σ ε κ) : Prop where
  visit : ∀ x t s, ∃ d s', v.visit x t s = some (.ok d, s') ∧ d.settle x = (x, .descend)
  complete : ∀ c x t s, ∃ s', v.complete c x t s = some ((x, none), s')

namespace Walk

variable {τ σ ε κ : Type} {scope : WalkScope} {v : Visitor τ σ ε κ} {m : Machine τ}
  {start : Option Nat} {t : Tracker τ}

/-- The nodes at and below a place that are visited, in document order. -/
def seen (scope : WalkScope) (m : Machine τ) (start : Option Nat) (path : List Segment)
    (nodes : List (List Segment × Json)) : List (List Segment × Json) :=
  (nodes.map fun n => (path ++ n.1, n.2)).filter fun n => sees scope m start n.1

theorem finish_recorded (hv : v.Descends) (t : Tracker τ) (pending : List κ) (x : Json) (s : σ)
    (log : List (WalkEvent κ)) : ∃ s' events, finish v.recorded t pending x (s, log) =
      some ((x, none), (s', log ++ events)) ∧ events.filterMap WalkEvent.visit? = [] := by
  induction pending generalizing s log with
  | nil => exact ⟨s, [], by rw [List.append_nil]; rfl, rfl⟩
  | cons c rest ih =>
    obtain ⟨s₁, hc⟩ := hv.complete c x t s
    obtain ⟨s', events, hrest, hnone⟩ := ih s₁ (log ++ [.completed t.path c x x])
    refine ⟨s', .completed t.path c x x :: events, ?_, hnone⟩
    rw [List.append_cons, finish, Bounded.bind_apply, Visitor.recorded_complete hc]
    exact hrest

theorem inOrder_kids (t : Tracker τ) (kids : List (Segment × Json))
    (hkids : ∀ k ∈ kids, ∀ s log, ∃ s' events,
      Comes scope (fun _ => v.recorded) [] k.2 (t.move k.1) (s, log) (k.2, none)
        (s', log ++ events) ∧
      events.filterMap WalkEvent.visit? = seen scope m start (t.move k.1).path k.2.nodes)
    (s : σ) (log : List (WalkEvent κ)) : ∃ s' events,
      Come scope (fun _ => v.recorded) t kids (s, log) (kids.map Prod.snd) none
        (s', log ++ events) ∧
      events.filterMap WalkEvent.visit? = seen scope m start t.path (Json.nodesOfKids kids) := by
  induction kids generalizing s log with
  | nil => exact ⟨s, [], by rw [List.append_nil]; exact .nil, rfl⟩
  | cons k rest ih =>
    obtain ⟨s₁, events₁, hfirst, hseen₁⟩ := hkids k (List.mem_cons_self ..) s log
    obtain ⟨s', events, hrest, hseen⟩ :=
      ih (fun k hk => hkids k (List.mem_cons_of_mem _ hk)) s₁ (log ++ events₁)
    refine ⟨s', events₁ ++ events, ?_, ?_⟩
    · rw [← List.append_assoc]
      exact .cons hfirst hrest
    · rw [List.filterMap_append, hseen₁, hseen, Tracker.path_move]
      simp [seen, Json.nodesOfKids, List.map_append, Function.comp_def]

/--
A visitor that changes nothing walks every tree to an end, and visits its nodes in document order.
-/
theorem inOrder_node (scope : WalkScope) (hv : v.Descends) (x : Json) {t : Tracker τ} (ht : t.Along m start) (s : σ)
    (log : List (WalkEvent κ)) : ∃ s' events,
      Comes scope (fun _ => v.recorded) [] x t (s, log) (x, none) (s', log ++ events) ∧
      events.filterMap WalkEvent.visit? = seen scope m start t.path x.nodes := by
  have hkids (s : σ) (log : List (WalkEvent κ)) : ∃ s' events,
      ChildrenCome scope (fun _ => v.recorded) x t (s, log) (x, none) (s', log ++ events) ∧
      events.filterMap WalkEvent.visit? =
        seen scope m start t.path (Json.nodesOfKids x.kids) := by
    obtain ⟨s', events, hcome, hseen⟩ := inOrder_kids t x.kids (fun k hk s log => by
        have := Json.kids_lt hk
        exact inOrder_node scope hv k.2 (ht.move k.1) s log) s log
    have hchildren := hcome.children
    rw [Json.withKids_self] at hchildren
    exact ⟨s', events, hchildren, hseen⟩
  have hnodes (b : Bool) (hb : sees scope m start t.path = b) : seen scope m start t.path x.nodes =
      (if b then [(t.path, x)] else []) ++ seen scope m start t.path (Json.nodesOfKids x.kids) := by
    rw [Json.nodes_eq]
    cases b <;> simp [seen, hb]
  have hsees : sees scope m start t.path = eligible scope t.site := sees_of_along ht
  cases hel : eligible scope t.site with
  | false =>
    cases hoff : t.isOffRoad with
    | true =>
      have hrun : m.run start t.path = none := ht.state ▸ Option.isNone_iff_eq_none.mp hoff
      have hnone : seen scope m start t.path x.nodes = [] := by
        refine List.filter_eq_nil_iff.mpr fun n hn => ?_
        obtain ⟨n', -, rfl⟩ := List.mem_map.mp hn
        simp [sees_below hrun (hsees.trans hel)]
      exact ⟨s, [], by rw [List.append_nil]; exact comes_skip hel hoff, hnone.symm⟩
    | false =>
      obtain ⟨s', events, hchildren, hseen⟩ := hkids s log
      exact ⟨s', events, comes_pass hel hoff hchildren, by rw [hseen, hnodes _ (hsees.trans hel)]; rfl⟩
  | true =>
    obtain ⟨d, s₁, hvisit, hsettle⟩ := hv.visit x t s
    obtain ⟨s₂, events, hchildren, hseen⟩ := hkids s₁ (log ++ [.visited t.path x d])
    obtain ⟨s', events', hfinish, hnone⟩ :=
      finish_recorded hv t (d.completion.toList ++ []) x s₂ (log ++ [.visited t.path x d] ++ events)
    refine ⟨s', .visited t.path x d :: events ++ events', ?_, ?_⟩
    · have hcall := Visitor.recorded_visit hvisit log
      rw [show log ++ (.visited t.path x d :: events ++ events') =
        log ++ [.visited t.path x d] ++ events ++ events' by simp]
      exact comes_descend hel ⟨0, fun _ _ => hcall⟩ hsettle hchildren ⟨0, fun _ _ => hfinish⟩
    · rw [hnodes _ (hsees.trans hel), List.filterMap_append, hnone, List.append_nil,
        List.filterMap_cons, hseen]
      rfl
termination_by sizeOf x

/-! ## Walks keep their place -/

/-- What is known of the places of a walk over a document. -/
structure KeepsPlace (scope : WalkScope) (v : Visitor τ σ ε κ) (m : Machine τ)
    (start : Option Nat) (doc : Json) : Prop where
  /-- No call is out of place, and the tree that the guard keeps is the walked one in the end. -/
  placed : ∀ bound s, tree scope (v.guarded m start) bound m start doc (s, doc) =
    (tree scope v bound m start doc s).map fun out =>
      ((out.1.1, out.1.2.map .raised), out.2, out.1.1)
  /-- One cursor is enough, also for the guarded walk; without a failure it is back at the start. -/
  returns : ∀ bound s, Steered.Steers (Cursor.start m start) (tree scope v bound m start doc s)
      (Steered.tree scope v bound m start doc s) ∧
    Steered.Steers (Cursor.start m start) (tree scope (v.guarded m start) bound m start doc (s, doc))
      (Steered.tree scope (v.guarded m start) bound m start doc (s, doc))
  /-- A visitor that changes nothing sees the nodes in document order, as far as they are seen. -/
  inOrder : v.Descends → ∀ s, ∃ bound₀ s' log,
    (∀ bound ≥ bound₀,
      tree scope v.recorded bound m start doc (s, []) = some ((doc, none), (s', log))) ∧
    log.filterMap WalkEvent.visit? = doc.nodes.filter fun n => sees scope m start n.1
  /-- Document order lists what each path leads to, once. -/
  listed : (doc.nodes.map Prod.fst).Nodup ∧
    ∀ path x, (path, x) ∈ doc.nodes ↔ doc.follow? path = some x
  /-- Off-road nodes are suppressed with all that is below them. -/
  astray : ∀ path rest, m.run start path = none → sees scope m start path = false →
    sees scope m start (path ++ rest) = false

/-- A walk knows where it is, whatever the visitor makes of the document. -/
theorem keepsPlace (scope : WalkScope) (m : Machine τ) (start : Option Nat) (hv : v.KeepsForm)
    {doc : Json} (hdoc : doc.WellFormed) : KeepsPlace scope v m start doc where
  placed bound s := placed_node hv bound [] hdoc (Tracker.along_start m start) Json.surrounds_nil s
  returns bound s := ⟨Steered.steers_tree bound m start doc s, Steered.steers_tree bound m start doc _⟩
  inOrder hdescends s := by
    obtain ⟨s', log, ⟨bound₀, hcomes⟩, hseen⟩ :=
      inOrder_node scope hdescends doc (Tracker.along_start m start) s []
    refine ⟨bound₀, s', log, fun bound hb => hcomes bound bound hb hb, ?_⟩
    rw [hseen]
    exact congrArg (List.filter _) (List.map_id' _)
  listed := ⟨Json.nodup_nodes hdoc, fun path x => Json.mem_nodes_iff hdoc⟩
  astray _ rest hrun hsees := sees_below hrun hsees rest

/-- A machine with a named state and a hop. -/
def hopping : Machine String :=
  ⟨#[⟨some "list", [("items", 1)], []⟩, ⟨none, [], [⟨"#", .anyIndex, 0⟩]⟩]⟩

/--
A visitor that counts its calls, replaces the first node by a list and visits it again, and whose
completions wrap the finished node.
-/
def restless : Visitor String Nat Unit Nat where
  visit _ _ calls := some (.ok ⟨if calls = 0 then .revisit else .descend,
    if calls = 0 then some (.object [("items", .array [.null, .object []])]) else none,
    some calls⟩, calls + 1)
  complete _ x _ calls := some ((.array [x], none), calls + 1)

def calm : Visitor String Nat Unit Nat where
  visit _ _ calls := some (.ok .descend, calls + 1)
  complete _ x _ calls := some ((x, none), calls)

theorem keepsForm_restless : restless.KeepsForm := by
  intro x t calls d s' new _ hvisit hnew
  cases hvisit
  obtain ⟨-, hnew⟩ := Option.ite_none_right_eq_some.mp hnew
  cases hnew
  simp [Json.WellFormed, Json.WellFormedMembers, Json.WellFormedItems, OrderedMap.keys]

theorem keepsPlace_restless : restless.KeepsForm ∧ calm.KeepsForm ∧ calm.Descends ∧
    (Json.object [("items", .array [.null]), ("other", .null)]).WellFormed ∧
    KeepsPlace ⟨false, false⟩ restless hopping (some 0)
      (.object [("items", .array [.null]), ("other", .null)]) ∧
    KeepsPlace ⟨false, false⟩ calm hopping (some 0)
      (.object [("items", .array [.null]), ("other", .null)]) := by
  have hcalm : calm.KeepsForm := by
    intro x t calls d s' new _ hvisit hnew
    cases hvisit
    cases hnew
  have hdescends : calm.Descends :=
    ⟨fun _ _ _ => ⟨_, _, rfl, rfl⟩, fun _ _ _ _ => ⟨_, rfl⟩⟩
  have hdoc : (Json.object [("items", .array [.null]), ("other", .null)]).WellFormed := by
    simp [Json.WellFormed, Json.WellFormedMembers, Json.WellFormedItems, OrderedMap.keys]
  exact ⟨keepsForm_restless, hcalm, hdescends, hdoc,
    keepsPlace _ _ _ keepsForm_restless hdoc, keepsPlace _ _ _ hcalm hdoc⟩

example : (tree ⟨false, false⟩ calm.recorded 9 hopping (some 0)
    (.object [("items", .array [.null, .bool true]), ("other", .null)]) (0, [])).map
      (fun out => out.2.2.filterMap WalkEvent.visit?) =
    some [([], .object [("items", .array [.null, .bool true]), ("other", .null)]),
      ([.key "items", .index 0], .null), ([.key "items", .index 1], .bool true)] := by
  decide +kernel

end Walk

end ApiBundle
