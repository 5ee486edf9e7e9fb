import ApiBundle.Proofs.Walk.Halting

/-!
# Walks side by side

The loops over items and over members are one loop over the children with the steps to them
(`Walk.inTurn`), so two walks are compared child by child. A visitor *stands for* another one if
both go on in the same way after every visit and completion, once its own state is projected to that
of the other (`Visitor.StandsFor`); then so do the walks. What a visitor notes down for itself
changes nothing, and neither does the form of an answer.
-/

namespace ApiBundle

namespace Bounded

variable {σ α β : Type}

theorem bind_apply (m : Bounded σ α) (f : α → Bounded σ β) (s : σ) :
    (m >>= f) s = (m s).bind fun p => f p.1 p.2 := rfl

theorem get_apply (s : σ) : (get : Bounded σ σ) s = some (s, s) := rfl

end Bounded

namespace Walk

variable {τ σ ε κ : Type}

/-- Walks children one after the other, up to the first failure. -/
def inTurn (child : Json → Tracker τ → Bounded σ (Json × Option ε)) (t : Tracker τ) :
    List (Segment × Json) → Bounded σ (List Json × Option ε)
  | [] => pure ([], none)
  | (step, x) :: rest => do
    match ← child x (t.move step) with
    | (y, some e) => return (y :: rest.map Prod.snd, some e)
    | (y, none) =>
      let (ys, failed) ← inTurn child t rest
      return (y :: ys, failed)

variable (child : Json → Tracker τ → Bounded σ (Json × Option ε)) (t : Tracker τ)

theorem items_eq_inTurn (position : Nat) (xs : List Json) :
    items child t position xs = inTurn child t (Json.indexed position xs) := by
  induction xs generalizing position with
  | nil => rfl
  | cons x xs ih =>
    rw [items, Json.indexed, inTurn]
    refine bind_congr fun out => ?_
    obtain ⟨y, e⟩ := out
    cases e with
    | some e => rw [map_snd_indexed]
    | none => simp only [ih]

theorem members_eq_inTurn (ms : List (String × Json)) :
    members child t ms = (do
      let (ys, failed) ← inTurn child t (ms.map fun m => (.key m.1, m.2))
      return (Json.withValues ms ys, failed)) := by
  induction ms with
  | nil => rfl
  | cons m ms ih =>
    obtain ⟨name, x⟩ := m
    rw [members, List.map_cons, inTurn, bind_assoc]
    refine bind_congr fun out => ?_
    obtain ⟨y, e⟩ := out
    cases e with
    | some e =>
      simp only [pure_bind, Json.withValues, List.map_map, Function.comp_def, withValues_self]
    | none => simp only [ih, bind_assoc, pure_bind, Json.withValues]

/-- Walking the children of a node is walking them in turn. -/
theorem children_eq_inTurn (x : Json) :
    children child x t = (do
      let (ys, failed) ← inTurn child t x.kids
      return (x.withKids ys, failed)) := by
  cases x with
  | object ms =>
    rw [children, members_eq_inTurn, bind_assoc]
    simp only [pure_bind]
    rfl
  | array xs =>
    rw [children, items_eq_inTurn]
    rfl
  | null | bool | number | string => rfl

end Walk

/-! ## Visitors that stand for others -/

namespace Disposition

variable {κ : Type}

/-- What a walk makes of an answer: the node, what follows, and what is handed back. -/
def settled (d : Disposition κ) (node : Json) : (Json × Action) × Option κ :=
  (d.settle node, d.completion)

end Disposition

namespace Visitor

variable {τ σ σ' ε κ : Type}

/-- Every answer is settled like the other visitor's, and every completion does the same. -/
structure StandsFor (v' : Visitor τ σ' ε κ) (v : Visitor τ σ ε κ) (π : σ' → σ) : Prop where
  visit : ∀ x t s', (v'.visit x t s').map (fun out => (out.1.map (·.settled x), π out.2)) =
    (v.visit x t (π s')).map fun out => (out.1.map (·.settled x), out.2)
  complete : ∀ c x t s', (v'.complete c x t s').map (fun out => (out.1, π out.2)) =
    v.complete c x t (π s')

end Visitor

namespace Walk

variable {τ σ σ' ε κ : Type} {scope : WalkScope} {v' : Visitor τ σ' ε κ} {v : Visitor τ σ ε κ}
  {π : σ' → σ}

/-- A step whose state is projected does what another step does. -/
def Projects {α : Type} (π : σ' → σ) (m' : Bounded σ' α) (m : Bounded σ α) : Prop :=
  ∀ s', (m' s').map (fun out => (out.1, π out.2)) = m (π s')

theorem Projects.pure {α : Type} (a : α) :
    Projects π (Pure.pure a : Bounded σ' α) (Pure.pure a) := fun _ => rfl

theorem Projects.bind {α β : Type} {m' : Bounded σ' α} {m : Bounded σ α} {f' : α → Bounded σ' β}
    {f : α → Bounded σ β} (hm : Projects π m' m) (hf : ∀ a, Projects π (f' a) (f a)) :
    Projects π (m' >>= f') (m >>= f) := by
  intro s'
  rw [Bounded.bind_apply, Bounded.bind_apply, ← hm s']
  cases hout : m' s' with
  | none => rfl
  | some out => exact hf out.1 out.2

theorem projects_inTurn {child' : Json → Tracker τ → Bounded σ' (Json × Option ε)}
    {child : Json → Tracker τ → Bounded σ (Json × Option ε)}
    (h : ∀ x t, Projects π (child' x t) (child x t)) (t : Tracker τ)
    (kids : List (Segment × Json)) : Projects π (inTurn child' t kids) (inTurn child t kids) := by
  induction kids with
  | nil => exact .pure _
  | cons k rest ih =>
    refine (h _ _).bind fun out => ?_
    obtain ⟨y, e⟩ := out
    cases e with
    | some e => exact .pure _
    | none => exact ih.bind fun _ => .pure _

theorem projects_finish (h : v'.StandsFor v π) (t : Tracker τ) (pending : List κ) (x : Json) :
    Projects π (finish v' t pending x) (finish v t pending x) := by
  induction pending generalizing x with
  | nil => exact .pure _
  | cons c rest ih =>
    refine Projects.bind (h.complete c x t) fun out => ?_
    obtain ⟨y, e⟩ := out
    cases e with
    | some e => exact .pure _
    | none => exact ih y

/-- A visitor that stands for another one walks like it. -/
theorem projects_node (h : v'.StandsFor v π) (bound : Nat) (pending : List κ) (x : Json)
    (t : Tracker τ) :
    Projects π (node scope v' bound pending x t) (node scope v bound pending x t) := by
  induction bound generalizing pending x t with
  | zero => exact fun _ => rfl
  | succ bound ih =>
    have hkids (x : Json) : Projects π (children (node scope v' bound []) x t)
        (children (node scope v bound []) x t) := by
      rw [children_eq_inTurn, children_eq_inTurn]
      exact (projects_inTurn (fun x t => ih [] x t) t x.kids).bind fun _ => .pure _
    cases hel : eligible scope t.site with
    | false =>
      simp only [node, hel, Bool.not_false, if_true]
      split
      · exact .pure _
      · exact hkids x
    | true =>
      rw [node_of_eligible hel, node_of_eligible hel]
      -- after a visit only the settled answer counts
      have hresume {d' d : Disposition κ} (hd : d'.settled x = d.settled x) :
          Projects π (resume scope v' bound pending x t (.ok d'))
            (resume scope v bound pending x t (.ok d)) := by
        obtain ⟨hsettle, hcompletion⟩ := Prod.mk.inj hd
        simp only [resume, hsettle, hcompletion]
        rcases d.settle x with ⟨new, action⟩
        cases action with
        | revisit => exact ih _ new t
        | done => exact projects_finish h t _ new
        | descend =>
          refine (hkids new).bind fun out => ?_
          obtain ⟨y, e⟩ := out
          cases e with
          | some e => exact .pure _
          | none => exact projects_finish h t _ y
      intro s'
      have hvisit := h.visit x t s'
      rw [Bounded.bind_apply, Bounded.bind_apply]
      cases hv' : v'.visit x t s' with
      | none =>
        rw [hv'] at hvisit
        rw [Option.map_eq_none_iff.mp hvisit.symm]
        rfl
      | some out' =>
        rw [hv'] at hvisit
        obtain ⟨out, hv, hout⟩ := Option.map_eq_some_iff.mp hvisit.symm
        obtain ⟨answer', s₁'⟩ := out'
        obtain ⟨answer, s₁⟩ := out
        obtain ⟨hanswer, rfl⟩ := Prod.mk.inj hout
        rw [hv]
        cases answer with
        | error e =>
          cases answer' with
          | error e' =>
            cases hanswer
            rfl
          | ok d' => cases hanswer
        | ok d =>
          cases answer' with
          | error e' => cases hanswer
          | ok d' => exact hresume (Except.ok.inj hanswer).symm s₁'

end Walk

end ApiBundle
