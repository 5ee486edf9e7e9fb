import ApiBundle.Walk

/-!
# Induction along walks

A walk goes through the children of a node one after the other, each with the state that the one
before it left behind. `Threaded` is that chain for any relation between a node, the state before
and the state after, and `Walk.node_induction` is the induction principle of walks: one case for
each way in which a node can be treated, with a chain of hypotheses for its children. The bound does
not show in it, so nothing that is proved along walks depends on bounds.
-/

namespace ApiBundle

namespace Bounded

variable {σ α β : Type} {s : σ}

/-- Two steps in a row have a result when both have. -/
theorem bind_eq_some {m : Bounded σ α} {f : α → Bounded σ β} {p : β × σ} :
    (m >>= f) s = some p ↔ ∃ a s₁, m s = some (a, s₁) ∧ f a s₁ = some p := by
  show (m s).bind (fun p => f p.1 p.2) = some p ↔ _
  simp [Option.bind_eq_some_iff]

end Bounded

namespace Json

/-- Items with the steps to them, from an index on. -/
def indexed (position : Nat) : List Json → List (Segment × Json)
  | [] => []
  | x :: xs => (.index position, x) :: indexed (position + 1) xs

/-- The children of a node with the steps to them, in order. -/
def kids : Json → List (Segment × Json)
  | .object members => members.map fun m => (.key m.1, m.2)
  | .array items => indexed 0 items
  | _ => []

/-- Replaces the values of members, in order. -/
def withValues : List (String × Json) → List Json → List (String × Json)
  | m :: members, x :: xs => (m.1, x) :: withValues members xs
  | _, _ => []

/-- A node with its children replaced, in order. -/
def withKids (node : Json) (children : List Json) : Json :=
  match node with
  | .object members => .object (withValues members children)
  | .array _ => .array children
  | node => node

end Json

namespace Walk

variable {τ σ ε κ : Type}

/--
Children are treated one after the other, each from the state that the one before it left; after the
first failure the rest stay as they are.
-/
inductive Threaded (R : Json → Tracker τ → σ → Json → Option ε → σ → Prop) (t : Tracker τ) :
    List (Segment × Json) → σ → List Json → Option ε → σ → Prop where
  | nil {s : σ} : Threaded R t [] s [] none s
  | fail {step : Segment} {x y : Json} {rest : List (Segment × Json)} {s s' : σ} {e : ε}
      (head : R x (t.move step) s y (some e) s') :
      Threaded R t ((step, x) :: rest) s (y :: rest.map Prod.snd) (some e) s'
  | cons {step : Segment} {x y : Json} {rest : List (Segment × Json)} {s s₁ s' : σ}
      {ys : List Json} {e : Option ε} (head : R x (t.move step) s y none s₁)
      (tail : Threaded R t rest s₁ ys e s') :
      Threaded R t ((step, x) :: rest) s (y :: ys) e s'

/-- A walker of children as a relation. -/
def Gives (child : Json → Tracker τ → Bounded σ (Json × Option ε)) (x : Json) (t : Tracker τ)
    (s : σ) (y : Json) (e : Option ε) (s' : σ) : Prop :=
  child x t s = some ((y, e), s')

variable {child : Json → Tracker τ → Bounded σ (Json × Option ε)} {t : Tracker τ} {s s' : σ}
  {e : Option ε}

theorem Threaded.mono {R R' : Json → Tracker τ → σ → Json → Option ε → σ → Prop}
    (hR : ∀ {x t s y e s'}, R x t s y e s' → R' x t s y e s') {kids : List (Segment × Json)}
    {ys : List Json} (h : Threaded R t kids s ys e s') : Threaded R' t kids s ys e s' := by
  induction h with
  | nil => exact .nil
  | fail head => exact .fail (hR head)
  | cons head _ ih => exact .cons (hR head) ih

theorem Threaded.length_eq {R : Json → Tracker τ → σ → Json → Option ε → σ → Prop}
    {kids : List (Segment × Json)} {ys : List Json} (h : Threaded R t kids s ys e s') :
    ys.length = kids.length := by
  induction h with
  | nil => rfl
  | fail => simp
  | cons _ _ ih => simp [ih]

theorem map_snd_indexed (position : Nat) (xs : List Json) :
    (Json.indexed position xs).map Prod.snd = xs := by
  induction xs generalizing position with
  | nil => rfl
  | cons x xs ih => simp [Json.indexed, ih]

theorem withValues_self (ms : List (String × Json)) :
    Json.withValues ms (ms.map Prod.snd) = ms := by
  induction ms with
  | nil => rfl
  | cons m ms ih => simp [Json.withValues, ih]

theorem items_threaded {position : Nat} {xs ys : List Json}
    (h : items child t position xs s = some ((ys, e), s')) :
    Threaded (Gives child) t (Json.indexed position xs) s ys e s' := by
  induction xs generalizing position s ys with
  | nil =>
    cases h
    exact .nil
  | cons x xs ih =>
    rw [items, Bounded.bind_eq_some] at h
    obtain ⟨⟨y, failed⟩, s₁, hx, hrest⟩ := h
    cases failed with
    | some e₁ =>
      cases hrest
      have hfail : Threaded (Gives child) t (Json.indexed position (x :: xs)) s _ (some e₁) s' :=
        .fail hx
      rwa [map_snd_indexed] at hfail
    | none =>
      obtain ⟨⟨zs, failed⟩, s₂, hxs, hlast⟩ := Bounded.bind_eq_some.mp hrest
      cases hlast
      exact .cons hx (ih hxs)

theorem members_threaded {ms ms' : List (String × Json)}
    (h : members child t ms s = some ((ms', e), s')) :
    ∃ ys, Threaded (Gives child) t (ms.map fun m => (.key m.1, m.2)) s ys e s' ∧
      ms' = Json.withValues ms ys := by
  induction ms generalizing s ms' with
  | nil =>
    cases h
    exact ⟨[], .nil, rfl⟩
  | cons m ms ih =>
    obtain ⟨name, x⟩ := m
    rw [members, Bounded.bind_eq_some] at h
    obtain ⟨⟨y, failed⟩, s₁, hx, hrest⟩ := h
    cases failed with
    | some e₁ =>
      cases hrest
      refine ⟨_, .fail hx, ?_⟩
      simp [Json.withValues, List.map_map, Function.comp_def, withValues_self]
    | none =>
      obtain ⟨⟨zs, failed⟩, s₂, hms, hlast⟩ := Bounded.bind_eq_some.mp hrest
      cases hlast
      obtain ⟨ys, hys, rfl⟩ := ih hms
      exact ⟨y :: ys, .cons hx hys, rfl⟩

/-- Walking the children of a node threads the state through them. -/
theorem children_threaded {x y : Json} (h : children child x t s = some ((y, e), s')) :
    ∃ ys, Threaded (Gives child) t x.kids s ys e s' ∧ y = x.withKids ys := by
  cases x with
  | object ms =>
    obtain ⟨⟨ms', failed⟩, s₁, hms, hlast⟩ := Bounded.bind_eq_some.mp h
    cases hlast
    obtain ⟨ys, hys, rfl⟩ := members_threaded hms
    exact ⟨ys, hys, rfl⟩
  | array xs =>
    obtain ⟨⟨ys, failed⟩, s₁, hxs, hlast⟩ := Bounded.bind_eq_some.mp h
    cases hlast
    exact ⟨ys, items_threaded hxs, rfl⟩
  | _ =>
    cases h
    exact ⟨[], .nil, rfl⟩

theorem items_of_threaded {position : Nat} {xs ys : List Json}
    (h : Threaded (Gives child) t (Json.indexed position xs) s ys e s') :
    items child t position xs s = some ((ys, e), s') := by
  induction xs generalizing position s ys with
  | nil =>
    cases h
    rfl
  | cons x xs ih =>
    rw [items, Bounded.bind_eq_some]
    cases h with
    | fail head =>
      rw [map_snd_indexed]
      exact ⟨_, _, head, rfl⟩
    | cons head tail =>
      exact ⟨_, _, head, Bounded.bind_eq_some.mpr ⟨_, _, ih tail, rfl⟩⟩

theorem members_of_threaded {ms : List (String × Json)} {ys : List Json}
    (h : Threaded (Gives child) t (ms.map fun m => (.key m.1, m.2)) s ys e s') :
    members child t ms s = some ((Json.withValues ms ys, e), s') := by
  induction ms generalizing s ys with
  | nil =>
    cases h
    rfl
  | cons m ms ih =>
    obtain ⟨name, x⟩ := m
    rw [members, Bounded.bind_eq_some]
    cases h with
    | fail head =>
      rw [List.map_map, Json.withValues]
      simp only [Function.comp_def, withValues_self]
      exact ⟨_, _, head, rfl⟩
    | cons head tail =>
      exact ⟨_, _, head, Bounded.bind_eq_some.mpr ⟨_, _, ih tail, rfl⟩⟩

/-- Children that are treated one after the other are walked. -/
theorem children_of_threaded {x : Json} {ys : List Json}
    (h : Threaded (Gives child) t x.kids s ys e s') :
    children child x t s = some ((x.withKids ys, e), s') := by
  cases x with
  | object ms => exact Bounded.bind_eq_some.mpr ⟨_, _, members_of_threaded h, rfl⟩
  | array xs => exact Bounded.bind_eq_some.mpr ⟨_, _, items_of_threaded h, rfl⟩
  | null | bool | number | string =>
    cases h
    rfl

/-- The ways in which a walk of a node goes, within a bound for the walks that it consists of. -/
inductive Goes (scope : WalkScope) (v : Visitor τ σ ε κ) (bound : Nat) (pending : List κ) (x : Json)
    (t : Tracker τ) (s : σ) : Json → Option ε → σ → Prop where
  | skip (site : eligible scope t.site = false) (offRoad : t.isOffRoad = true) :
      Goes scope v bound pending x t s x none s
  | pass {ys : List Json} {e : Option ε} {s' : σ} (site : eligible scope t.site = false)
      (onRoad : t.isOffRoad = false)
      (kids : Threaded (Gives (node scope v bound [])) t x.kids s ys e s') :
      Goes scope v bound pending x t s (x.withKids ys) e s'
  | raise {e : ε} {s' : σ} (site : eligible scope t.site = true)
      (visit : v.visit x t s = some (.error e, s')) : Goes scope v bound pending x t s x (some e) s'
  | revisit {d : Disposition κ} {s₁ s' : σ} {new y : Json} {e : Option ε}
      (site : eligible scope t.site = true) (visit : v.visit x t s = some (.ok d, s₁))
      (settle : d.settle x = (new, .revisit))
      (again : node scope v bound (d.completion.toList ++ pending) new t s₁ = some ((y, e), s')) :
      Goes scope v bound pending x t s y e s'
  | broken {d : Disposition κ} {s₁ s' : σ} {new : Json} {ys : List Json} {e : ε}
      (site : eligible scope t.site = true) (visit : v.visit x t s = some (.ok d, s₁))
      (settle : d.settle x = (new, .descend))
      (kids : Threaded (Gives (node scope v bound [])) t new.kids s₁ ys (some e) s') :
      Goes scope v bound pending x t s (new.withKids ys) (some e) s'
  | descend {d : Disposition κ} {s₁ s₂ s' : σ} {new y : Json} {ys : List Json} {e : Option ε}
      (site : eligible scope t.site = true) (visit : v.visit x t s = some (.ok d, s₁))
      (settle : d.settle x = (new, .descend))
      (kids : Threaded (Gives (node scope v bound [])) t new.kids s₁ ys none s₂)
      (last : finish v t (d.completion.toList ++ pending) (new.withKids ys) s₂ =
        some ((y, e), s')) : Goes scope v bound pending x t s y e s'
  | done {d : Disposition κ} {s₁ s' : σ} {new y : Json} {e : Option ε}
      (site : eligible scope t.site = true) (visit : v.visit x t s = some (.ok d, s₁))
      (settle : d.settle x = (new, .done))
      (last : finish v t (d.completion.toList ++ pending) new s₁ = some ((y, e), s')) :
      Goes scope v bound pending x t s y e s'

/-- A walk of a node goes in one of these ways. -/
theorem goes_of_node {scope : WalkScope} {v : Visitor τ σ ε κ} {bound : Nat} {pending : List κ}
    {x y : Json} (h : node scope v (bound + 1) pending x t s = some ((y, e), s')) :
    Goes scope v bound pending x t s y e s' := by
  unfold node at h
  by_cases hscope : eligible scope t.site = true
  · simp only [hscope, Bool.not_true, Bool.false_eq_true, if_false] at h
    obtain ⟨visited, s₁, hv, hrest⟩ := Bounded.bind_eq_some.mp h
    cases visited with
    | error e₁ =>
      cases hrest
      exact .raise hscope hv
    | ok d =>
      cases hd : d.settle x with
      | mk new action =>
      simp only [hd] at hrest
      cases action with
      | revisit => exact .revisit hscope hv hd hrest
      | descend =>
        obtain ⟨⟨z, failed⟩, s₂, hz, hlast⟩ := Bounded.bind_eq_some.mp hrest
        obtain ⟨ys, hys, rfl⟩ := children_threaded hz
        cases failed with
        | some e₁ =>
          cases hlast
          exact .broken hscope hv hd hys
        | none => exact .descend hscope hv hd hys hlast
      | done => exact .done hscope hv hd hrest
  · have hscope : eligible scope t.site = false := by simpa using hscope
    simp only [hscope, Bool.not_false, if_true] at h
    by_cases hoff : t.isOffRoad = true
    · simp only [hoff, if_true] at h
      cases h
      exact .skip hscope hoff
    · have hoff : t.isOffRoad = false := by simpa using hoff
      simp only [hoff, Bool.false_eq_true, if_false] at h
      obtain ⟨ys, hys, rfl⟩ := children_threaded h
      exact .pass hscope hoff hys

/--
Induction along a walk. A node out of scope is left alone, or only its children are walked; at any
other node the walk does what the visitor says.
-/
theorem node_induction {scope : WalkScope} {v : Visitor τ σ ε κ}
    {motive : List κ → Json → Tracker τ → σ → Json → Option ε → σ → Prop}
    (skip : ∀ {pending x t s}, eligible scope t.site = false → t.isOffRoad = true →
      motive pending x t s x none s)
    (pass : ∀ {pending x t s ys e s'}, eligible scope t.site = false → t.isOffRoad = false →
      Threaded (motive []) t x.kids s ys e s' → motive pending x t s (x.withKids ys) e s')
    (raise : ∀ {pending x t s e s'}, eligible scope t.site = true →
      v.visit x t s = some (.error e, s') → motive pending x t s x (some e) s')
    (revisit : ∀ {pending x t s d s₁ new y e s'}, eligible scope t.site = true →
      v.visit x t s = some (.ok d, s₁) → d.settle x = (new, .revisit) →
      motive (d.completion.toList ++ pending) new t s₁ y e s' → motive pending x t s y e s')
    (broken : ∀ {pending x t s d s₁ new ys e s'}, eligible scope t.site = true →
      v.visit x t s = some (.ok d, s₁) → d.settle x = (new, .descend) →
      Threaded (motive []) t new.kids s₁ ys (some e) s' →
      motive pending x t s (new.withKids ys) (some e) s')
    (descend : ∀ {pending x t s d s₁ new ys s₂ y e s'}, eligible scope t.site = true →
      v.visit x t s = some (.ok d, s₁) → d.settle x = (new, .descend) →
      Threaded (motive []) t new.kids s₁ ys none s₂ →
      finish v t (d.completion.toList ++ pending) (new.withKids ys) s₂ = some ((y, e), s') →
      motive pending x t s y e s')
    (done : ∀ {pending x t s d s₁ new y e s'}, eligible scope t.site = true →
      v.visit x t s = some (.ok d, s₁) → d.settle x = (new, .done) →
      finish v t (d.completion.toList ++ pending) new s₁ = some ((y, e), s') →
      motive pending x t s y e s')
    {bound : Nat} {pending : List κ} {x : Json} {t : Tracker τ} {s : σ} {y : Json} {e : Option ε}
    {s' : σ} (h : node scope v bound pending x t s = some ((y, e), s')) :
    motive pending x t s y e s' := by
  induction bound generalizing pending x t s y e s' with
  | zero => cases h
  | succ bound ih =>
    cases goes_of_node h with
    | skip site offRoad => exact skip site offRoad
    | pass site onRoad kids => exact pass site onRoad (kids.mono ih)
    | raise site hv => exact raise site hv
    | revisit site hv hd again => exact revisit site hv hd (ih again)
    | broken site hv hd kids => exact broken site hv hd (kids.mono ih)
    | descend site hv hd kids last => exact descend site hv hd (kids.mono ih) last
    | done site hv hd last => exact done site hv hd last

end Walk

end ApiBundle
