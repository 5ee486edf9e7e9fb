import ApiBundle.Proofs.Scan.Steps

/-!
# Bounds do not matter

A bound on nesting decides whether a scan comes to an end, and nothing else: what ends within one
bound ends in the same way within every larger one (`Scan.ends_scanFrom_of_le`). So the results of
a run are the same for all bounds that are large enough for it.
-/

namespace ApiBundle

namespace Bounded

variable {σ α β : Type}

/-- Whatever result the first step has, the second one has it too. -/
def Refines (m m' : Bounded σ α) : Prop := ∀ s p, m s = some p → m' s = some p

theorem Refines.refl (m : Bounded σ α) : Refines m m := fun _ _ h => h

theorem Refines.bind {m m' : Bounded σ α} {f f' : α → Bounded σ β} (hm : Refines m m')
    (hf : ∀ a, Refines (f a) (f' a)) : Refines (m >>= f) (m' >>= f') := by
  intro s p h
  obtain ⟨a, s₁, ha, hrest⟩ := bind_eq_some.mp h
  exact bind_eq_some.mpr ⟨a, s₁, hm s _ ha, hf a s₁ _ hrest⟩

end Bounded

namespace Walk

open Bounded

variable {τ σ ε κ : Type} {scope : WalkScope} {v v' : Visitor τ σ ε κ}

theorem items_refines {child child' : Json → Tracker τ → Bounded σ (Json × Option ε)}
    (h : ∀ x t, Refines (child x t) (child' x t)) (t : Tracker τ) (position : Nat)
    (xs : List Json) : Refines (items child t position xs) (items child' t position xs) := by
  induction xs generalizing position with
  | nil => exact .refl _
  | cons x xs ih =>
    refine (h x _).bind fun out => ?_
    obtain ⟨y, e⟩ := out
    cases e with
    | some e => exact .refl _
    | none => exact (ih _).bind fun _ => .refl _

theorem members_refines {child child' : Json → Tracker τ → Bounded σ (Json × Option ε)}
    (h : ∀ x t, Refines (child x t) (child' x t)) (t : Tracker τ) (ms : List (String × Json)) :
    Refines (members child t ms) (members child' t ms) := by
  induction ms with
  | nil => exact .refl _
  | cons m ms ih =>
    obtain ⟨name, x⟩ := m
    refine (h x _).bind fun out => ?_
    obtain ⟨y, e⟩ := out
    cases e with
    | some e => exact .refl _
    | none => exact ih.bind fun _ => .refl _

theorem children_refines {child child' : Json → Tracker τ → Bounded σ (Json × Option ε)}
    (h : ∀ x t, Refines (child x t) (child' x t)) (x : Json) (t : Tracker τ) :
    Refines (children child x t) (children child' x t) := by
  cases x with
  | object ms => exact (members_refines h t ms).bind fun _ => .refl _
  | array xs => exact (items_refines h t 0 xs).bind fun _ => .refl _
  | _ => exact .refl _

theorem finish_refines (h : ∀ c x t, Refines (v.complete c x t) (v'.complete c x t))
    (t : Tracker τ) (pending : List κ) (x : Json) :
    Refines (finish v t pending x) (finish v' t pending x) := by
  induction pending generalizing x with
  | nil => exact .refl _
  | cons c rest ih =>
    refine (h c x t).bind fun out => ?_
    obtain ⟨y, e⟩ := out
    cases e with
    | some e => exact .refl _
    | none => exact ih y

/-- A walk with a larger bound, and with a visitor that has more results, has the same result. -/
theorem node_refines (hvisit : ∀ x t, Refines (v.visit x t) (v'.visit x t))
    (hcomplete : ∀ c x t, Refines (v.complete c x t) (v'.complete c x t)) {b b' : Nat}
    (hle : b ≤ b') (pending : List κ) (x : Json) (t : Tracker τ) :
    Refines (node scope v b pending x t) (node scope v' b' pending x t) := by
  induction b generalizing b' pending x t with
  | zero =>
    intro s p h
    cases h
  | succ b ih =>
    obtain ⟨b', rfl⟩ : ∃ n, b' = n + 1 := ⟨b' - 1, by omega⟩
    have hkids : ∀ x t, Refines (children (node scope v b []) x t)
        (children (node scope v' b' []) x t) :=
      children_refines fun x t => ih (by omega) [] x t
    unfold node
    cases eligible scope t.site with
    | false =>
      cases t.isOffRoad with
      | true => exact .refl _
      | false => exact hkids x t
    | true =>
      refine (hvisit x t).bind fun answer => ?_
      cases answer with
      | error e => exact .refl _
      | ok d =>
        simp only
        rcases d.settle x with ⟨new, action⟩
        cases action with
        | revisit => exact ih (by omega) _ new t
        | descend =>
          refine (hkids new t).bind fun out => ?_
          obtain ⟨y, e⟩ := out
          cases e with
          | some e => exact .refl _
          | none => exact finish_refines hcomplete t _ y
        | done => exact finish_refines hcomplete t _ new

end Walk

namespace Scanning

variable {α β : Type}

/-- In whatever way the first step ends, the second one ends so too. -/
def Refines (m m' : Scanning α) : Prop := ∀ s r s', Ends m s r s' → Ends m' s r s'

theorem Refines.refl (m : Scanning α) : Refines m m := fun _ _ _ h => h

theorem Refines.bind {m m' : Scanning α} {f f' : α → Scanning β} (hm : Refines m m')
    (hf : ∀ a, Refines (f a) (f' a)) : Refines (m >>= f) (m' >>= f') := by
  intro s r s' h
  rcases ends_bind.mp h with ⟨e, he, rfl⟩ | ⟨a, s₁, ha, hrest⟩
  · exact ends_bind.mpr (.inl ⟨e, hm _ _ _ he, rfl⟩)
  · exact ends_bind.mpr (.inr ⟨a, s₁, hm _ _ _ ha, hf a _ _ _ hrest⟩)

/-- Two steps in a row of which the first one is the same. -/
theorem Refines.after {m : Scanning α} {f f' : α → Scanning β} (hf : ∀ a, Refines (f a) (f' a)) :
    Refines (m >>= f) (m >>= f') :=
  (Refines.refl m).bind hf

theorem Refines.resolving {m m' : Scanning α} (r : Reference) (hm : Refines m m') :
    Refines (resolving r m) (resolving r m') := by
  refine .after fun s => ?_
  rcases s.resolving.visit r.id with ⟨(_ | fresh), active⟩
  · exact .refl _
  · cases fresh with
    | false => exact .refl _
    | true =>
      refine .after fun _ => ?_
      intro s r' s' h
      obtain ⟨result, s₁, hstep, hlast⟩ := Bounded.bind_eq_some.mp h
      exact Bounded.bind_eq_some.mpr ⟨result, s₁, hm _ _ _ hstep, hlast⟩

end Scanning

namespace Scan

open Scanning

variable {nested nested' : NestedScan}

/-- All scans of the first kind end in the same way among those of the second. -/
def NestedRefines (nested nested' : NestedScan) : Prop :=
  ∀ id phase start, Refines (nested id phase start) (nested' id phase start)

section Steps

variable (h : NestedRefines nested nested') (base : Reference) (node : Json) (r : Reference)
  (t : Tracker Component) (state : Option Nat)
include h

theorem splice_refines : Refines (splice nested node r state) (splice nested' node r state) := by
  unfold splice
  refine .after fun active => ?_
  cases active with
  | true =>
    simp only [if_true]
    exact .refl _
  | false =>
    simp only [Bool.false_eq_true, if_false]
    refine .after fun target => ?_
    cases target with
    | error r' => exact .refl _
    | ok id => exact (Refines.resolving r (h id .load state)).bind fun _ => .refl _

theorem load_refines : Refines (load nested base node t) (load nested' base node t) := by
  unfold load
  refine .after fun s => ?_
  cases href : reference? s.options base node t with
  | none =>
    simp only [href]
    exact .refl _
  | some r =>
    simp only [href]
    cases r.treatment s.options with
    | inlineNonconforming => exact splice_refines h node r t.current
    | _ => exact .refl _

theorem rescan_refines (id : ContentId) :
    Refines (rescan nested id state) (rescan nested' id state) :=
  (h id .load state).bind fun _ => h id .settle state

theorem localize_refines :
    Refines (localize nested node r state) (localize nested' node r state) := by
  unfold localize
  refine .after fun s => ?_
  rcases r.component with _ | c
  · exact .refl _
  · cases settledEntry? s r with
    | some e => exact .refl _
    | none =>
      refine .after fun target => ?_
      cases target with
      | error r' => exact .refl _
      | ok id =>
        refine .after fun s₁ => ?_
        rcases s₁.store.tree? id with _ | raw
        · exact .refl _
        · rcases r.url with _ | url
          · exact .refl _
          · refine .after fun s₂ => .after fun entry => .after fun _ => .after fun active => ?_
            cases active with
            | true =>
              simp only [if_true]
              exact .refl _
            | false =>
              simp only [Bool.false_eq_true, if_false]
              exact (Refines.resolving r (rescan_refines h state id)).bind fun _ => .refl _

theorem inline_refines (conforming : Bool) :
    Refines (inline nested node r conforming state) (inline nested' node r conforming state) := by
  unfold inline
  refine .after fun active => ?_
  cases active with
  | true =>
    simp only [if_true]
    split
    · exact localize_refines h node r state
    · exact .refl _
  | false =>
    simp only [Bool.false_eq_true, if_false]
    refine .after fun target => ?_
    cases target with
    | error r' => exact .refl _
    | ok id => exact (Refines.resolving r (rescan_refines h state id)).bind fun _ => .refl _

theorem mergeTarget_refines : Refines (mergeTarget nested r state) (mergeTarget nested' r state) := by
  unfold mergeTarget
  refine .after fun active => ?_
  cases active with
  | true =>
    simp only [if_true]
    exact .refl _
  | false =>
    simp only [Bool.false_eq_true, if_false]
    refine .after fun target => ?_
    cases target with
    | error r' => exact .refl _
    | ok id => exact (Refines.resolving r (rescan_refines h state id)).bind fun _ => .refl _

theorem settle_refines : Refines (settle nested base node t) (settle nested' base node t) := by
  unfold settle
  refine .after fun s => ?_
  cases href : reference? s.options base node t with
  | none =>
    simp only [href]
    exact .refl _
  | some r =>
    simp only [href]
    cases r.treatment s.options with
    | merge => exact (mergeTarget_refines h r t.current).bind fun _ => .refl _
    | localize => exact (localize_refines h node r t.current).bind fun _ => .refl _
    | inlineConforming => exact (inline_refines h node r t.current true).bind fun _ => .refl _
    | inlineNonconforming => exact (inline_refines h node r t.current false).bind fun _ => .refl _
    | _ => exact .refl _

theorem visit_refines (phase : Phase) :
    Refines (visit nested phase base node t) (visit nested' phase base node t) := by
  cases phase with
  | load => exact load_refines h base node t
  | collect => exact .refl _
  | settle => exact settle_refines h base node t

theorem walk_refines (phase : Phase) {bound bound' : Nat} (hle : bound ≤ bound')
    (start : Option Nat) (tree : Json) :
    Refines (walk nested phase base bound start tree)
      (walk nested' phase base bound' start tree) := by
  have hvisit : ∀ x t, Bounded.Refines ((visitor nested phase base).visit x t)
      ((visitor nested' phase base).visit x t) :=
    fun x t s p hv => visit_refines h base x t phase s p.1 p.2 hv
  have hcomplete : ∀ c x t, Bounded.Refines ((visitor nested phase base).complete c x t)
      ((visitor nested' phase base).complete c x t) := fun _ _ _ _ _ h => h
  unfold walk
  refine .after fun s => .bind ?_ fun _ => .refl _
  intro s r s' hends
  obtain ⟨out, hwalk, rfl⟩ := ends_lift.mp hends
  exact ends_lift.mpr ⟨out, Walk.node_refines hvisit hcomplete hle [] tree _ _ _ hwalk, rfl⟩

end Steps

/-- A scan with a larger bound ends as one with a smaller bound does. -/
theorem scanFrom_refines {b b' : Nat} (hle : b ≤ b') :
    NestedRefines (scanFrom b) (scanFrom b') := by
  induction b generalizing b' with
  | zero =>
    intro id phase start s r s' h
    cases h
  | succ b ih =>
    obtain ⟨b', rfl⟩ : ∃ n, b' = n + 1 := ⟨b' - 1, by omega⟩
    intro id phase start
    unfold scanFrom
    refine .after fun s => ?_
    simp only
    rcases s.store.content? id with _ | c
    · exact .refl _
    · rcases s.store.tree? id with _ | tree
      · exact .refl _
      · exact (walk_refines (ih (by omega)) c.reference phase (by omega) start tree).bind
          fun _ => .refl _

end Scan

end ApiBundle
