import ApiBundle.Proofs.Dialect.Routes
import ApiBundle.Proofs.Machine.Retracing
import ApiBundle.Scan

/-!
# Content seen from its definition and from a reference

Content is scanned from the state where it is defined, or from that of a place that refers to it.
The two states have the same edges, so the same moves lead from both to one state, the first move on
(`Machine.run_eq_of_step_eq`). Visitors see a tracker for where it stands and for the moves that it
made, never for where it started (`Walk.IgnoresStart`), and such a visitor walks whatever is below
the root in the same way from both states (`Walk.children_eq`).

The roots themselves are left out, as the two states have different tags.
-/

namespace ApiBundle

/-- States with the same edges lead every path of at least one step to one place. -/
theorem Machine.run_eq_of_step_eq {τ : Type} {m : Machine τ} {p q : Nat} (h : m.step p = m.step q)
    (step : Segment) (path : List Segment) :
    m.run (some p) (step :: path) = m.run (some q) (step :: path) := by
  show m.run (m.step p step) path = m.run (m.step q step) path
  rw [h]

/-! ## Trackers after the same moves -/

namespace Tracker

variable {τ : Type} {t t' : Tracker τ}

/-- Two trackers at one place of a machine that have made the same moves. -/
structure Alike (t t' : Tracker τ) : Prop where
  machine : t.machine = t'.machine
  current : t.current = t'.current
  path : t.path = t'.path

/-- Two trackers that have made the same moves, and that every next move takes to one place. -/
structure Joining (t t' : Tracker τ) : Prop where
  machine : t.machine = t'.machine
  peek : t.peek = t'.peek
  path : t.path = t'.path

theorem site_eq (hmachine : t.machine = t'.machine) (hcurrent : t.current = t'.current) :
    t.site = t'.site := by
  rw [site, site, hcurrent, hmachine]

theorem Alike.joining (h : t.Alike t') : t.Joining t' where
  machine := h.machine
  peek := by
    funext step
    rw [peek, peek, h.machine, h.current]
  path := h.path

theorem Joining.move (h : t.Joining t') (step : Segment) : (t.move step).Alike (t'.move step) where
  machine := h.machine
  current := congrFun h.peek step
  path := by rw [path_move, path_move, h.path]

end Tracker

/-! ## Walks -/

namespace Walk

variable {τ σ ε κ : Type} {v : Visitor τ σ ε κ} {t t' : Tracker τ}

/-- A visitor to which it makes no difference where a tracker started. -/
structure IgnoresStart (v : Visitor τ σ ε κ) : Prop where
  visit : ∀ {t t' : Tracker τ}, t.Alike t' → ∀ x, v.visit x t = v.visit x t'
  complete : ∀ {t t' : Tracker τ}, t.Alike t' → ∀ c x, v.complete c x t = v.complete c x t'

section Children

variable {child : Json → Tracker τ → Bounded σ (Json × Option ε)}
  (hchild : ∀ {t t' : Tracker τ}, t.Alike t' → ∀ x, child x t = child x t')
include hchild

theorem items_eq (h : t.Joining t') (position : Nat) (xs : List Json) :
    items child t position xs = items child t' position xs := by
  induction xs generalizing position with
  | nil => rfl
  | cons x xs ih => simp only [items, hchild (h.move (.index position)) x, ih]

theorem members_eq (h : t.Joining t') (ms : List (String × Json)) :
    members child t ms = members child t' ms := by
  induction ms with
  | nil => rfl
  | cons m ms ih => simp only [members, hchild (h.move (.key m.1)) m.2, ih]

theorem children_eq (h : t.Joining t') (x : Json) : children child x t = children child x t' := by
  cases x with
  | object ms => simp only [children, members_eq hchild h]
  | array xs => simp only [children, items_eq hchild h]
  | null | bool | number | string => rfl

end Children

theorem finish_eq (hv : IgnoresStart v) (h : t.Alike t') (pending : List κ) (x : Json) :
    finish v t pending x = finish v t' pending x := by
  induction pending generalizing x with
  | nil => rfl
  | cons c pending ih => simp only [finish, hv.complete h, ih]

theorem node_eq (hv : IgnoresStart v) (scope : WalkScope) (bound : Nat) (pending : List κ)
    (h : t.Alike t') (x : Json) :
    node scope v bound pending x t = node scope v bound pending x t' := by
  induction bound generalizing pending x t t' with
  | zero => rfl
  | succ bound ih =>
    have hchildren (x : Json) : children (node scope v bound []) x t =
        children (node scope v bound []) x t' := children_eq (fun h x => ih [] h x) h.joining x
    have hoffRoad : t.isOffRoad = t'.isOffRoad := by
      rw [Tracker.isOffRoad, Tracker.isOffRoad, h.current]
    simp only [node, Tracker.site_eq h.machine h.current, hoffRoad, hv.visit h, hchildren,
      finish_eq hv h, ih _ h]

end Walk

/-! ## Scans -/

namespace Scan

variable {t t' : Tracker Component}

theorem reference?_eq (h : t.site = t'.site) (o : Options) (base : Reference) (node : Json) :
    reference? o base node t = reference? o base node t' := by
  rw [reference?, reference?, h]

theorem origin?_congr (h : t.path = t'.path) (base : Reference) :
    origin? base t = origin? base t' := by
  rw [origin?, origin?, Tracker.pointer, Tracker.pointer, h]

theorem ignoresStart_visitor (nested : NestedScan) (phase : Phase) (base : Reference) :
    Walk.IgnoresStart (visitor nested phase base) where
  visit {t t'} h x := by
    have hsite : t.site = t'.site := Tracker.site_eq h.machine h.current
    have hvisit : visit nested phase base x t = visit nested phase base x t' := by
      cases phase with
      | load => simp only [visit, load, reference?_eq hsite, h.current]
      | collect => simp only [visit, collect, hsite, origin?_congr h.path]
      | settle =>
        simp only [visit, settle, merge, reference?_eq hsite, hsite, h.current,
          origin?_congr h.path]
    simp only [visitor, hvisit]
  complete _ _ _ := rfl

end Scan

/-! ## Definitions -/

namespace Dialect

variable {d : Dialect} {p q : Nat} {c : Component}

/-- Everything below the root of content is scanned from one state as it is from another. -/
structure ScansAlike (d : Dialect) (p q : Nat) : Prop where
  /-- Wherever two trackers at the states have come from, the same moves, at least one, take them
  to one state, or both off-road. -/
  meets : ∀ {t t' : Tracker Component}, t.machine = d.machine → t'.machine = d.machine →
    t.current = some p → t'.current = some q → ∀ step path,
      ((step :: path).foldl Tracker.move t).current = ((step :: path).foldl Tracker.move t').current
  /-- So they are at one site, and a node there is one reference. -/
  classifies : ∀ {t t' : Tracker Component}, t.machine = d.machine → t'.machine = d.machine →
    t.current = some p → t'.current = some q → ∀ step path,
      ((step :: path).foldl Tracker.move t).site = ((step :: path).foldl Tracker.move t').site ∧
      ∀ o base node, Scan.reference? o base node ((step :: path).foldl Tracker.move t) =
        Scan.reference? o base node ((step :: path).foldl Tracker.move t')
  /-- In every phase a scan from either state does the same with what is below the root. -/
  scans : ∀ (nested : NestedScan) (phase : Phase) (base : Reference) (bound : Nat) (x : Json),
    Walk.children (Walk.node Scan.scope (Scan.visitor nested phase base) bound []) x
        (.start d.machine (some p)) =
      Walk.children (Walk.node Scan.scope (Scan.visitor nested phase base) bound []) x
        (.start d.machine (some q))

theorem scansAlike_of_step_eq (h : d.machine.step p = d.machine.step q) : d.ScansAlike p q := by
  have hmeets : ∀ {t t' : Tracker Component}, t.machine = d.machine → t'.machine = d.machine →
      t.current = some p → t'.current = some q → ∀ step path,
        ((step :: path).foldl Tracker.move t).current =
          ((step :: path).foldl Tracker.move t').current := by
    intro t t' hm hm' hp hq step path
    rw [Tracker.current_moves, Tracker.current_moves, hm, hm', hp, hq]
    exact Machine.run_eq_of_step_eq h step path
  refine ⟨hmeets, fun {t t'} hm hm' hp hq step path => ?_, fun nested phase base bound x => ?_⟩
  · have hmachine : ((step :: path).foldl Tracker.move t).machine =
        ((step :: path).foldl Tracker.move t').machine := by
      rw [Tracker.machine_moves, Tracker.machine_moves, hm, hm']
    have hsite := Tracker.site_eq hmachine (hmeets hm hm' hp hq step path)
    exact ⟨hsite, Scan.reference?_eq hsite⟩
  · have hjoining : (Tracker.start d.machine (some p)).Joining (.start d.machine (some q)) :=
      ⟨rfl, h, rfl⟩
    exact Walk.children_eq
      (fun h x => Walk.node_eq (Scan.ignoresStart_visitor nested phase base) _ bound [] h x)
      hjoining x

/-- Content is scanned where it is defined as it is where it is referred to, and path items inside
callbacks are scanned as others are. -/
theorem definitions_scan_alike :
    (∀ {d : Dialect} {p : Nat} {c : Component}, d.definedAt? p = some c →
      ∃ q, d.state? c = some q ∧ d.machine.tag q = some c ∧ d.ScansAlike p q) ∧
    openApi3.ScansAlike (openApi3.stateOf .callbackPath) (openApi3.stateOf .path) := by
  constructor
  · intro d p c hc
    have hmem := mem_components_of_definedAt? hc
    obtain ⟨kind, hkind, rfl⟩ := List.mem_map.mp hmem
    have hstate : d.state? ⟨d, kind⟩ = some (d.stateOf kind) := if_pos ⟨rfl, hkind⟩
    have htag := state?_eq_some_iff.mp hstate
    exact ⟨_, hstate, htag, scansAlike_of_step_eq (step_eq_of_definition htag hc).symm⟩
  · refine scansAlike_of_step_eq (step_eq_of_edgesAt ?_)
    simpa [callbacksLikePaths, kinds] using openApi3.isRouted.callbacks

/-- A callback is scanned in its container as it is in an operation. -/
theorem callbacks_scan_alike :
    openApi3.definedAt? (openApi3.stateOf .callbackDef) = some ⟨openApi3, .callback⟩ ∧
      openApi3.ScansAlike (openApi3.stateOf .callbackDef) (openApi3.stateOf .callback) := by
  have hdefined : openApi3.definedAt? (openApi3.stateOf .callbackDef) =
      some ⟨openApi3, .callback⟩ := by
    rw [definedAt?, tag_eq]
    decide
  obtain ⟨q, hstate, -, halike⟩ := definitions_scan_alike.1 hdefined
  have hq : some q = some (openApi3.stateOf .callback) := hstate.symm.trans (by decide)
  cases hq
  exact ⟨hdefined, halike⟩

end Dialect

end ApiBundle
