import ApiBundle.Proofs.Dialect.Routes
import ApiBundle.Proofs.Reference.Resolve
import ApiBundle.Proofs.Registry.Calls
import ApiBundle.Proofs.Scan.Steps

/-!
# What scans leave alone

Whatever a scan meets, and however it ends, it keeps the store consistent, it does not touch the
dialect, the options and the source, it only adds to the store, the registry and the notes, and it
gives back the active references as they were. `Session.Evolves` says all of this at once;
`Scan.evolves_scanFrom` proves it for every scan of every bound.

Other relations between states go through a scan in the same way, if steps compose to them and they
hold wherever no entry is made and no reference is finished (`Scan.Carries`): what is left to show
for one of them is what hoisting and collecting do (`Scan.relates_of_visit`,
`Scan.relates_of_scanFrom`).
-/

namespace ApiBundle

/-- A state that a run can come to from another one, between two steps. -/
structure Session.Evolves (s s' : Session) : Prop where
  /-- The store is consistent. -/
  wf : s'.store.WF
  dialect : s'.dialect = s.dialect
  options : s'.options = s.options
  source : s'.source = s.source
  /-- The references being resolved are the same ones. -/
  resolving : s'.resolving = s.resolving
  store : s.store.Extends s'.store
  registry : s.registry.Extends s'.registry
  /-- What was added to the registry is for components of the dialect. -/
  homed : ∀ h ∈ s'.registry.heads, h ∈ s.registry.heads ∨ h.Homed s.dialect
  /-- The registry comes about by calls for components of the dialect. -/
  calls : Registry.Reaches s.dialect s.registry s'.registry
  finalized : s.finalized <+: s'.finalized
  lost : s.lost <+: s'.lost

namespace Session

variable {s s' s'' : Session} {r : Reference}

namespace Evolves

theorem refl (h : s.store.WF) : s.Evolves s :=
  ⟨h, rfl, rfl, rfl, rfl, .refl _, .refl _, fun _ hh => .inl hh, .refl _ _, List.prefix_refl _,
    List.prefix_refl _⟩

theorem trans (h : s.Evolves s') (h' : s'.Evolves s'') : s.Evolves s'' where
  wf := h'.wf
  dialect := h'.dialect.trans h.dialect
  options := h'.options.trans h.options
  source := h'.source.trans h.source
  resolving := h'.resolving.trans h.resolving
  store := h.store.trans h'.store
  registry := h.registry.trans h'.registry
  homed := fun head hhead => by
    rcases h'.homed head hhead with hmid | hnew
    · exact h.homed head hmid
    · exact .inr (h.dialect ▸ hnew)
  calls := h.calls.trans (h.dialect ▸ h'.calls)
  finalized := h.finalized.trans h'.finalized
  lost := h.lost.trans h'.lost

end Evolves

theorem evolves_lose (h : s.store.WF) : s.Evolves (s.lose r) :=
  { Evolves.refl h with wf := h, lost := List.prefix_append _ _ }

theorem evolves_withRegistry {g : Registry} (h : s.store.WF) (hg : g.heads = s.registry.heads)
    (hcalls : Registry.Reaches s.dialect s.registry g) : s.Evolves (s.withRegistry g) :=
  { Evolves.refl h with
    wf := h
    registry := Registry.extends_of_heads_eq hg
    homed := fun _ hh => .inl (hg ▸ hh)
    calls := hcalls }

theorem evolves_refreshed {r : Reference} {node : Json} (h : s.store.WF) :
    s.Evolves (s.refreshed r.id node) :=
  evolves_withRegistry h (Registry.heads_refresh r.id) (.refresh r node)

theorem evolves_localized {raw : Json} {c : Component} {place : Pointer} {base : Uri} {e : Entry}
    {g : Registry} (h : s.store.WF) (hc : c ∈ s.dialect.components)
    (hg : s.registry.localize raw c place base = .ok (e, g)) : s.Evolves (s.withRegistry g) :=
  { Evolves.refl h with
    wf := h
    registry := Registry.extends_localize hg
    homed := Registry.homed_localize hc hg
    calls := .localize hc hg }

theorem evolves_withStore {store : Store} (h : store.WF) (hs : s.store.Extends store) :
    s.Evolves (s.withStore store) where
  wf := h
  dialect := rfl
  options := rfl
  source := rfl
  resolving := rfl
  store := hs
  registry := .refl _
  homed := fun _ hh => .inl hh
  calls := .refl _ _
  finalized := List.prefix_refl _
  lost := List.prefix_refl _

theorem evolves_finish (h : s.store.WF) : s.Evolves (s.finish r) :=
  { Evolves.refl h with wf := h, finalized := List.prefix_append _ _ }

/-- Ending the visit that was begun last gives the active references back. -/
theorem leave_enter (hfree : s.isActive r = false) :
    (s.enter r).resolving.unvisit r.id = s.resolving := by
  have hnot : r.id ∉ s.resolving.active := by
    simpa [isActive, VisitSet.isActive] using hfree
  have hkeep : s.resolving.active.filter (· ≠ r.id) = s.resolving.active := by
    rw [List.filter_eq_self]
    intro i hi
    simpa using fun heq : i = r.id => hnot (heq ▸ hi)
  unfold enter VisitSet.unvisit
  simp only [List.filter_append, hkeep]
  simp

/-- What happens while a reference is being resolved, seen from outside. -/
theorem Evolves.around (hfree : s.isActive r = false) (h : (s.enter r).Evolves s') :
    s.Evolves (s'.leave r) where
  wf := h.wf
  dialect := h.dialect
  options := h.options
  source := h.source
  resolving := by
    show s'.resolving.unvisit r.id = s.resolving
    rw [h.resolving, leave_enter hfree]
  store := h.store
  registry := h.registry
  homed := h.homed
  calls := h.calls
  finalized := h.finalized
  lost := h.lost

theorem Evolves.isActive (h : s.Evolves s') (r : Reference) : s'.isActive r = s.isActive r := by
  unfold Session.isActive
  rw [h.resolving]

/-- A relation that steps compose to, and that says no less than that a state evolves. -/
structure Composes (R : Session → Session → Prop) : Prop where
  evolves : ∀ {s s'}, R s s' → s.Evolves s'
  refl : ∀ {s}, s.store.WF → R s s
  trans : ∀ {s s' s''}, R s s' → R s' s'' → R s s''

theorem composes_evolves : Composes Evolves := ⟨id, .refl, .trans⟩

end Session

namespace Scanning

open Session

variable {α β : Type} {R : Session → Session → Prop}

/-- However a step ends, it leads to a related state. -/
def Relates (R : Session → Session → Prop) (m : Scanning α) : Prop :=
  ∀ s result s', s.store.WF → Ends m s result s' → R s s'

section Relates

variable (hR : Composes R)
include hR

theorem relates_pure (a : α) : Relates R (pure a) := by
  intro s result s' hwf h
  obtain ⟨-, rfl⟩ := ends_pure.mp h
  exact hR.refl hwf

theorem relates_throw (e : BundleError) : Relates R (throw e : Scanning α) := by
  intro s result s' hwf h
  obtain ⟨-, rfl⟩ := ends_throw.mp h
  exact hR.refl hwf

theorem relates_ofExcept (x : Except BundleError α) :
    Relates R (MonadExcept.ofExcept x : Scanning α) := by
  intro s result s' hwf h
  obtain ⟨-, rfl⟩ := ends_ofExcept.mp h
  exact hR.refl hwf

theorem Relates.bind {m : Scanning α} {f : α → Scanning β} (hm : Relates R m)
    (hf : ∀ a, Relates R (f a)) : Relates R (m >>= f) := by
  intro s result s' hwf h
  rcases ends_bind.mp h with ⟨e, he, rfl⟩ | ⟨a, s₁, ha, hrest⟩
  · exact hm s _ s' hwf he
  · have hfirst := hm s _ s₁ hwf ha
    exact hR.trans hfirst (hf a s₁ result s' (hR.evolves hfirst).wf hrest)

omit hR in
theorem Relates.get_bind {f : Session → Scanning α} (hf : ∀ s, Relates R (f s)) :
    Relates R (get >>= f) :=
  fun s result s' hwf h => hf s s result s' hwf (ends_get_bind.mp h)

theorem relates_forM {f : α → Scanning PUnit} (hf : ∀ a, Relates R (f a)) (as : List α) :
    Relates R (as.forM f) := by
  induction as with
  | nil => exact relates_pure hR _
  | cons a as ih => exact Relates.bind hR (hf a) fun _ => ih

theorem relates_mapM {f : α → Scanning β} (hf : ∀ a, Relates R (f a)) (as : List α) :
    Relates R (as.mapM f) := by
  induction as with
  | nil => exact relates_pure hR _
  | cons a as ih =>
    rw [List.mapM_cons]
    exact Relates.bind hR (hf a) fun _ => Relates.bind hR ih fun _ => relates_pure hR _

end Relates

end Scanning

namespace Scan

open Scanning Session

variable {nested : NestedScan} {base : Reference} {node : Json} {r : Reference}
  {t : Tracker Component} {state : Option Nat} {s s' : Session}

/-- Every scan of a kind leaves a consistent store behind and undoes its visits. -/
def NestedEvolves (nested : NestedScan) : Prop :=
  ∀ {id phase start s result s'}, Ends (nested id phase start) s result s' → s.store.WF →
    s.Evolves s'

/--
A relation that holds where no entry is made and no reference is finished, that does not mind what
is being resolved, and that the nested scans of visits have.
-/
structure Carries (R : Session → Session → Prop) (nested : NestedScan) : Prop where
  composes : Composes R
  quiet : ∀ {s s'}, s.Evolves s' → s'.registry.heads = s.registry.heads →
    s'.finalized = s.finalized → R s s'
  around : ∀ {s s' r}, s.isActive r = false → R (s.enter r) s' → R s (s'.leave r)
  nested : ∀ id phase start, phase ≠ .collect → Relates R (nested id phase start)

theorem evolves_of_loads {target : Except Reference ContentId} (hwf : s.store.WF)
    (h : Loads r state s target s') : s.Evolves s' := by
  cases h with
  | found look grows content same valid body =>
    exact evolves_withStore (hwf.grows grows) grows.extends
  | lost look grows content same error =>
    have hs := evolves_withStore (s := s) (hwf.grows grows) grows.extends
    exact hs.trans (evolves_lose hs.wf)

theorem evolves_of_completes {c : Completion} {out : Json × Option BundleError}
    (hwf : s.store.WF) (h : Completes node s c out s') : s.Evolves s' := by
  cases h with
  | refreshed => exact evolves_refreshed hwf
  | entry entry hurl merge =>
    exact evolves_withRegistry hwf (Registry.heads_merge merge) (.merge merge)
  | failed | unplaced | overlaid => exact .refl hwf

/-- A reference is for the component of the site where it is met. -/
theorem component_of_reference? {o : Options} (h : reference? o base node t = some r) :
    r.component = t.site.tag? := by
  obtain ⟨text, -, rfl⟩ := Option.map_eq_some_iff.mp h
  split
  · rfl
  · split
    · rw [Reference.component_expandName, Reference.component_resolve]
    · exact Reference.component_resolve

/-- Scans visit all that is off-road, so what they pass by is not. -/
theorem isOffRoad_of_passed (h : Walk.eligible scope t.site = false) : t.isOffRoad = false := by
  unfold Tracker.site at h
  unfold Tracker.isOffRoad
  cases hcurrent : t.current with
  | none =>
    rw [hcurrent] at h
    cases h
  | some state => rfl

section Steps

variable {R : Session → Session → Prop} (hR : Carries R nested)
include hR

theorem relates_of_loads {target : Except Reference ContentId} (hwf : s.store.WF)
    (h : Loads r state s target s') : R s s' := by
  have hev := evolves_of_loads hwf h
  cases h with
  | found | lost => exact hR.quiet hev rfl rfl

theorem relates_of_lose (hwf : s.store.WF) (r : Reference) : R s (s.lose r) :=
  hR.quiet (evolves_lose hwf) rfl rfl

theorem relates_of_refreshed (hwf : s.store.WF) (r : Reference) (node : Json) :
    R s (s.refreshed r.id node) :=
  hR.quiet (evolves_refreshed hwf) (Registry.heads_refresh _) rfl

theorem relates_of_nests {id : ContentId} {result : Except BundleError (Option Json)}
    (hfree : s.isActive r = false) (hwf : s.store.WF)
    (h : Nests nested r id .load state s result s') : R s s' := by
  obtain ⟨s₁, hends, rfl⟩ := h
  exact hR.around hfree (hR.nested id .load state (by simp) (s.enter r) result s₁ hwf hends)

theorem relates_of_rescans {id : ContentId} {result : Except BundleError (Option Json)}
    (hwf : s.store.WF) (h : Rescans nested id state s result s') : R s s' := by
  have hload {result s'} := hR.nested id .load state (by simp) s result s' hwf
  cases h with
  | unloaded load => exact hload load
  | @settled loaded s₁ s' result load settle =>
    have hwf₁ := (hR.composes.evolves (hload load)).wf
    exact hR.composes.trans (hload load) (hR.nested id .settle state (by simp) s₁ _ s' hwf₁ settle)

theorem relates_of_rescansFor {id : ContentId} {result : Except BundleError (Option Json)}
    (hfree : s.isActive r = false) (hwf : s.store.WF)
    (h : RescansFor nested r id state s result s') : R s s' := by
  obtain ⟨s₁, hscan, rfl⟩ := h
  exact hR.around hfree (relates_of_rescans hR (s := s.enter r) hwf hscan)

/-- What a lookup and a rescan make of a state together. -/
theorem relates_of_loads_rescansFor {id : ContentId} {s₁ : Session}
    {result : Except BundleError (Option Json)} (hfree : s.isActive r = false)
    (hwf : s.store.WF) (look : Loads r state s (.ok id) s₁)
    (scan : RescansFor nested r id state s₁ result s') : R s s' := by
  have hlook := evolves_of_loads hwf look
  exact hR.composes.trans (relates_of_loads hR hwf look)
    (relates_of_rescansFor hR ((hlook.isActive r).trans hfree) hlook.wf scan)

theorem relates_of_splices {answer : Except BundleError (Disposition Completion)}
    (hwf : s.store.WF) (h : Splices nested node r state s answer s') : R s s' := by
  cases h with
  | cycle active => exact relates_of_lose hR hwf _
  | missing free look => exact relates_of_loads hR hwf look
  | failed free look scan | gone free look scan | spliced free look scan =>
    have hlook := evolves_of_loads hwf look
    exact hR.composes.trans (relates_of_loads hR hwf look)
      (relates_of_nests hR ((hlook.isActive r).trans free) hlook.wf scan)

/-- Hoisting makes an entry, scans what is in it, and finishes the reference. -/
theorem relates_of_localizes {answer : Except BundleError (Disposition Completion)}
    (hwf : s.store.WF)
    (hhoist : ∀ {s₁ : Session} {raw c place base e registry}, s.Evolves s₁ →
      r.component = some c → s₁.registry.localize raw c place base = .ok (e, registry) →
      R s₁ (s₁.withRegistry registry))
    (hfinish : ∀ {s : Session}, s.store.WF → R s (s.finish r))
    (h : Localizes nested node r state s answer s') : R s s' := by
  have hentered {id : ContentId} {s₁ : Session} {raw : Json} {c : Component} {place : Pointer}
      {base : Uri} {e : Entry} {registry : Registry} (component : r.component = some c)
      (look : Loads r state s (.ok id) s₁)
      (hoist : s₁.registry.localize raw c place base = .ok (e, registry)) :
      R s (s₁.withRegistry registry) :=
    hR.composes.trans (relates_of_loads hR hwf look)
      (hhoist (evolves_of_loads hwf look) component hoist)
  cases h with
  | bare | known => exact hR.composes.refl hwf
  | missing component entry look | gone component entry look | homeless component entry look =>
    exact relates_of_loads hR hwf look
  | active component entry look tree hurl hoist active => exact hentered component look hoist
  | failed component entry look tree hurl hoist free scan =>
    have hbefore := hentered component look hoist
    exact hR.composes.trans hbefore (relates_of_rescansFor hR
      (((hR.composes.evolves hbefore).isActive r).trans free) (hR.composes.evolves hbefore).wf scan)
  | @hoisted _ _ _ _ _ _ _ _ tree' component entry look tree hurl hoist free scan =>
    have hbefore := hentered component look hoist
    have hscan := hR.composes.trans hbefore (relates_of_rescansFor hR
      (((hR.composes.evolves hbefore).isActive r).trans free) (hR.composes.evolves hbefore).wf scan)
    have hwf₂ := (hR.composes.evolves hscan).wf
    refine hR.composes.trans hscan ?_
    cases tree' with
    | none => exact hfinish hwf₂
    | some y => exact hR.composes.trans (relates_of_refreshed hR hwf₂ r y) (hfinish hwf₂)

theorem relates_of_inlines {conforming : Bool}
    {answer : Except BundleError (Disposition Completion)} (hwf : s.store.WF)
    (hlocal : Localizes nested node r state s answer s' → R s s')
    (h : Inlines nested node r conforming state s answer s') : R s s' := by
  cases h with
  | hoisted active home localize => exact hlocal localize
  | cycle active homeless => exact relates_of_lose hR hwf _
  | missing free look => exact relates_of_loads hR hwf look
  | failed free look scan | gone free look scan =>
    exact relates_of_loads_rescansFor hR free hwf look scan
  | inlined free look scan =>
    have hscan := relates_of_loads_rescansFor hR free hwf look scan
    exact hR.composes.trans hscan (relates_of_refreshed hR (hR.composes.evolves hscan).wf r _)

theorem relates_of_mergeTargets {target : Except BundleError Json} (hwf : s.store.WF)
    (h : MergeTargets nested r state s target s') : R s s' := by
  cases h with
  | cycle active => exact relates_of_lose hR hwf _
  | missing free look => exact relates_of_loads hR hwf look
  | failed free look scan | scanned free look scan =>
    exact relates_of_loads_rescansFor hR free hwf look scan

/-- A visit relates states if hoisting and collecting do. -/
theorem relates_of_visit {phase : Phase} {answer : Except BundleError (Disposition Completion)}
    (hwf : s.store.WF)
    (hcollect : phase = .collect → CollectVisits base node t s answer s' → R s s')
    (hlocal : ∀ {r answer}, reference? s.options base node t = some r →
      r.treatment s.options ≠ .error → r.treatment s.options ≠ .merge →
      Localizes nested node r t.current s answer s' → R s s')
    (h : Ends (visit nested phase base node t) s answer s') : R s s' := by
  cases phase with
  | load =>
    cases load_ends hwf h with
    | plain | merged | kept => exact hR.composes.refl hwf
    | lost ref treatment => exact relates_of_lose hR hwf _
    | spliced ref treatment splice => exact relates_of_splices hR hwf splice
  | collect => exact hcollect rfl (collect_ends h)
  | settle =>
    cases settle_ends hwf h with
    | plain | retained => exact hR.composes.refl hwf
    | lost ref treatment => exact relates_of_lose hR hwf _
    | unmerged ref treatment target => exact relates_of_mergeTargets hR hwf target
    | merged ref treatment found => exact relates_of_mergeTargets hR hwf found
    | localized ref treatment localize =>
      exact hlocal ref (by simp [treatment]) (by simp [treatment]) localize
    | inlined ref treatment inline =>
      exact relates_of_inlines hR hwf (hlocal ref (by rw [treatment]; split <;> simp)
        (by rw [treatment]; split <;> simp)) inline

theorem relates_of_completes {c : Completion} {out : Json × Option BundleError}
    (hwf : s.store.WF) (h : Completes node s c out s') : R s s' := by
  have hev := evolves_of_completes hwf h
  cases h with
  | refreshed => exact hR.quiet hev (Registry.heads_refresh _) rfl
  | entry entry hurl merge => exact hR.quiet hev (Registry.heads_merge merge) rfl
  | failed | unplaced | overlaid => exact hR.composes.refl hwf

end Steps

section Evolving

variable (hnested : NestedEvolves nested)
include hnested

theorem carries_evolves : Carries Evolves nested :=
  ⟨composes_evolves, fun h _ _ => h, .around, fun _ _ _ _ _ _ _ hwf h => hnested h hwf⟩

theorem evolves_of_localizes {answer : Except BundleError (Disposition Completion)}
    (hwf : s.store.WF) (hr : ∀ c, r.component = some c → c ∈ s.dialect.components)
    (h : Localizes nested node r state s answer s') : s.Evolves s' :=
  relates_of_localizes (carries_evolves hnested) hwf
    (fun hev component hoist => evolves_localized hev.wf (hev.dialect ▸ hr _ component) hoist)
    evolves_finish h

/-- No visit does more, in any phase. -/
theorem evolves_of_visit {phase : Phase} {answer : Except BundleError (Disposition Completion)}
    (hwf : s.store.WF) (htag : ∀ c, t.site.tag? = some c → c ∈ s.dialect.components)
    (h : Ends (visit nested phase base node t) s answer s') : s.Evolves s' := by
  refine relates_of_visit (carries_evolves hnested) hwf (fun _ hcollect => ?_)
    (fun ref _ _ localize => evolves_of_localizes hnested hwf
      (fun c hc => htag c (component_of_reference? ref ▸ hc)) localize) h
  cases hcollect with
  | plain | failed => exact .refl hwf
  | collected tag hurl place entry =>
    obtain ⟨c', hc', hdefined⟩ := Option.bind_eq_some_iff.mp tag
    exact evolves_localized hwf (Dialect.mem_components_of_defined? (htag c' hc') hdefined) entry

end Evolving

theorem tag_mem_components {d : Dialect} (hmachine : t.machine = d.machine) :
    ∀ c, t.site.tag? = some c → c ∈ d.components := by
  intro c hc
  unfold Tracker.site at hc
  rw [hmachine] at hc
  split at hc
  · cases hc
  · next state hstate =>
    split at hc
    · next tag htag =>
      cases hc
      exact Dialect.tag_mem_components htag
    · cases hc

/-! ## Walks -/

section Walks

variable {R : Session → Session → Prop} (hR : Composes R) {K : Completion → Prop} {phase : Phase}
include hR

theorem relates_of_finish {pending : List Completion} {out : Json × Option BundleError}
    (hfinishes : ∀ {c x s out s'}, K c → s.store.WF → Completes x s c out s' → R s s')
    (hpending : ∀ c ∈ pending, K c) (hwf : s.store.WF)
    (h : Walk.finish (visitor nested phase base) t pending node s = some (out, s')) : R s s' := by
  induction pending generalizing node s with
  | nil =>
    cases h
    exact hR.refl hwf
  | cons c rest ih =>
    obtain ⟨⟨y, e⟩, s₁, hc, hrest⟩ := Bounded.bind_eq_some.mp h
    have hfirst : R s s₁ := hfinishes (hpending c (List.mem_cons_self ..)) hwf (complete_cases hc)
    cases e with
    | some e =>
      cases hrest
      exact hfirst
    | none =>
      have hlater : ∀ c ∈ rest, K c := fun c hc => hpending c (List.mem_cons_of_mem _ hc)
      exact hR.trans hfirst (ih hlater (hR.evolves hfirst).wf hrest)

theorem relates_of_threaded {kids : List (Segment × Json)} {ys : List Json}
    {e : Option BundleError}
    (h : Walk.Threaded (fun _ t s _ _ s' => s.store.WF → t.machine = s.dialect.machine →
      R s s') t kids s ys e s')
    (hwf : s.store.WF) (hmachine : t.machine = s.dialect.machine) : R s s' := by
  induction h with
  | nil => exact hR.refl hwf
  | fail head => exact head hwf hmachine
  | cons head _ ih =>
    have hhead := head hwf hmachine
    have hev := hR.evolves hhead
    exact hR.trans hhead (ih hev.wf (hev.dialect ▸ hmachine))

/-- A walk relates states as its visits do, and the completions of a kind that these ask for. -/
theorem relates_of_node {bound : Nat} {pending : List Completion} {y : Json}
    {e : Option BundleError}
    (hvisits : ∀ {x t s answer s'}, s.store.WF → t.machine = s.dialect.machine →
      Ends (visit nested phase base x t) s answer s' →
      R s s' ∧ ∀ d, answer = .ok d → ∀ c ∈ d.completion, K c)
    (hfinishes : ∀ {c x s out s'}, K c → s.store.WF → Completes x s c out s' → R s s')
    (hpending : ∀ c ∈ pending, K c) (hwf : s.store.WF) (hmachine : t.machine = s.dialect.machine)
    (h : Walk.node scope (visitor nested phase base) bound pending node t s = some ((y, e), s')) :
    R s s' := by
  have asked {d : Disposition Completion} {pending : List Completion}
      (hd : ∀ d', Except.ok (ε := BundleError) d = .ok d' → ∀ c ∈ d'.completion, K c)
      (hpending : ∀ c ∈ pending, K c) : ∀ c ∈ d.completion.toList ++ pending, K c := by
    intro c hc
    rcases List.mem_append.mp hc with hc | hc
    · exact hd d rfl c (Option.mem_toList.mp hc)
    · exact hpending c hc
  have threaded {t : Tracker Component} {kids : List (Segment × Json)} {s s' : Session}
      {ys : List Json} {e : Option BundleError}
      (hkids : Walk.Threaded (fun _ t s _ _ s' => (∀ c ∈ [], K c) → s.store.WF →
        t.machine = s.dialect.machine → R s s') t kids s ys e s') :=
    relates_of_threaded hR (hkids.mono fun h => h (List.forall_mem_nil _))
  refine Walk.node_induction (motive := fun pending _ t s _ _ s' => (∀ c ∈ pending, K c) →
      s.store.WF → t.machine = s.dialect.machine → R s s')
    ?skip ?pass ?raise ?revisit ?broken ?descend ?done h hpending hwf hmachine
  case skip => exact fun _ _ _ hwf _ => hR.refl hwf
  case pass => exact fun _ _ hkids _ hwf hmachine => threaded hkids hwf hmachine
  case raise => exact fun _ hv _ hwf hmachine => (hvisits hwf hmachine hv).1
  case revisit =>
    intro _ _ _ _ _ _ _ _ _ _ _ hv _ ih hpending hwf hmachine
    obtain ⟨hvisit, hd⟩ := hvisits hwf hmachine hv
    have hev := hR.evolves hvisit
    exact hR.trans hvisit (ih (asked hd hpending) hev.wf (hev.dialect ▸ hmachine))
  case broken =>
    intro _ _ _ _ _ _ _ _ _ _ _ hv _ hkids _ hwf hmachine
    obtain ⟨hvisit, -⟩ := hvisits hwf hmachine hv
    have hev := hR.evolves hvisit
    exact hR.trans hvisit (threaded hkids hev.wf (hev.dialect ▸ hmachine))
  case descend =>
    intro _ _ _ _ _ _ _ _ _ _ _ _ _ hv _ hkids hfinish hpending hwf hmachine
    obtain ⟨hvisit, hd⟩ := hvisits hwf hmachine hv
    have hev := hR.evolves hvisit
    have hbelow := hR.trans hvisit (threaded hkids hev.wf (hev.dialect ▸ hmachine))
    exact hR.trans hbelow (relates_of_finish hR hfinishes (asked hd hpending)
      (hR.evolves hbelow).wf hfinish)
  case done =>
    intro _ _ _ _ _ _ _ _ _ _ _ hv _ hfinish hpending hwf hmachine
    obtain ⟨hvisit, hd⟩ := hvisits hwf hmachine hv
    exact hR.trans hvisit (relates_of_finish hR hfinishes (asked hd hpending)
      (hR.evolves hvisit).wf hfinish)

end Walks

/-- The content that a scan started from can be written at its end. -/
theorem writes_of_scan {id : ContentId} {tree : Json} {s₁ : Session}
    (held : s.store.tree? id = some tree) (h : s.Evolves s₁) (y : Json) :
    Store.Writes s₁.store id y (s₁.store.write id y) := by
  obtain ⟨c, hc, hbody⟩ := content?_of_tree? held
  obtain ⟨c', hc', -, -, hkind⟩ := h.store.content hc
  refine h.wf.write hc' (fun hb => hbody ?_) y
  rw [hb] at hkind
  cases hcb : c.body <;> simp_all [Body.kind]

/-- A scan relates states as its visits do. -/
theorem relates_of_scanFrom {R : Session → Session → Prop} {bound : Nat}
    (hR : Carries R (scanFrom bound)) {id : ContentId} {phase : Phase} {start : Option Nat}
    {result : Except BundleError (Option Json)}
    (hvisits : ∀ {base x t s answer s'}, s.store.WF → t.machine = s.dialect.machine →
      Ends (visit (scanFrom bound) phase base x t) s answer s' → R s s')
    (hwf : s.store.WF) (h : Ends (scanFrom (bound + 1) id phase start) s result s') : R s s' := by
  have walked {c : Content} {tree y : Json} {e : Option BundleError} {s₁ : Session}
      (walk : Walks bound phase c.reference start tree s y e s₁) : R s s₁ :=
    relates_of_node (K := fun _ => True) hR.composes
      (fun hwf hmachine hv => ⟨hvisits hwf hmachine hv, fun _ _ _ _ => trivial⟩)
      (fun _ => relates_of_completes hR) (List.forall_mem_nil _) hwf rfl walk
  cases scanFrom_ends h with
  | empty nothing => exact hR.composes.refl hwf
  | failed content held walk | read content held other walk
  | unwritten content held load walk write => exact walked walk
  | @written c tree y s₁ store content held load walk write =>
    have hwalk := walked walk
    have hev := hR.composes.evolves hwalk
    have hw := writes_of_scan held hev y
    rw [write] at hw
    obtain ⟨hwf', hext⟩ := hw.wf hev.wf
    exact hR.composes.trans hwalk (hR.quiet (evolves_withStore hwf' hext) rfl rfl)

/-- A walk does no more than its visits and completions. -/
theorem evolves_of_node (hnested : NestedEvolves nested) {phase : Phase} {bound : Nat}
    {pending : List Completion} {y : Json} {e : Option BundleError} (hwf : s.store.WF)
    (hmachine : t.machine = s.dialect.machine)
    (h : Walk.node scope (visitor nested phase base) bound pending node t s = some ((y, e), s')) :
    s.Evolves s' :=
  relates_of_node (K := fun _ => True) composes_evolves
    (fun hwf hmachine hv => ⟨evolves_of_visit hnested hwf (tag_mem_components hmachine) hv,
      fun _ _ _ _ => trivial⟩)
    (fun _ => evolves_of_completes) (fun _ _ => trivial) hwf hmachine h

/-- Every scan keeps the store consistent, only adds, and undoes its visits. -/
theorem evolves_scanFrom (bound : Nat) : NestedEvolves (scanFrom bound) := by
  induction bound with
  | zero =>
    intro id phase start s result s' h
    cases h
  | succ bound ih =>
    intro id phase start s result s' h hwf
    exact relates_of_scanFrom (carries_evolves ih)
      (fun hwf hmachine hv => evolves_of_visit ih hwf (tag_mem_components hmachine) hv) hwf h

end Scan

end ApiBundle
