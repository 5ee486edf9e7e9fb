import ApiBundle.Proofs.Ending
import ApiBundle.Proofs.Store.Invariant
import ApiBundle.Proofs.Walk.Induction

/-!
# What visits can do

One case analysis for every step of a scan: the steps around a nested scan, and the visit of a node
in each phase. Each is an inductive relation with one constructor for each way in which the step can
end, and a theorem that there are no others as long as the store is consistent. Everything that is
proved about scans goes through these relations.
-/

namespace ApiBundle

namespace Session

/-- The state while a reference is being resolved. -/
def enter (s : Session) (r : Reference) : Session :=
  { s with resolving := { s.resolving with active := s.resolving.active ++ [r.id] } }

/-- The state after a reference has been resolved. -/
def leave (s : Session) (r : Reference) : Session :=
  { s with resolving := s.resolving.unvisit r.id }

/-- The state after an invalid reference was noted. -/
def lose (s : Session) (r : Reference) : Session := { s with lost := s.lost ++ [r] }

/-- The state with another store. -/
def withStore (s : Session) (store : Store) : Session := { s with store := store }

/-- The state with another registry. -/
def withRegistry (s : Session) (registry : Registry) : Session := { s with registry := registry }

/-- The state after the entry for an identity, if there is one, was given other content. -/
def refreshed (s : Session) (i : RefId) (node : Json) : Session :=
  s.withRegistry (s.registry.refresh i node)

/-- The state after the content of a reference was finished. -/
def finish (s : Session) (r : Reference) : Session :=
  { s with finalized := s.finalized ++ [r.id] }

/-- Whether a reference is being resolved. -/
def isActive (s : Session) (r : Reference) : Bool := s.resolving.isActive r.id

end Session

namespace Scanning

variable {α : Type} {s s' : Session} {result : Except BundleError α}

theorem ends_isResolving {r : Reference} : Ends (isResolving r) s (.ok (s.isActive r)) s := by
  unfold isResolving
  rw [ends_get_bind, ends_pure]
  exact ⟨rfl, rfl⟩

@[simp] theorem ends_isResolving_bind {r : Reference} {f : Bool → Scanning α} :
    Ends (isResolving r >>= f) s result s' ↔ Ends (f (s.isActive r)) s result s' :=
  ends_bind_of ends_isResolving

@[simp] theorem ends_lose_bind {r : Reference} {f : Unit → Scanning α} :
    Ends (lose r >>= f) s result s' ↔ Ends (f ()) (s.lose r) result s' := ends_modify_bind

@[simp] theorem ends_setRegistry {g : Registry} {u : Except BundleError Unit} :
    Ends (setRegistry g) s u s' ↔ u = .ok () ∧ s' = s.withRegistry g := ends_modify

@[simp] theorem ends_setRegistry_bind {g : Registry} {f : Unit → Scanning α} :
    Ends (setRegistry g >>= f) s result s' ↔ Ends (f ()) (s.withRegistry g) result s' :=
  ends_modify_bind

@[simp] theorem ends_refreshEntry {i : RefId} {node : Json} {u : Except BundleError Unit} :
    Ends (refreshEntry i node) s u s' ↔ u = .ok () ∧ s' = s.refreshed i node := ends_modify

@[simp] theorem ends_refreshEntry_bind {i : RefId} {node : Json} {f : Unit → Scanning α} :
    Ends (refreshEntry i node >>= f) s result s' ↔ Ends (f ()) (s.refreshed i node) result s' :=
  ends_modify_bind

theorem ends_onStore {f : Session → Except BundleError ContentId × Store}
    {id : Except BundleError ContentId} :
    Ends (onStore f) s id s' ↔ id = (f s).1 ∧ s' = s.withStore (f s).2 := by
  unfold onStore
  rw [ends_get_bind, ends_set_bind, ends_ofExcept]
  rfl

/-- A step for a reference that is not being resolved runs while it is. -/
theorem ends_resolving {r : Reference} {step : Scanning α} (hfree : s.isActive r = false) :
    Ends (resolving r step) s result s' ↔
      ∃ s₁, Ends step (s.enter r) result s₁ ∧ s' = s₁.leave r := by
  have hvisit : s.resolving.visit r.id = (.ok true, (s.enter r).resolving) := by
    unfold VisitSet.visit
    rw [if_neg (by simpa [Session.isActive] using hfree)]
    rfl
  unfold Scanning.resolving
  rw [ends_get_bind, hvisit]
  simp only [ends_set_bind]
  constructor
  · intro h
    obtain ⟨result', s₁, hstep, hlast⟩ := Bounded.bind_eq_some.mp h
    obtain ⟨_, s₂, hmod, hpure⟩ := Bounded.bind_eq_some.mp hlast
    cases hmod
    cases hpure
    exact ⟨s₁, hstep, rfl⟩
  · rintro ⟨s₁, hstep, rfl⟩
    exact Bounded.bind_eq_some.mpr ⟨result, s₁, hstep,
      Bounded.bind_eq_some.mpr ⟨_, _, rfl, rfl⟩⟩

/-! ## Looking targets up -/

/-- The ways in which the lookup of a target ends: with its content, or with a note. -/
inductive Loads (r : Reference) (start : Option Nat) (s : Session) :
    Except Reference ContentId → Session → Prop where
  | found {id : ContentId} {c : Content} {store : Store}
      (look : s.store.load s.source r start = (.ok id, store))
      (grows : Store.Grows s.source s.store store) (content : store.content? id = some c)
      (same : c.reference.id = r.id) (valid : c.reference.error = none)
      (body : c.body ≠ .invalid) : Loads r start s (.ok id) (s.withStore store)
  | lost {id : ContentId} {c : Content} {store : Store} {e : ReferenceError}
      (look : s.store.load s.source r start = (.ok id, store))
      (grows : Store.Grows s.source s.store store) (content : store.content? id = some c)
      (same : c.reference.id = r.id) (error : c.reference.error = some e) :
      Loads r start s (.error (r.markInvalid e)) ((s.withStore store).lose (r.markInvalid e))

/-- With a consistent store, the lookup of a target ends, and in one of these ways. -/
theorem loadTarget_ends (h : s.store.WF) (r : Reference) (start : Option Nat) :
    ∃ target s₁, Ends (loadTarget r start) s (.ok target) s₁ ∧ Loads r start s target s₁ := by
  obtain ⟨id, hid, hgrows, hfound⟩ := h.load s.source r start
  cases hlook : s.store.load s.source r start with
  | mk result store =>
    rw [hlook] at hid hgrows hfound
    simp only at hid hgrows hfound
    subst hid
    have hwf := h.grows hgrows
    obtain ⟨c, hc, hcid⟩ := hwf.cached hfound
    have hcontent : Ends (loadContent r start) s (.ok id) (s.withStore store) := by
      unfold loadContent onStore
      rw [ends_get_bind]
      simp only [hlook, ends_set_bind]
      exact ends_ofExcept.mpr ⟨rfl, rfl⟩
    have hstore : (s.withStore store).store.content? id = some c := hc
    unfold loadTarget
    cases herr : c.reference.error with
    | some e =>
      refine ⟨_, _, ?_, .lost hlook hgrows hc hcid herr⟩
      rw [ends_bind_of hcontent, ends_get_bind, hstore]
      simp only [herr, ends_lose_bind, ends_pure, and_self]
    | none =>
      have hbody : c.body ≠ .invalid := by
        intro hb
        have hsome := (hwf.faulty hc).mp hb
        rw [herr] at hsome
        cases hsome
      refine ⟨_, _, ?_, .found hlook hgrows hc hcid herr hbody⟩
      rw [ends_bind_of hcontent, ends_get_bind, hstore]
      simp [herr, Content.isValid, hbody]

/-- Inverts the lookup of a target at the head of a step. -/
theorem loads_of_bind (h : s.store.WF) {r : Reference} {start : Option Nat}
    {f : Except Reference ContentId → Scanning α}
    (hf : Ends (loadTarget r start >>= f) s result s') :
    ∃ target s₁, Loads r start s target s₁ ∧ Ends (f target) s₁ result s' := by
  obtain ⟨target, s₁, hends, hloads⟩ := loadTarget_ends h r start
  exact ⟨target, s₁, hloads, (ends_bind_of hends).mp hf⟩

end Scanning

namespace Scan

open Scanning

variable {nested : NestedScan} {base : Reference} {node : Json} {r : Reference}
  {t : Tracker Component} {state : Option Nat} {s s' : Session}
  {answer : Except BundleError (Disposition Completion)}

/-- A nested scan for a reference ends. -/
def Nests (nested : NestedScan) (r : Reference) (id : ContentId) (phase : Phase)
    (start : Option Nat) (s : Session) (result : Except BundleError (Option Json))
    (s' : Session) : Prop :=
  ∃ s₁, Ends (nested id phase start) (s.enter r) result s₁ ∧ s' = s₁.leave r

/-- The ways in which a content is loaded and settled. -/
inductive Rescans (nested : NestedScan) (id : ContentId) (start : Option Nat) (s : Session) :
    Except BundleError (Option Json) → Session → Prop where
  | unloaded {e : BundleError} {s' : Session}
      (load : Ends (nested id .load start) s (.error e) s') :
      Rescans nested id start s (.error e) s'
  | settled {loaded : Option Json} {s₁ s' : Session} {result : Except BundleError (Option Json)}
      (load : Ends (nested id .load start) s (.ok loaded) s₁)
      (settle : Ends (nested id .settle start) s₁ result s') : Rescans nested id start s result s'

theorem rescan_ends {id : ContentId} {result : Except BundleError (Option Json)} :
    Ends (rescan nested id state) s result s' ↔ Rescans nested id state s result s' := by
  unfold rescan
  rw [ends_bind]
  constructor
  · rintro (⟨e, hload, rfl⟩ | ⟨loaded, s₁, hload, hsettle⟩)
    · exact .unloaded hload
    · exact .settled hload hsettle
  · intro h
    cases h with
    | unloaded load => exact .inl ⟨_, load, rfl⟩
    | settled load settle => exact .inr ⟨_, _, load, settle⟩

/-- A content is loaded and settled for a reference. -/
def RescansFor (nested : NestedScan) (r : Reference) (id : ContentId) (start : Option Nat)
    (s : Session) (result : Except BundleError (Option Json)) (s' : Session) : Prop :=
  ∃ s₁, Rescans nested id start (s.enter r) result s₁ ∧ s' = s₁.leave r

theorem resolving_rescan_ends {id : ContentId} {result : Except BundleError (Option Json)}
    (hfree : s.isActive r = false) :
    Ends (resolving r (rescan nested id state)) s result s' ↔
      RescansFor nested r id state s result s' := by
  rw [ends_resolving hfree]
  simp only [rescan_ends, RescansFor]

/-! ## Loading -/

/-- The ways in which a reference is put in its place while loading. -/
inductive Splices (nested : NestedScan) (node : Json) (r : Reference) (state : Option Nat)
    (s : Session) : Except BundleError (Disposition Completion) → Session → Prop where
  | cycle (active : s.isActive r = true) :
      Splices nested node r state s (.ok (.doneWith (adorned node (inCycle r))))
        (s.lose (inCycle r))
  | missing {r' : Reference} {s₁ : Session} (free : s.isActive r = false)
      (look : Loads r state s (.error r') s₁) :
      Splices nested node r state s (.ok (.doneWith (adorned node r'))) s₁
  | failed {id : ContentId} {s₁ s' : Session} {e : BundleError} (free : s.isActive r = false)
      (look : Loads r state s (.ok id) s₁)
      (scan : Nests nested r id .load state s₁ (.error e) s') :
      Splices nested node r state s (.error e) s'
  | gone {id : ContentId} {s₁ s' : Session} (free : s.isActive r = false)
      (look : Loads r state s (.ok id) s₁)
      (scan : Nests nested r id .load state s₁ (.ok none) s') :
      Splices nested node r state s (.ok (.doneWith (adorned node r))) s'
  | spliced {id : ContentId} {s₁ s' : Session} {tree : Json} (free : s.isActive r = false)
      (look : Loads r state s (.ok id) s₁)
      (scan : Nests nested r id .load state s₁ (.ok (some tree)) s') :
      Splices nested node r state s (.ok (.revisit tree)) s'

/-- What a lookup leaves of the active references. -/
theorem isActive_of_loads {target : Except Reference ContentId} {s₁ : Session}
    (h : Loads r state s target s₁) (r' : Reference) : s₁.isActive r' = s.isActive r' := by
  cases h <;> rfl

theorem registry_of_loads {target : Except Reference ContentId} {s₁ : Session}
    (h : Loads r state s target s₁) : s₁.registry = s.registry := by
  cases h <;> rfl

theorem splice_ends (hwf : s.store.WF) (h : Ends (splice nested node r state) s answer s') :
    Splices nested node r state s answer s' := by
  unfold splice at h
  rw [ends_isResolving_bind] at h
  cases hactive : s.isActive r with
  | true =>
    simp only [hactive, if_true, ends_lose_bind, ends_pure] at h
    obtain ⟨rfl, rfl⟩ := h
    exact .cycle hactive
  | false =>
    simp only [hactive, Bool.false_eq_true, if_false] at h
    obtain ⟨target, s₁, hlook, h⟩ := loads_of_bind hwf h
    cases target with
    | error r' =>
      simp only [ends_pure] at h
      obtain ⟨rfl, rfl⟩ := h
      exact .missing hactive hlook
    | ok id =>
      have hfree : s₁.isActive r = false := by rw [isActive_of_loads hlook, hactive]
      simp only [ends_bind, ends_resolving hfree] at h
      rcases h with ⟨e, hscan, rfl⟩ | ⟨tree, s₂, hscan, h⟩
      · exact .failed hactive hlook hscan
      · cases tree with
        | none =>
          simp only [ends_pure] at h
          obtain ⟨rfl, rfl⟩ := h
          exact .gone hactive hlook hscan
        | some tree =>
          simp only [ends_pure] at h
          obtain ⟨rfl, rfl⟩ := h
          exact .spliced hactive hlook hscan

/-- The ways in which a node is visited while loading. -/
inductive LoadVisits (nested : NestedScan) (base : Reference) (node : Json)
    (t : Tracker Component) (s : Session) :
    Except BundleError (Disposition Completion) → Session → Prop where
  | plain (ref : reference? s.options base node t = none) :
      LoadVisits nested base node t s (.ok .descend) s
  | lost {r : Reference} (ref : reference? s.options base node t = some r)
      (treatment : r.treatment s.options = .error) :
      LoadVisits nested base node t s (.ok (.doneWith (adorned node r))) (s.lose r)
  | merged {r : Reference} (ref : reference? s.options base node t = some r)
      (treatment : r.treatment s.options = .merge) :
      LoadVisits nested base node t s (.ok (.descendInto (adorned node r))) s
  | kept {r : Reference} (ref : reference? s.options base node t = some r)
      (treatment : r.treatment s.options = .inlineConforming ∨
        r.treatment s.options = .localize ∨ r.treatment s.options = .retain) :
      LoadVisits nested base node t s (.ok (.doneWith (adorned node r))) s
  | spliced {r : Reference} {answer : Except BundleError (Disposition Completion)} {s' : Session}
      (ref : reference? s.options base node t = some r)
      (treatment : r.treatment s.options = .inlineNonconforming)
      (splice : Splices nested node r t.current s answer s') :
      LoadVisits nested base node t s answer s'

theorem load_ends (hwf : s.store.WF) (h : Ends (load nested base node t) s answer s') :
    LoadVisits nested base node t s answer s' := by
  unfold load at h
  rw [ends_get_bind] at h
  cases href : reference? s.options base node t with
  | none =>
    simp only [href, ends_pure] at h
    obtain ⟨rfl, rfl⟩ := h
    exact .plain href
  | some r =>
    simp only [href] at h
    cases htreat : r.treatment s.options with
    | error =>
      simp only [htreat, ends_lose_bind, ends_pure] at h
      obtain ⟨rfl, rfl⟩ := h
      exact .lost href htreat
    | merge =>
      simp only [htreat, ends_pure] at h
      obtain ⟨rfl, rfl⟩ := h
      exact .merged href htreat
    | inlineNonconforming =>
      simp only [htreat] at h
      exact .spliced href htreat (splice_ends hwf h)
    | inlineConforming | localize | retain =>
      simp only [htreat, ends_pure] at h
      obtain ⟨rfl, rfl⟩ := h
      exact .kept href (by simp [htreat])

/-! ## Collecting -/

/-- The ways in which a node is visited while collecting. -/
inductive CollectVisits (base : Reference) (node : Json) (t : Tracker Component) (s : Session) :
    Except BundleError (Disposition Completion) → Session → Prop where
  | plain (other : t.site.tag?.bind Component.defined? = none ∨ base.url = none) :
      CollectVisits base node t s (.ok .descend) s
  | failed {c : Component} {url : Uri} {origin : Reference} {e : BundleError}
      (tag : t.site.tag?.bind Component.defined? = some c) (hurl : base.url = some url)
      (place : origin? base t = some origin)
      (entry : s.registry.localize (if c.info.merge then node.withoutRef else node) c
        origin.pointer url = .error e) : CollectVisits base node t s (.error e) s
  | collected {c : Component} {url : Uri} {origin : Reference} {e : Entry} {registry : Registry}
      (tag : t.site.tag?.bind Component.defined? = some c) (hurl : base.url = some url)
      (place : origin? base t = some origin)
      (entry : s.registry.localize (if c.info.merge then node.withoutRef else node) c
        origin.pointer url = .ok (e, registry)) :
      CollectVisits base node t s (.ok .done) (s.withRegistry registry)

theorem collect_ends (h : Ends (collect base node t) s answer s') :
    CollectVisits base node t s answer s' := by
  unfold collect at h
  cases htag : t.site.tag?.bind Component.defined? with
  | none =>
    simp only [htag, ends_pure] at h
    obtain ⟨rfl, rfl⟩ := h
    exact .plain (.inl htag)
  | some c =>
    cases hurl : base.url with
    | none =>
      simp only [htag, hurl, ends_pure] at h
      obtain ⟨rfl, rfl⟩ := h
      exact .plain (.inr hurl)
    | some url =>
      have hplace : origin? base t = some (.atPointer url (base.pointer.join t.pointer)) := by
        simp [origin?, hurl]
      simp only [htag, hurl, hplace] at h
      rw [ends_get_bind, ends_bind] at h
      simp only [ends_ofExcept] at h
      rcases h with ⟨e, ⟨hentry, rfl⟩, rfl⟩ | ⟨⟨e, registry⟩, s₁, ⟨hentry, rfl⟩, h⟩
      · exact .failed htag hurl hplace hentry.symm
      · simp only [ends_setRegistry_bind, ends_pure] at h
        obtain ⟨rfl, rfl⟩ := h
        exact .collected htag hurl hplace hentry.symm

/-! ## Settling -/

/-- The state after the content of an entry was rescanned. -/
def hoisted (s : Session) (r : Reference) (tree : Option Json) : Session :=
  (match tree with
    | some tree => s.refreshed r.id tree
    | none => s).finish r

/-- The ways in which a reference is hoisted. -/
inductive Localizes (nested : NestedScan) (node : Json) (r : Reference) (state : Option Nat)
    (s : Session) : Except BundleError (Disposition Completion) → Session → Prop where
  | bare (component : r.component = none) :
      Localizes nested node r state s (.ok (.doneWith node.withoutAdornment)) s
  | known {c : Component} {e : Entry} (component : r.component = some c)
      (entry : settledEntry? s r = some e) :
      Localizes nested node r state s (.ok (.doneWith e.refNode)) s
  | missing {c : Component} {r' : Reference} {s₁ : Session} (component : r.component = some c)
      (entry : settledEntry? s r = none) (look : Loads r state s (.error r') s₁) :
      Localizes nested node r state s (.ok (.doneWith node.withoutAdornment)) s₁
  | gone {c : Component} {id : ContentId} {s₁ : Session} (component : r.component = some c)
      (entry : settledEntry? s r = none) (look : Loads r state s (.ok id) s₁)
      (nowhere : s₁.store.tree? id = none ∨ r.url = none) :
      Localizes nested node r state s (.ok (.doneWith node.withoutAdornment)) s₁
  | homeless {c : Component} {id : ContentId} {s₁ : Session} {raw : Json} {url : Uri}
      {e : BundleError} (component : r.component = some c) (entry : settledEntry? s r = none)
      (look : Loads r state s (.ok id) s₁) (tree : s₁.store.tree? id = some raw)
      (hurl : r.url = some url) (hoist : s₁.registry.localize raw c r.pointer url = .error e) :
      Localizes nested node r state s (.error e) s₁
  | active {c : Component} {id : ContentId} {s₁ : Session} {raw : Json} {url : Uri} {e : Entry}
      {registry : Registry} (component : r.component = some c) (entry : settledEntry? s r = none)
      (look : Loads r state s (.ok id) s₁) (tree : s₁.store.tree? id = some raw)
      (hurl : r.url = some url)
      (hoist : s₁.registry.localize raw c r.pointer url = .ok (e, registry))
      (active : s.isActive r = true) :
      Localizes nested node r state s (.ok (.doneWith e.refNode)) (s₁.withRegistry registry)
  | failed {c : Component} {id : ContentId} {s₁ s' : Session} {raw : Json} {url : Uri} {e : Entry}
      {registry : Registry} {fault : BundleError} (component : r.component = some c)
      (entry : settledEntry? s r = none) (look : Loads r state s (.ok id) s₁)
      (tree : s₁.store.tree? id = some raw) (hurl : r.url = some url)
      (hoist : s₁.registry.localize raw c r.pointer url = .ok (e, registry))
      (free : s.isActive r = false)
      (scan : RescansFor nested r id state (s₁.withRegistry registry) (.error fault) s') :
      Localizes nested node r state s (.error fault) s'
  | hoisted {c : Component} {id : ContentId} {s₁ s₂ : Session} {raw : Json} {url : Uri}
      {e : Entry} {registry : Registry} {tree' : Option Json} (component : r.component = some c)
      (entry : settledEntry? s r = none) (look : Loads r state s (.ok id) s₁)
      (tree : s₁.store.tree? id = some raw) (hurl : r.url = some url)
      (hoist : s₁.registry.localize raw c r.pointer url = .ok (e, registry))
      (free : s.isActive r = false)
      (scan : RescansFor nested r id state (s₁.withRegistry registry) (.ok tree') s₂) :
      Localizes nested node r state s (.ok (.doneWith e.refNode)) (hoisted s₂ r tree')

theorem localize_ends (hwf : s.store.WF) (h : Ends (localize nested node r state) s answer s') :
    Localizes nested node r state s answer s' := by
  unfold localize at h
  rw [ends_get_bind] at h
  cases hc : r.component with
  | none =>
    simp only [hc, ends_pure] at h
    obtain ⟨rfl, rfl⟩ := h
    exact .bare hc
  | some c =>
    cases hentry : settledEntry? s r with
    | some e =>
      simp only [hc, hentry, ends_pure] at h
      obtain ⟨rfl, rfl⟩ := h
      exact .known hc hentry
    | none =>
      simp only [hc, hentry] at h
      obtain ⟨target, s₁, hlook, h⟩ := loads_of_bind hwf h
      cases target with
      | error r' =>
        simp only [ends_pure] at h
        obtain ⟨rfl, rfl⟩ := h
        exact .missing hc hentry hlook
      | ok id =>
        simp only at h
        rw [ends_get_bind] at h
        cases htree : s₁.store.tree? id with
        | none =>
          simp only [htree, ends_pure] at h
          obtain ⟨rfl, rfl⟩ := h
          exact .gone hc hentry hlook (.inl htree)
        | some raw =>
          cases hurl : r.url with
          | none =>
            simp only [htree, hurl, ends_pure] at h
            obtain ⟨rfl, rfl⟩ := h
            exact .gone hc hentry hlook (.inr hurl)
          | some url =>
            simp only [htree, hurl] at h
            rw [ends_get_bind, ends_bind] at h
            simp only [ends_ofExcept] at h
            rcases h with ⟨e, ⟨hhoist, rfl⟩, rfl⟩ | ⟨⟨e, registry⟩, s₂, ⟨hhoist, rfl⟩, h⟩
            · exact .homeless hc hentry hlook htree hurl hhoist.symm
            · simp only [ends_setRegistry_bind, ends_isResolving_bind] at h
              have hsame : (s₂.withRegistry registry).isActive r = s.isActive r :=
                isActive_of_loads hlook r
              rw [hsame] at h
              cases hactive : s.isActive r with
              | true =>
                simp only [hactive, if_true, ends_pure] at h
                obtain ⟨rfl, rfl⟩ := h
                exact .active hc hentry hlook htree hurl hhoist.symm hactive
              | false =>
                simp only [hactive, Bool.false_eq_true, if_false] at h
                rw [ends_bind] at h
                simp only [resolving_rescan_ends (hsame.trans hactive)] at h
                rcases h with ⟨fault, hscan, rfl⟩ | ⟨tree', s₃, hscan, h⟩
                · exact .failed hc hentry hlook htree hurl hhoist.symm hactive hscan
                · have hlast : answer = .ok (.doneWith e.refNode) ∧ s' = hoisted s₃ r tree' := by
                    cases tree' with
                    | none =>
                      simp only [ends_modify_bind, ends_pure] at h
                      exact h
                    | some tree' =>
                      simp only [ends_refreshEntry_bind, ends_modify_bind, ends_pure] at h
                      exact h
                  obtain ⟨rfl, rfl⟩ := hlast
                  exact .hoisted hc hentry hlook htree hurl hhoist.symm hactive hscan

/-- The ways in which a reference is put in its place while settling. -/
inductive Inlines (nested : NestedScan) (node : Json) (r : Reference) (conforming : Bool)
    (state : Option Nat) (s : Session) :
    Except BundleError (Disposition Completion) → Session → Prop where
  | hoisted {answer : Except BundleError (Disposition Completion)} {s' : Session}
      (active : s.isActive r = true)
      (home : conforming = true ∧ (r.component.bind Component.container?).isSome)
      (localize : Localizes nested node r state s answer s') :
      Inlines nested node r conforming state s answer s'
  | cycle (active : s.isActive r = true)
      (homeless : ¬(conforming = true ∧ (r.component.bind Component.container?).isSome)) :
      Inlines nested node r conforming state s (.ok (.doneWith node.withoutAdornment))
        (s.lose (inCycle r))
  | missing {r' : Reference} {s₁ : Session} (free : s.isActive r = false)
      (look : Loads r state s (.error r') s₁) :
      Inlines nested node r conforming state s (.ok (.doneWith node.withoutAdornment)) s₁
  | failed {id : ContentId} {s₁ s' : Session} {e : BundleError} (free : s.isActive r = false)
      (look : Loads r state s (.ok id) s₁) (scan : RescansFor nested r id state s₁ (.error e) s') :
      Inlines nested node r conforming state s (.error e) s'
  | gone {id : ContentId} {s₁ s' : Session} (free : s.isActive r = false)
      (look : Loads r state s (.ok id) s₁)
      (scan : RescansFor nested r id state s₁ (.ok none) s') :
      Inlines nested node r conforming state s (.ok (.doneWith node.withoutAdornment)) s'
  | inlined {id : ContentId} {s₁ s' : Session} {tree : Json} (free : s.isActive r = false)
      (look : Loads r state s (.ok id) s₁)
      (scan : RescansFor nested r id state s₁ (.ok (some tree)) s') :
      Inlines nested node r conforming state s (.ok (.doneWith tree)) (s'.refreshed r.id tree)

theorem inline_ends {conforming : Bool} (hwf : s.store.WF)
    (h : Ends (inline nested node r conforming state) s answer s') :
    Inlines nested node r conforming state s answer s' := by
  unfold inline at h
  simp only [ends_isResolving_bind] at h
  cases hactive : s.isActive r with
  | true =>
    simp only [hactive, if_true, Bool.and_eq_true] at h
    by_cases hhome : conforming = true ∧ (r.component.bind Component.container?).isSome
    · rw [if_pos hhome] at h
      exact .hoisted hactive hhome (localize_ends hwf h)
    · rw [if_neg hhome] at h
      simp only [ends_lose_bind, ends_pure] at h
      obtain ⟨rfl, rfl⟩ := h
      exact .cycle hactive hhome
  | false =>
    simp only [hactive, Bool.false_eq_true, if_false] at h
    obtain ⟨target, s₁, hlook, h⟩ := loads_of_bind hwf h
    cases target with
    | error r' =>
      simp only [ends_pure] at h
      obtain ⟨rfl, rfl⟩ := h
      exact .missing hactive hlook
    | ok id =>
      have hfree : s₁.isActive r = false := by rw [isActive_of_loads hlook, hactive]
      simp only at h
      rw [ends_bind] at h
      simp only [resolving_rescan_ends hfree] at h
      rcases h with ⟨e, hscan, rfl⟩ | ⟨tree, s₂, hscan, h⟩
      · exact .failed hactive hlook hscan
      · cases tree with
        | none =>
          simp only [ends_pure] at h
          obtain ⟨rfl, rfl⟩ := h
          exact .gone hactive hlook hscan
        | some tree =>
          simp only [ends_refreshEntry_bind, ends_pure] at h
          obtain ⟨rfl, rfl⟩ := h
          exact .inlined hactive hlook hscan

/-- The ways in which the target of a merged reference is found. -/
inductive MergeTargets (nested : NestedScan) (r : Reference) (state : Option Nat) (s : Session) :
    Except BundleError Json → Session → Prop where
  | cycle (active : s.isActive r = true) :
      MergeTargets nested r state s (.ok r.plainNode) (s.lose (inCycle r))
  | missing {r' : Reference} {s₁ : Session} (free : s.isActive r = false)
      (look : Loads r state s (.error r') s₁) :
      MergeTargets nested r state s (.ok r.plainNode) s₁
  | failed {id : ContentId} {s₁ s' : Session} {e : BundleError} (free : s.isActive r = false)
      (look : Loads r state s (.ok id) s₁) (scan : RescansFor nested r id state s₁ (.error e) s') :
      MergeTargets nested r state s (.error e) s'
  | scanned {id : ContentId} {s₁ s' : Session} {tree : Option Json} (free : s.isActive r = false)
      (look : Loads r state s (.ok id) s₁) (scan : RescansFor nested r id state s₁ (.ok tree) s') :
      MergeTargets nested r state s (.ok (tree.getD r.plainNode)) s'

theorem mergeTarget_ends {target : Except BundleError Json} (hwf : s.store.WF)
    (h : Ends (mergeTarget nested r state) s target s') :
    MergeTargets nested r state s target s' := by
  unfold mergeTarget at h
  simp only [ends_isResolving_bind] at h
  cases hactive : s.isActive r with
  | true =>
    simp only [hactive, if_true, ends_lose_bind, ends_pure] at h
    obtain ⟨rfl, rfl⟩ := h
    exact .cycle hactive
  | false =>
    simp only [hactive, Bool.false_eq_true, if_false] at h
    obtain ⟨found, s₁, hlook, h⟩ := loads_of_bind hwf h
    cases found with
    | error r' =>
      simp only [ends_pure] at h
      obtain ⟨rfl, rfl⟩ := h
      exact .missing hactive hlook
    | ok id =>
      have hfree : s₁.isActive r = false := by rw [isActive_of_loads hlook, hactive]
      simp only at h
      rw [ends_bind] at h
      simp only [resolving_rescan_ends hfree, ends_pure] at h
      rcases h with ⟨e, hscan, rfl⟩ | ⟨tree, s₂, hscan, rfl, rfl⟩
      · exact .failed hactive hlook hscan
      · exact .scanned hactive hlook hscan

/-- The completion that a definition gets: its entry is to be refreshed. -/
def refresh? (base : Reference) (t : Tracker Component) : Option Completion :=
  if t.site.tag?.any fun c => c.info.defines.isSome then (origin? base t).map Completion.refresh
  else none

/-- The same answer with a completion, unless it is a failure. -/
def completing (completion : Option Completion) :
    Except BundleError (Disposition Completion) → Except BundleError (Disposition Completion) :=
  Except.map (·.andThen completion)

/-- The ways in which a node is visited while settling. -/
inductive SettleVisits (nested : NestedScan) (base : Reference) (node : Json)
    (t : Tracker Component) (s : Session) :
    Except BundleError (Disposition Completion) → Session → Prop where
  | plain (ref : reference? s.options base node t = none) :
      SettleVisits nested base node t s (.ok (Disposition.descend.andThen (refresh? base t))) s
  | lost {r : Reference} (ref : reference? s.options base node t = some r)
      (treatment : r.treatment s.options = .error) :
      SettleVisits nested base node t s
        (.ok ((Disposition.doneWith node.withoutAdornment).andThen (refresh? base t))) (s.lose r)
  | retained {r : Reference} (ref : reference? s.options base node t = some r)
      (treatment : r.treatment s.options = .retain) :
      SettleVisits nested base node t s
        (.ok ((Disposition.doneWith node.withoutAdornment).andThen (refresh? base t))) s
  | unmerged {r : Reference} {e : BundleError} {s' : Session}
      (ref : reference? s.options base node t = some r)
      (treatment : r.treatment s.options = .merge)
      (target : MergeTargets nested r t.current s (.error e) s') :
      SettleVisits nested base node t s (.error e) s'
  | merged {r : Reference} {target : Json} {s' : Session}
      (ref : reference? s.options base node t = some r)
      (treatment : r.treatment s.options = .merge)
      (found : MergeTargets nested r t.current s (.ok target) s') :
      SettleVisits nested base node t s (.ok ((Disposition.revisit node.withoutRef).andThen
        (some (.merge target (origin? base t) r.plainNode)))) s'
  | localized {r : Reference} {answer : Except BundleError (Disposition Completion)}
      {s' : Session} (ref : reference? s.options base node t = some r)
      (treatment : r.treatment s.options = .localize)
      (localize : Localizes nested node r t.current s answer s') :
      SettleVisits nested base node t s (completing (refresh? base t) answer) s'
  | inlined {r : Reference} {conforming : Bool}
      {answer : Except BundleError (Disposition Completion)} {s' : Session}
      (ref : reference? s.options base node t = some r)
      (treatment : r.treatment s.options =
        if conforming then .inlineConforming else .inlineNonconforming)
      (inline : Inlines nested node r conforming t.current s answer s') :
      SettleVisits nested base node t s (completing (refresh? base t) answer) s'

/-- Adds a completion to the answer of a step. -/
theorem ends_andThen {m : Scanning (Disposition Completion)} {completion : Option Completion}
    (h : Ends (m >>= fun d => pure (d.andThen completion)) s answer s') :
    ∃ before, Ends m s before s' ∧ answer = completing completion before := by
  rw [ends_bind] at h
  rcases h with ⟨e, hm, rfl⟩ | ⟨d, s₁, hm, h⟩
  · exact ⟨_, hm, rfl⟩
  · rw [ends_pure] at h
    obtain ⟨rfl, rfl⟩ := h
    exact ⟨_, hm, rfl⟩

theorem settle_ends (hwf : s.store.WF) (h : Ends (settle nested base node t) s answer s') :
    SettleVisits nested base node t s answer s' := by
  unfold settle at h
  rw [ends_get_bind] at h
  dsimp only at h
  cases href : reference? s.options base node t with
  | none =>
    simp only [href, ends_pure] at h
    obtain ⟨rfl, rfl⟩ := h
    exact .plain href
  | some r =>
    simp only [href] at h
    cases htreat : r.treatment s.options with
    | error =>
      simp only [htreat, ends_lose_bind, ends_pure] at h
      obtain ⟨rfl, rfl⟩ := h
      exact .lost href htreat
    | retain =>
      simp only [htreat, ends_pure] at h
      obtain ⟨rfl, rfl⟩ := h
      exact .retained href htreat
    | merge =>
      simp only [htreat, merge] at h
      rw [ends_bind] at h
      rcases h with ⟨e, htarget, rfl⟩ | ⟨target, s₁, htarget, h⟩
      · exact .unmerged href htreat (mergeTarget_ends hwf htarget)
      · rw [ends_pure] at h
        obtain ⟨rfl, rfl⟩ := h
        exact .merged href htreat (mergeTarget_ends hwf htarget)
    | localize =>
      simp only [htreat] at h
      obtain ⟨before, hlocal, rfl⟩ := ends_andThen h
      exact .localized href htreat (localize_ends hwf hlocal)
    | inlineConforming =>
      simp only [htreat] at h
      obtain ⟨before, hinline, rfl⟩ := ends_andThen h
      exact .inlined href (by exact htreat) (inline_ends hwf hinline)
    | inlineNonconforming =>
      simp only [htreat] at h
      obtain ⟨before, hinline, rfl⟩ := ends_andThen h
      exact .inlined href (by exact htreat) (inline_ends hwf hinline)

/-! ## Completing -/

/-- The ways in which a node is finished. -/
inductive Completes (node : Json) (s : Session) :
    Completion → Json × Option BundleError → Session → Prop where
  | refreshed {origin : Reference} :
      Completes node s (.refresh origin) (node, none) (s.refreshed origin.id node)
  | entry {target plain : Json} {origin : Reference} {url : Uri} {registry : Registry}
      (entry : s.registry.contains origin.id = true) (hurl : origin.url = some url)
      (merge : s.registry.merge target origin.pointer url = .ok registry) :
      Completes node s (.merge target (some origin) plain) (plain, none) (s.withRegistry registry)
  | failed {target plain : Json} {origin : Reference} {url : Uri} {e : BundleError}
      (entry : s.registry.contains origin.id = true) (hurl : origin.url = some url)
      (merge : s.registry.merge target origin.pointer url = .error e) :
      Completes node s (.merge target (some origin) plain) (node, some e) s
  | unplaced {target plain : Json} {origin : Reference}
      (entry : s.registry.contains origin.id = true) (hurl : origin.url = none) :
      Completes node s (.merge target (some origin) plain) (plain, none) s
  | overlaid {target plain : Json} {origin : Option Reference}
      (entry : ∀ o, origin = some o → s.registry.contains o.id = false) :
      Completes node s (.merge target origin plain) (node.mergeFields target, none) s

theorem complete_cases {phase : Phase} {c : Completion} {out : Json × Option BundleError}
    (h : (visitor nested phase base).complete c node t s = some (out, s')) :
    Completes node s c out s' := by
  unfold visitor at h
  simp only at h
  obtain ⟨result, s₁, hrun, hlast⟩ := Bounded.bind_eq_some.mp h
  have hstep : Ends (complete c node) s result s₁ := hrun
  clear h hrun
  unfold complete at hstep
  have close {y : Json} (hok : result = .ok y) : out = (y, none) ∧ s' = s₁ := by
    subst hok
    cases hlast
    exact ⟨rfl, rfl⟩
  cases c with
  | refresh origin =>
    simp only [ends_refreshEntry_bind, ends_pure] at hstep
    obtain ⟨hok, rfl⟩ := hstep
    obtain ⟨rfl, rfl⟩ := close hok
    exact .refreshed
  | merge target origin plain =>
    cases origin with
    | none =>
      simp only [ends_pure] at hstep
      obtain ⟨hok, rfl⟩ := hstep
      obtain ⟨rfl, rfl⟩ := close hok
      exact .overlaid fun _ ho => by cases ho
    | some origin =>
      simp only at hstep
      rw [ends_get_bind] at hstep
      cases hentry : s.registry.contains origin.id with
      | false =>
        simp only [hentry, Bool.false_eq_true, if_false, ends_pure] at hstep
        obtain ⟨hok, rfl⟩ := hstep
        obtain ⟨rfl, rfl⟩ := close hok
        refine .overlaid fun o ho => ?_
        cases ho
        exact hentry
      | true =>
        simp only [hentry, if_true] at hstep
        cases hurl : origin.url with
        | none =>
          simp only [hurl, ends_pure] at hstep
          obtain ⟨hok, rfl⟩ := hstep
          obtain ⟨rfl, rfl⟩ := close hok
          exact .unplaced hentry hurl
        | some url =>
          simp only [hurl] at hstep
          rw [ends_get_bind, ends_bind] at hstep
          simp only [ends_ofExcept] at hstep
          rcases hstep with ⟨e, ⟨hmerge, rfl⟩, rfl⟩ | ⟨registry, s₂, ⟨hmerge, rfl⟩, hstep⟩
          · cases hlast
            exact .failed hentry hurl hmerge.symm
          · simp only [ends_setRegistry_bind, ends_pure] at hstep
            obtain ⟨hok, rfl⟩ := hstep
            obtain ⟨rfl, rfl⟩ := close hok
            exact .entry hentry hurl hmerge.symm

/-! ## Scanning -/

/-- The walk of a scan, as a relation. -/
def Walks (bound : Nat) (phase : Phase) (base : Reference) (start : Option Nat) (tree : Json)
    (s : Session) (y : Json) (e : Option BundleError) (s' : Session) : Prop :=
  Walk.tree scope (visitor (scanFrom bound) phase base) bound s.dialect.machine start tree s =
    some ((y, e), s')

/-- The ways in which a scan ends. -/
inductive Scans (bound : Nat) (id : ContentId) (phase : Phase) (start : Option Nat) (s : Session) :
    Except BundleError (Option Json) → Session → Prop where
  | empty (nothing : s.store.tree? id = none) : Scans bound id phase start s (.ok none) s
  | failed {c : Content} {tree y : Json} {e : BundleError} {s' : Session}
      (content : s.store.content? id = some c) (held : s.store.tree? id = some tree)
      (walk : Walks bound phase c.reference start tree s y (some e) s') :
      Scans bound id phase start s (.error e) s'
  | read {c : Content} {tree y : Json} {s' : Session}
      (content : s.store.content? id = some c) (held : s.store.tree? id = some tree)
      (other : phase ≠ .load) (walk : Walks bound phase c.reference start tree s y none s') :
      Scans bound id phase start s (.ok (some y)) s'
  | written {c : Content} {tree y : Json} {s₁ : Session} {store : Store}
      (content : s.store.content? id = some c) (held : s.store.tree? id = some tree)
      (load : phase = .load) (walk : Walks bound phase c.reference start tree s y none s₁)
      (write : s₁.store.write id y = .ok store) :
      Scans bound id phase start s (.ok (some y)) (s₁.withStore store)
  | unwritten {c : Content} {tree y : Json} {s₁ : Session} {e : BundleError}
      (content : s.store.content? id = some c) (held : s.store.tree? id = some tree)
      (load : phase = .load) (walk : Walks bound phase c.reference start tree s y none s₁)
      (write : s₁.store.write id y = .error e) : Scans bound id phase start s (.error e) s₁

theorem content?_of_tree? {store : Store} {id : ContentId} {tree : Json}
    (h : store.tree? id = some tree) : ∃ c, store.content? id = some c ∧ c.body ≠ .invalid := by
  unfold Store.tree? at h
  cases hc : store.content? id with
  | none => simp [hc] at h
  | some c =>
    refine ⟨c, rfl, fun hb => ?_⟩
    simp [hc, hb] at h

theorem ends_writeTree_ok {id : ContentId} {tree : Json} :
    Ends (writeTree id tree) s (.ok ()) s' ↔
      ∃ store, s.store.write id tree = .ok store ∧ s' = s.withStore store := by
  unfold writeTree
  rw [ends_get_bind, ends_bind_ok]
  simp only [ends_ofExcept, ends_modify, true_and]
  constructor
  · rintro ⟨store, s₁, ⟨hw, rfl⟩, rfl⟩
    exact ⟨store, hw.symm, rfl⟩
  · rintro ⟨store, hw, rfl⟩
    exact ⟨store, s, ⟨hw.symm, rfl⟩, rfl⟩

theorem ends_writeTree_error {id : ContentId} {tree : Json} {e : BundleError} :
    Ends (writeTree id tree) s (.error e) s' ↔ s.store.write id tree = .error e ∧ s' = s := by
  unfold writeTree
  rw [ends_get_bind, ends_bind]
  simp only [ends_ofExcept, ends_modify]
  constructor
  · rintro (⟨e', ⟨hw, rfl⟩, heq⟩ | ⟨_, _, _, hno, -⟩)
    · cases heq
      exact ⟨hw.symm, rfl⟩
    · cases hno
  · rintro ⟨hw, rfl⟩
    exact .inl ⟨e, ⟨hw.symm, rfl⟩, rfl⟩

/-- What a walk of a content ends with. -/
def ending (y : Json) : Option BundleError → Except BundleError Json
  | some e => .error e
  | none => .ok y

theorem scanFrom_ends {bound : Nat} {id : ContentId} {phase : Phase}
    {result : Except BundleError (Option Json)}
    (h : Ends (scanFrom (bound + 1) id phase state) s result s') :
    Scans bound id phase state s result s' := by
  unfold scanFrom at h
  rw [ends_get_bind] at h
  cases htree : s.store.tree? id with
  | none =>
    have hnone : result = .ok none ∧ s' = s := by
      cases hc : s.store.content? id <;> simpa only [htree, hc, ends_pure] using h
    obtain ⟨rfl, rfl⟩ := hnone
    exact .empty htree
  | some tree =>
    obtain ⟨c, hc, -⟩ := content?_of_tree? htree
    simp only [hc, htree] at h
    rw [ends_bind] at h
    have walked {r : Except BundleError Json} {s₁ : Session}
        (hw : Ends (walk (scanFrom bound) phase c.reference bound state tree) s r s₁) :
        ∃ y e, Walks bound phase c.reference state tree s y e s₁ ∧
          r = ending y e := by
      unfold walk at hw
      rw [ends_get_bind, ends_bind] at hw
      simp only [ends_lift] at hw
      rcases hw with ⟨e, ⟨_, _, heq⟩, rfl⟩ | ⟨⟨y, e⟩, s₂, ⟨p, hrun, heq⟩, hw⟩
      · cases heq
      · cases heq
        refine ⟨y, e, ?_⟩
        cases e with
        | none =>
          simp only [ends_pure] at hw
          obtain ⟨rfl, rfl⟩ := hw
          exact ⟨hrun, rfl⟩
        | some e =>
          simp only [ends_throw] at hw
          obtain ⟨rfl, rfl⟩ := hw
          exact ⟨hrun, rfl⟩
    rcases h with ⟨e, hw, rfl⟩ | ⟨y, s₁, hw, h⟩
    · obtain ⟨y, e', hwalk, heq⟩ := walked hw
      cases e' with
      | none => cases heq
      | some e' =>
        cases heq
        exact .failed hc htree hwalk
    · obtain ⟨y', e', hwalk, heq⟩ := walked hw
      cases e' with
      | some e' => cases heq
      | none =>
        cases heq
        by_cases hphase : phase = .load
        · simp only [hphase, if_true] at h
          rw [ends_bind] at h
          rcases h with ⟨e, hwrite, rfl⟩ | ⟨u, s₂, hwrite, h⟩
          · obtain ⟨hw, rfl⟩ := ends_writeTree_error.mp hwrite
            exact .unwritten hc htree hphase hwalk hw
          · obtain ⟨store, hw, rfl⟩ := ends_writeTree_ok.mp hwrite
            rw [ends_pure] at h
            obtain ⟨rfl, rfl⟩ := h
            exact .written hc htree hphase hwalk hw
        · simp only [hphase, if_false, ends_pure] at h
          obtain ⟨rfl, rfl⟩ := h
          exact .read hc htree hphase hwalk

end Scan

end ApiBundle
