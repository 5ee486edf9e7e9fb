import ApiBundle.Proofs.Scan.Frame

/-!
# The visits under way

Whoever scans what a reference leads to begins a visit, scans, and ends the visit, also when the
scan fails. So at its end a scan has the visits under way that it had at its start, in their order.
None of them is begun twice: every step that begins a visit has looked before, and between the look
and the visit no step changes the visits. Hoisting from within `inline`, while the reference is
being visited, is the one case where a step looks and turns away.

Nothing is asked of the session that a scan starts from. In particular its store may be in disorder,
which is why this is not read off the lemmas about the ends of steps.
-/

namespace ApiBundle

/-- Not the failure of a visit that is begun twice. -/
def Fresh {α : Type} (result : Except BundleError α) : Prop :=
  ∀ text, result ≠ .error (.alreadyResolving text)

namespace Fresh

variable {α : Type}

theorem ok (a : α) : Fresh (.ok a) := fun _ heq => by cases heq

theorem error {e : BundleError} (h : ∀ text, e ≠ .alreadyResolving text) :
    Fresh (.error e : Except BundleError α) := by
  intro text heq
  cases heq
  exact h text rfl

theorem cast {β : Type} {e : BundleError} (h : Fresh (.error e : Except BundleError α)) :
    Fresh (.error e : Except BundleError β) := by
  intro text heq
  cases heq
  exact h text rfl

end Fresh

/-! ## Failures of the parts -/

namespace Store

variable {s : Store} {r : Reference} {source : Source} {start : Option Nat}

theorem fresh_create (body : Body) : Fresh (s.create r body start).1 := by
  unfold create
  split
  · exact .error (by simp)
  · exact .ok _

theorem fresh_fetch : Fresh (s.fetch source r start).1 := by
  unfold fetch
  split
  · exact fresh_create _
  · simp only
    split <;> exact fresh_create _

theorem fresh_document : Fresh (s.document source r start).1 := by
  unfold document
  split
  · exact .ok _
  · exact fresh_fetch

theorem fresh_view (document : ContentId) : Fresh (s.view document r start).1 := by
  unfold view
  split
  · exact fresh_create _
  · split <;> exact fresh_create _

theorem fresh_load : Fresh (s.load source r start).1 := by
  unfold load
  split
  · exact .ok _
  · split
    · exact fresh_create _
    · have hdocument : Fresh (s.document source r.documentRef start).1 := fresh_document
      split
      · next heq =>
        rw [heq] at hdocument
        exact hdocument
      · split
        · exact .ok _
        · exact fresh_view _

theorem fresh_write (id : ContentId) (tree : Json) : Fresh (s.write id tree) := by
  unfold write
  split
  · exact .error (by simp)
  · split
    · exact .ok _
    · split
      · exact .ok _
      · exact .error (by simp)
    · exact .error (by simp)

end Store

namespace Registry

variable {r : Registry} {node : Json} {place : Pointer} {base : Uri}

theorem fresh_localize (c : Component) : Fresh (r.localize node c place base) := by
  unfold localize
  simp only
  split
  · exact .ok _
  · split
    · exact .error (by simp)
    · exact .ok _

theorem fresh_merge : Fresh (r.merge node place base) := by
  unfold merge
  simp only
  split
  · exact .ok _
  · exact .error (by simp)

theorem fresh_assemble (tree : Json) : Fresh (r.assemble tree) := by
  unfold assemble
  generalize r.containers tree = containers
  induction containers generalizing tree with
  | nil => exact .ok _
  | cons container rest ih =>
    rw [List.foldlM_cons]
    unfold writeContainer
    split
    · exact ih _
    · exact .error (by simp)

end Registry

/-! ## Steps -/

namespace Scanning

variable {α β : Type} {v : VisitSet RefId} {r : Reference}

/-- With these visits under way, a step ends with the same ones, and begins none of them twice. -/
def Balanced (v : VisitSet RefId) (m : Scanning α) : Prop :=
  ∀ s result s', s.resolving = v → Ends m s result s' → s'.resolving = v ∧ Fresh result

theorem balanced_pure (a : α) : Balanced v (pure a) := by
  intro s result s' hs h
  obtain ⟨rfl, rfl⟩ := ends_pure.mp h
  exact ⟨hs, .ok a⟩

theorem balanced_throw {e : BundleError} (he : Fresh (.error e : Except BundleError α)) :
    Balanced v (throw e : Scanning α) := by
  intro s result s' hs h
  obtain ⟨rfl, rfl⟩ := ends_throw.mp h
  exact ⟨hs, he⟩

theorem Balanced.bind {m : Scanning α} {f : α → Scanning β} (hm : Balanced v m)
    (hf : ∀ a, Balanced v (f a)) : Balanced v (m >>= f) := by
  intro s result s' hs h
  rcases ends_bind.mp h with ⟨e, he, rfl⟩ | ⟨a, s₁, ha, hrest⟩
  · obtain ⟨hs', hfresh⟩ := hm s _ s' hs he
    exact ⟨hs', hfresh.cast⟩
  · exact hf a s₁ result s' (hm s _ s₁ hs ha).1 hrest

theorem Balanced.get_bind {f : Session → Scanning α} (hf : ∀ s, Balanced v (f s)) :
    Balanced v (get >>= f) := by
  intro s result s' hs h
  exact hf s s result s' hs (ends_get_bind.mp h)

theorem balanced_modify {f : Session → Session} (hf : ∀ s, (f s).resolving = s.resolving) :
    Balanced v (modify f : Scanning PUnit) := by
  intro s result s' hs h
  obtain ⟨rfl, rfl⟩ := ends_modify.mp h
  exact ⟨(hf s).trans hs, .ok _⟩

theorem balanced_lose (r : Reference) : Balanced v (lose r) := balanced_modify fun _ => rfl

theorem balanced_setRegistry (g : Registry) : Balanced v (setRegistry g) :=
  balanced_modify fun _ => rfl

theorem balanced_refreshEntry (i : RefId) (node : Json) : Balanced v (refreshEntry i node) :=
  balanced_modify fun _ => rfl

theorem balanced_ofExcept {x : Except BundleError α} (hx : Fresh x) :
    Balanced v (MonadExcept.ofExcept x : Scanning α) := by
  intro s result s' hs h
  obtain ⟨rfl, rfl⟩ := ends_ofExcept.mp h
  exact ⟨hs, hx⟩

theorem balanced_onStore {f : Session → Except BundleError ContentId × Store}
    (hf : ∀ s, Fresh (f s).1) : Balanced v (onStore f) := by
  intro s result s' hs h
  obtain ⟨rfl, rfl⟩ := ends_onStore.mp h
  exact ⟨hs, hf s⟩

theorem balanced_loadContent (start : Option Nat) : Balanced v (loadContent r start) :=
  balanced_onStore fun _ => Store.fresh_load

theorem balanced_loadTarget (start : Option Nat) : Balanced v (loadTarget r start) := by
  unfold loadTarget
  refine (balanced_loadContent start).bind fun id => .get_bind fun s => ?_
  split
  · exact balanced_pure _
  · split
    · exact (balanced_lose _).bind fun _ => balanced_pure _
    · exact balanced_pure _

/-- A step that asks whether a reference is being visited goes on with what the visits say. -/
theorem Balanced.isResolving_bind {f : Bool → Scanning α} (hf : Balanced v (f (v.isActive r.id))) :
    Balanced v (isResolving r >>= f) := by
  intro s result s' hs h
  subst hs
  exact hf s result s' rfl (ends_isResolving_bind.mp h)

/-- The visit that a step runs in is over when the step is. -/
theorem Balanced.resolving {m : Scanning α} (hfree : v.isActive r.id = false)
    (hm : ∀ v, Balanced v m) : Balanced v (resolving r m) := by
  intro s result s' hs h
  subst hs
  obtain ⟨s₁, hstep, rfl⟩ := (ends_resolving hfree).mp h
  obtain ⟨hvisits, hfresh⟩ := hm _ _ _ _ rfl hstep
  refine ⟨?_, hfresh⟩
  show s₁.resolving.unvisit r.id = s.resolving
  rw [hvisits, Session.leave_enter hfree]

theorem balanced_forM {f : α → Scanning PUnit} (hf : ∀ a, Balanced v (f a)) (as : List α) :
    Balanced v (as.forM f) := by
  induction as with
  | nil => exact balanced_pure _
  | cons a as ih => exact (hf a).bind fun _ => ih

theorem balanced_mapM {f : α → Scanning β} (hf : ∀ a, Balanced v (f a)) (as : List α) :
    Balanced v (as.mapM f) := by
  induction as with
  | nil => exact balanced_pure _
  | cons a as ih =>
    rw [List.mapM_cons]
    exact (hf a).bind fun _ => ih.bind fun _ => balanced_pure _

end Scanning

namespace Scan

open Scanning

variable {nested : NestedScan} {v : VisitSet RefId}

/-- Scans of a kind are balanced, whatever visits are under way. -/
def NestedBalanced (nested : NestedScan) : Prop :=
  ∀ id phase start v, Balanced v (nested id phase start)

section Steps

variable (h : NestedBalanced nested) (base : Reference) (node : Json) (r : Reference)
  (t : Tracker Component) (state : Option Nat)
include h

theorem balanced_splice : Balanced v (splice nested node r state) := by
  unfold splice
  refine .isResolving_bind ?_
  cases hactive : v.isActive r.id with
  | true => exact (balanced_lose _).bind fun _ => balanced_pure _
  | false =>
    refine (balanced_loadTarget state).bind fun target => ?_
    cases target with
    | error r' => exact balanced_pure _
    | ok id =>
      refine (Balanced.resolving hactive (h id .load state)).bind fun tree => ?_
      cases tree <;> exact balanced_pure _

theorem balanced_load : Balanced v (load nested base node t) := by
  unfold load
  refine .get_bind fun s => ?_
  simp only
  split
  · exact balanced_pure _
  · split
    · exact balanced_pure _
    · exact balanced_splice h node _ t.current
    · exact (balanced_lose _).bind fun _ => balanced_pure _
    · exact balanced_pure _

omit h in
theorem balanced_collect : Balanced v (collect base node t) := by
  unfold collect
  split
  · refine .get_bind fun s => (balanced_ofExcept (Registry.fresh_localize _)).bind fun made => ?_
    exact (balanced_setRegistry _).bind fun _ => balanced_pure _
  · exact balanced_pure _

theorem balanced_rescan (id : ContentId) : Balanced v (rescan nested id state) :=
  (h id .load state v).bind fun _ => h id .settle state v

/-- Hoisting begins a visit only where the reference is not visited already. -/
theorem balanced_localize : Balanced v (localize nested node r state) := by
  unfold localize
  refine .get_bind fun s => ?_
  simp only
  split
  · exact balanced_pure _
  · exact balanced_pure _
  · refine (balanced_loadTarget state).bind fun target => ?_
    cases target with
    | error r' => exact balanced_pure _
    | ok id =>
      refine .get_bind fun s₁ => ?_
      split
      · refine .get_bind fun s₂ => ?_
        refine (balanced_ofExcept (Registry.fresh_localize _)).bind fun made => ?_
        refine (balanced_setRegistry _).bind fun _ => .isResolving_bind ?_
        cases hactive : v.isActive r.id with
        | true => exact balanced_pure _
        | false =>
          refine (Balanced.resolving hactive fun v => balanced_rescan h state id).bind
            fun tree => ?_
          have hfinish : Balanced v (do
              modify fun s => { s with finalized := s.finalized ++ [r.id] }
              return (Disposition.doneWith made.1.refNode : Disposition Completion)) := by
            refine .bind ?_ fun _ => balanced_pure _
            exact balanced_modify fun _ => rfl
          cases tree with
          | none => exact hfinish
          | some tree => exact (balanced_refreshEntry _ _).bind fun _ => hfinish
      · exact balanced_pure _

theorem balanced_inline (conforming : Bool) :
    Balanced v (inline nested node r conforming state) := by
  unfold inline
  refine .isResolving_bind ?_
  cases hactive : v.isActive r.id with
  | true =>
    simp only [if_true]
    split
    · exact balanced_localize h node r state
    · exact (balanced_lose _).bind fun _ => balanced_pure _
  | false =>
    refine (balanced_loadTarget state).bind fun target => ?_
    cases target with
    | error r' => exact balanced_pure _
    | ok id =>
      refine (Balanced.resolving hactive fun v => balanced_rescan h state id).bind fun tree => ?_
      cases tree with
      | none => exact balanced_pure _
      | some tree => exact (balanced_refreshEntry _ _).bind fun _ => balanced_pure _

theorem balanced_mergeTarget : Balanced v (mergeTarget nested r state) := by
  unfold mergeTarget
  refine .isResolving_bind ?_
  cases hactive : v.isActive r.id with
  | true => exact (balanced_lose _).bind fun _ => balanced_pure _
  | false =>
    refine (balanced_loadTarget state).bind fun target => ?_
    cases target with
    | error r' => exact balanced_pure _
    | ok id =>
      exact (Balanced.resolving hactive fun v => balanced_rescan h state id).bind
        fun tree => balanced_pure _

theorem balanced_settle : Balanced v (settle nested base node t) := by
  unfold settle
  refine .get_bind fun s => ?_
  simp only
  split
  · exact balanced_pure _
  · split
    · exact (balanced_mergeTarget h _ _).bind fun _ => balanced_pure _
    · exact (balanced_lose _).bind fun _ => balanced_pure _
    · exact balanced_pure _
    · exact (balanced_localize h node _ _).bind fun _ => balanced_pure _
    · exact (balanced_inline h node _ _ true).bind fun _ => balanced_pure _
    · exact (balanced_inline h node _ _ false).bind fun _ => balanced_pure _

theorem balanced_visit (phase : Phase) : Balanced v (visit nested phase base node t) := by
  cases phase with
  | load => exact balanced_load h base node t
  | collect => exact balanced_collect base node t
  | settle => exact balanced_settle h base node t

end Steps

/-! ## Walks -/

theorem balanced_complete (c : Completion) (node : Json) : Balanced v (complete c node) := by
  unfold complete
  split
  · exact (balanced_refreshEntry _ _).bind fun _ => balanced_pure _
  · split
    · refine .get_bind fun s => ?_
      split
      · split
        · refine .get_bind fun s₁ => (balanced_ofExcept Registry.fresh_merge).bind fun g => ?_
          exact (balanced_setRegistry g).bind fun _ => balanced_pure _
        · exact balanced_pure _
      · exact balanced_pure _
    · exact balanced_pure _

variable {base : Reference} {t : Tracker Component} {phase : Phase} {s s' : Session} {x y : Json}
  {e : Option BundleError}

/-- What a walk leaves of the visits, and what stops it. -/
abbrev Unwound (v : VisitSet RefId) (s : Session) (y : Json) (e : Option BundleError)
    (s' : Session) : Prop :=
  s.resolving = v → s'.resolving = v ∧ Fresh (ending y e)

theorem unwound_finish {pending : List Completion}
    (h : Walk.finish (visitor nested phase base) t pending x s = some ((y, e), s')) :
    Unwound v s y e s' := by
  intro hs
  induction pending generalizing x s with
  | nil =>
    cases h
    exact ⟨hs, .ok _⟩
  | cons c rest ih =>
    obtain ⟨⟨z, failed⟩, s₁, hcomplete, hrest⟩ := Bounded.bind_eq_some.mp h
    obtain ⟨result, s₂, hrun, hlast⟩ := Bounded.bind_eq_some.mp hcomplete
    obtain ⟨hs₂, hfresh⟩ := balanced_complete c x s result s₂ hs hrun
    cases result with
    | ok z' =>
      cases hlast
      exact ih hrest hs₂
    | error e' =>
      cases hlast
      cases hrest
      exact ⟨hs₂, hfresh⟩

theorem unwound_threaded {kids : List (Segment × Json)} {ys : List Json} (z : Json)
    (h : Walk.Threaded (fun _ _ s y e s' => Unwound v s y e s') t kids s ys e s') :
    Unwound v s z e s' := by
  intro hs
  induction h with
  | nil => exact ⟨hs, .ok _⟩
  | fail head => exact head hs
  | cons head _ ih => exact ih (head hs).1

theorem unwound_node (h : NestedBalanced nested) {bound : Nat} {pending : List Completion}
    (hwalk : Walk.node scope (visitor nested phase base) bound pending x t s =
      some ((y, e), s')) : Unwound v s y e s' := by
  have visited {x : Json} {t : Tracker Component} {s s₁ : Session}
      {answer : Except BundleError (Disposition Completion)} (hs : s.resolving = v)
      (hv : (visitor nested phase base).visit x t s = some (answer, s₁)) :
      s₁.resolving = v ∧ Fresh answer :=
    balanced_visit h base x t phase s answer s₁ hs hv
  refine Walk.node_induction (motive := fun _ _ _ s y e s' => Unwound v s y e s')
    ?skip ?pass ?raise ?revisit ?broken ?descend ?done hwalk
  case skip => exact fun _ _ hs => ⟨hs, .ok _⟩
  case pass => exact fun _ _ hkids => unwound_threaded _ hkids
  case raise =>
    intro _ _ _ _ _ _ _ hv hs
    obtain ⟨hs₁, hfresh⟩ := visited hs hv
    exact ⟨hs₁, hfresh.cast⟩
  case revisit =>
    intro _ _ _ _ _ _ _ _ _ _ _ hv _ ih hs
    exact ih (visited hs hv).1
  case broken =>
    intro _ _ _ _ _ _ _ _ _ _ _ hv _ hkids hs
    exact unwound_threaded _ hkids (visited hs hv).1
  case descend =>
    intro _ x _ _ _ _ _ _ _ _ _ _ _ hv _ hkids hfinish hs
    exact unwound_finish hfinish (unwound_threaded x hkids (visited hs hv).1).1
  case done =>
    intro _ _ _ _ _ _ _ _ _ _ _ hv _ hfinish hs
    exact unwound_finish hfinish (visited hs hv).1

/-! ## Scans -/

theorem balanced_scanFrom (bound : Nat) : NestedBalanced (scanFrom bound) := by
  induction bound with
  | zero =>
    intro id phase start v s result s' hs h
    cases h
  | succ bound ih =>
    intro id phase start v s result s' hs h
    have walked {c : Content} {tree y : Json} {e : Option BundleError} {s₁ : Session}
        (hw : Walks bound phase c.reference start tree s y e s₁) :
        s₁.resolving = v ∧ Fresh (ending y e) := unwound_node ih hw hs
    cases scanFrom_ends h with
    | empty nothing => exact ⟨hs, .ok _⟩
    | failed content held walk => exact ⟨(walked walk).1, (walked walk).2.cast⟩
    | read content held other walk => exact ⟨(walked walk).1, .ok _⟩
    | written content held load walk write => exact ⟨(walked walk).1, .ok _⟩
    | @unwritten c tree y s₁ e content held load walk write =>
      have hwrite := Store.fresh_write (s := s'.store) id y
      rw [write] at hwrite
      exact ⟨(walked walk).1, hwrite.cast⟩

theorem balanced_scan (bound : Nat) (id : ContentId) (phase : Phase) :
    Balanced v (scan bound id phase) :=
  .get_bind fun _ => balanced_scanFrom bound id phase _ v

end Scan

/-! ## Runs -/

namespace Bundle

open Scanning Scan

variable {v : VisitSet RefId}

theorem balanced_loadTops (root : Uri) (tree : Json) : Balanced v (loadTops root tree) := by
  unfold loadTops
  refine .get_bind fun s => (balanced_onStore fun _ => Store.fresh_create _).bind fun id => ?_
  refine (balanced_mapM (fun location => ?_) _).bind fun ids => balanced_pure _
  unfold loadAdditional
  refine (balanced_loadContent _).bind fun id => .get_bind fun s => ?_
  split
  · exact balanced_throw (.error (by simp))
  · exact balanced_pure _

theorem balanced_runPhases (bound : Nat) (tops : List ContentId) :
    Balanced v (runPhases bound tops) := by
  unfold runPhases
  have hdiscard (phase : Phase) (id : ContentId) :
      Balanced v (discard (scan bound id phase)) := by
    rw [Functor.discard, LawfulFunctor.map_const, Function.comp_apply, map_eq_pure_bind]
    exact (balanced_scan bound id phase).bind fun _ => balanced_pure _
  refine (balanced_forM (hdiscard .load) tops).bind fun _ => ?_
  refine (balanced_forM (hdiscard .collect) tops).bind fun _ => ?_
  refine (balanced_mapM (fun id => balanced_scan bound id .settle) tops).bind fun results => ?_
  split
  · exact balanced_pure _
  · exact balanced_throw (.error (by simp))

theorem balanced_run (bound : Nat) (root : Uri) (tree : Json) :
    Balanced v (run bound root tree) := by
  unfold run settled
  refine ((balanced_loadTops root tree).bind fun tops => balanced_runPhases bound tops).bind
    fun settled => .get_bind fun s => ?_
  exact (balanced_ofExcept (Registry.fresh_assemble settled)).bind fun _ => balanced_pure _

/-- However a step ends, it leaves the visits under way as they were, and begins none twice. -/
def Restores {α : Type} (m : Scanning α) : Prop :=
  ∀ s result s', Ends m s result s' → s'.resolving = s.resolving ∧ Fresh result

theorem restores_of_balanced {α : Type} {m : Scanning α} (h : ∀ v, Balanced v m) : Restores m := by
  intro s result s' hends
  exact h s.resolving s result s' rfl hends

/--
Every scan, in every phase, of every content, from every state and in every session, leaves the
visits under way as they were; so does a rescan, and so does a run.
-/
theorem visits_restored (bound : Nat) :
    (∀ id phase start, Restores (scanFrom bound id phase start)) ∧
      (∀ id phase, Restores (scan bound id phase)) ∧
      (∀ id start, Restores (rescan (scanFrom bound) id start)) ∧
      ∀ root tree, Restores (run bound root tree) := by
  refine ⟨fun id phase start => ?scanFrom, fun id phase => ?scan, fun id start => ?rescan,
    fun root tree => ?run⟩
  case scanFrom => exact restores_of_balanced (balanced_scanFrom bound id phase start)
  case scan => exact restores_of_balanced fun _ => balanced_scan bound id phase
  case rescan =>
    exact restores_of_balanced fun _ => balanced_rescan (balanced_scanFrom bound) start id
  case run => exact restores_of_balanced fun _ => balanced_run bound root tree

namespace Vanishing

/-- The URL of the root. -/
def home : Uri := ⟨"mem", some (.ofHost (some (.name "a"))), "/main.json", none, none⟩

/-- A root of which a part disappears while what refers to it is scanned. -/
def homeTree : Json :=
  .object [("swagger", .string "2.0"), ("info", .object [("$ref", .string "#/x/b")]),
    ("x", .object [("$ref", .string "#/other"),
      ("b", .object [("inner", .object [("$ref", .string "#/x")])])]),
    ("other", .object [("y", .bool true)])]

/-- A session in which a visit is under way already. -/
def visiting : Session :=
  { Session.start .swagger2 .default (.ofTexts []) with
    resolving := ⟨.fail, [(Reference.forDocument home).id]⟩ }

end Vanishing

set_option maxRecDepth 10000 in
theorem visits_restored_vanishing :
    ∃ e s', Ends (run 10 Vanishing.home Vanishing.homeTree) Vanishing.visiting (.error e) s' ∧
      s'.resolving = Vanishing.visiting.resolving ∧
      ∀ text, e ≠ .alreadyResolving text := by
  have hrun : ((run 10 Vanishing.home Vanishing.homeTree).run.run Vanishing.visiting).bind
      (fun p => if p.1.toOption.isNone then some () else none) = some () := by decide +kernel
  obtain ⟨⟨result, s'⟩, hends, hfailed⟩ := Option.bind_eq_some_iff.mp hrun
  cases result with
  | ok out => cases hfailed
  | error e =>
    obtain ⟨hvisits, hfresh⟩ := (visits_restored 10).2.2.2 _ _ _ _ _ hends
    exact ⟨e, s', hends, hvisits, fun text heq => hfresh text (heq ▸ rfl)⟩

end Bundle

end ApiBundle
