import ApiBundle.Proofs.Scan.Steps

/-!
# What visits preserve

A visit touches the store by looking references up and by nested scans, and in no other way. So a
property of a run that does not look at the registry, the notes and the references being resolved
is preserved by visits if lookups and nested scans preserve it (`Scan.Preserving.visit`), and by
completions in any case.
-/

namespace ApiBundle

/-- Two states agree on all but the registry, the notes and the references being resolved. -/
structure Session.Alike (s s' : Session) : Prop where
  dialect : s'.dialect = s.dialect
  options : s'.options = s.options
  source : s'.source = s.source
  store : s'.store = s.store

namespace Scan

open Scanning Session

/-- A property that lookups of some references preserve, and all scans of a kind. -/
structure Preserving (A : Reference → Prop) (J : Session → Prop) (nested : NestedScan) :
    Prop where
  wf : ∀ {s}, J s → s.store.WF
  alike : ∀ {s s'}, s.Alike s' → J s → J s'
  loads : ∀ {r start target s s'}, A r → J s → Loads r start s target s' → J s'
  nested : ∀ {id phase start s result s'}, J s → Ends (nested id phase start) s result s' → J s'

namespace Preserving

variable {A : Reference → Prop} {J : Session → Prop} {nested : NestedScan} {base : Reference}
  {node : Json} {r : Reference} {t : Tracker Component} {state : Option Nat} {s s' : Session}
  (h : Preserving A J nested)
include h

theorem rescansFor {id : ContentId} {result : Except BundleError (Option Json)} (hs : J s)
    (hscan : RescansFor nested r id state s result s') : J s' := by
  obtain ⟨s₁, hscan, rfl⟩ := hscan
  have henter : J (s.enter r) := h.alike (s := s) ⟨rfl, rfl, rfl, rfl⟩ hs
  have hleave : J s₁ → J (s₁.leave r) := h.alike ⟨rfl, rfl, rfl, rfl⟩
  cases hscan with
  | unloaded load => exact hleave (h.nested henter load)
  | settled load settle => exact hleave (h.nested (h.nested henter load) settle)

theorem nests {id : ContentId} {phase : Phase} {result : Except BundleError (Option Json)}
    (hs : J s) (hscan : Nests nested r id phase state s result s') : J s' := by
  obtain ⟨s₁, hends, rfl⟩ := hscan
  have henter : J (s.enter r) := h.alike (s := s) ⟨rfl, rfl, rfl, rfl⟩ hs
  exact h.alike (s := s₁) ⟨rfl, rfl, rfl, rfl⟩ (h.nested henter hends)

theorem splices {answer : Except BundleError (Disposition Completion)} (hr : A r) (hs : J s)
    (hsplice : Splices nested node r state s answer s') : J s' := by
  cases hsplice with
  | cycle active => exact h.alike (s := s) ⟨rfl, rfl, rfl, rfl⟩ hs
  | missing free look => exact h.loads hr hs look
  | failed free look scan | gone free look scan | spliced free look scan =>
    exact h.nests (h.loads hr hs look) scan

theorem localizes {answer : Except BundleError (Disposition Completion)} (hr : A r) (hs : J s)
    (hlocal : Localizes nested node r state s answer s') : J s' := by
  cases hlocal with
  | bare | known => exact hs
  | missing component entry look | gone component entry look | homeless component entry look =>
    exact h.loads hr hs look
  | @active _ _ s₁ _ _ _ registry component entry look =>
    exact h.alike (s := s₁) ⟨rfl, rfl, rfl, rfl⟩ (h.loads hr hs look)
  | @failed _ _ s₁ _ _ _ _ registry _ component entry look tree hurl hoist free scan =>
    exact h.rescansFor (s := s₁.withRegistry registry)
      (h.alike (s := s₁) ⟨rfl, rfl, rfl, rfl⟩ (h.loads hr hs look)) scan
  | @hoisted _ _ s₁ s₂ _ _ _ registry tree' component entry look tree hurl hoist free scan =>
    have hscan : J s₂ := h.rescansFor (s := s₁.withRegistry registry)
      (h.alike (s := s₁) ⟨rfl, rfl, rfl, rfl⟩ (h.loads hr hs look)) scan
    refine h.alike (s := s₂) ?_ hscan
    cases tree' <;> exact ⟨rfl, rfl, rfl, rfl⟩

theorem inlines {conforming : Bool} {answer : Except BundleError (Disposition Completion)}
    (hr : A r) (hs : J s) (hinline : Inlines nested node r conforming state s answer s') :
    J s' := by
  cases hinline with
  | hoisted active home localize => exact h.localizes hr hs localize
  | cycle active homeless => exact h.alike (s := s) ⟨rfl, rfl, rfl, rfl⟩ hs
  | missing free look => exact h.loads hr hs look
  | failed free look scan | gone free look scan =>
    exact h.rescansFor (h.loads hr hs look) scan
  | @inlined id s₁ s₂ tree free look scan =>
    exact h.alike (s := s₂) ⟨rfl, rfl, rfl, rfl⟩ (h.rescansFor (h.loads hr hs look) scan)

theorem mergeTargets {target : Except BundleError Json} (hr : A r) (hs : J s)
    (hmerge : MergeTargets nested r state s target s') : J s' := by
  cases hmerge with
  | cycle active => exact h.alike (s := s) ⟨rfl, rfl, rfl, rfl⟩ hs
  | missing free look => exact h.loads hr hs look
  | failed free look scan | scanned free look scan =>
    exact h.rescansFor (h.loads hr hs look) scan

/-- A visit preserves what lookups and nested scans preserve. -/
theorem visit {phase : Phase} {answer : Except BundleError (Disposition Completion)}
    (hr : ∀ r, reference? s.options base node t = some r → A r) (hs : J s)
    (hvisit : Ends (visit nested phase base node t) s answer s') : J s' := by
  cases phase with
  | load =>
    cases load_ends (h.wf hs) hvisit with
    | plain | merged | kept => exact hs
    | lost => exact h.alike (s := s) ⟨rfl, rfl, rfl, rfl⟩ hs
    | spliced ref treatment splice => exact h.splices (hr _ ref) hs splice
  | collect =>
    cases collect_ends hvisit with
    | plain | failed => exact hs
    | collected => exact h.alike (s := s) ⟨rfl, rfl, rfl, rfl⟩ hs
  | settle =>
    cases settle_ends (h.wf hs) hvisit with
    | plain | retained => exact hs
    | lost => exact h.alike (s := s) ⟨rfl, rfl, rfl, rfl⟩ hs
    | unmerged ref treatment target => exact h.mergeTargets (hr _ ref) hs target
    | merged ref treatment found => exact h.mergeTargets (hr _ ref) hs found
    | localized ref treatment localize => exact h.localizes (hr _ ref) hs localize
    | inlined ref treatment inline => exact h.inlines (hr _ ref) hs inline

/-- Completions leave the store alone. -/
theorem finish {phase : Phase} {pending : List Completion} {out : Json × Option BundleError}
    (hs : J s)
    (hfinish : Walk.finish (visitor nested phase base) t pending node s = some (out, s')) :
    J s' := by
  induction pending generalizing node s with
  | nil =>
    cases hfinish
    exact hs
  | cons c rest ih =>
    obtain ⟨⟨y, e⟩, s₁, hc, hrest⟩ := Bounded.bind_eq_some.mp hfinish
    have hs₁ : J s₁ := by
      cases complete_cases hc <;> first | exact hs | exact h.alike (s := s) ⟨rfl, rfl, rfl, rfl⟩ hs
    cases e with
    | some e =>
      cases hrest
      exact hs₁
    | none => exact ih hs₁ hrest

omit h in
theorem threaded {kids : List (Segment × Json)} {ys : List Json} {e : Option BundleError}
    (hkids : Walk.Threaded (fun _ _ s _ _ s' => J s → J s') t kids s ys e s') (hs : J s) :
    J s' := by
  induction hkids with
  | nil => exact hs
  | fail head => exact head hs
  | cons head _ ih => exact ih (head hs)

/-- A walk preserves what lookups of all references and nested scans preserve. -/
theorem walk {phase : Phase} {bound : Nat} {pending : List Completion} {y : Json}
    {e : Option BundleError} (hall : ∀ r, A r) (hs : J s)
    (hwalk : Walk.node scope (visitor nested phase base) bound pending node t s =
      some ((y, e), s')) : J s' := by
  refine Walk.node_induction (motive := fun _ _ _ s _ _ s' => J s → J s')
    ?skip ?pass ?raise ?revisit ?broken ?descend ?done hwalk hs
  case skip => exact fun _ _ hs => hs
  case pass => exact fun _ _ hkids hs => threaded hkids hs
  case raise => exact fun _ hv hs => h.visit (fun r _ => hall r) hs hv
  case revisit => exact fun _ hv _ ih hs => ih (h.visit (fun r _ => hall r) hs hv)
  case broken => exact fun _ hv _ hkids hs => threaded hkids (h.visit (fun r _ => hall r) hs hv)
  case descend =>
    intro _ _ _ _ _ _ _ _ _ _ _ _ _ hv _ hkids hfinish hs
    exact h.finish (threaded hkids (h.visit (fun r _ => hall r) hs hv)) hfinish
  case done => exact fun _ hv _ hfinish hs => h.finish (h.visit (fun r _ => hall r) hs hv) hfinish

end Preserving

end Scan

end ApiBundle
