import ApiBundle.Proofs.Scan.Frame
import ApiBundle.Proofs.Store.Faithful
import ApiBundle.Proofs.Uri.Document

/-!
# How scans fail

A scan has many ways to fail, and all but one of them never happen: references are looked up before
they are visited, entries are found before they are merged into, and whatever is hoisted has a
container. What is left is a write to a place that is gone from its document, which takes a pointer
that passes a volatile node (`Store.Vanishing`). `Scan.sound_scanFrom` proves this together with the
invariant that it rests on: the documents are what their originals have become.
-/

namespace ApiBundle

open Json

/-- Between two steps, the documents are what their originals have become. -/
structure Session.Sound (source : Source) (original : Reference → Option Json) (s : Session) :
    Prop where
  wf : s.store.WF
  reads : s.source = source
  faithful : s.store.Faithful source original

/-! ## Components with containers -/

theorem Component.container?_isSome {c : Component} (h : c.info.container.isSome) :
    c.container?.isSome := by
  obtain ⟨d, k⟩ := c
  cases d <;> cases k <;> first | exact absurd h (by decide) | decide +kernel

theorem Component.container?_of_defined? {c c' : Component} (h : c.defined? = some c') :
    c'.container?.isSome := by
  obtain ⟨d, k⟩ := c
  cases d <;> cases k <;> cases h <;> decide +kernel

theorem Reference.container?_of_treatment {r : Reference} {o : Options}
    (h : r.treatment o = .localize) : (r.component.bind Component.container?).isSome := by
  unfold treatment at h
  split at h
  · cases h
  · cases hc : r.component with
    | none => simp [hc] at h
    | some c =>
      simp only [hc] at h
      split at h
      · cases h
      · split at h
        · cases h
        · split at h
          · cases h
          · split at h
            · next hsome => exact Component.container?_isSome hsome
            · cases h

/-- Hoisting into a component with a container does not fail. -/
theorem Registry.localize_ne_error {g : Registry} {node : Json} {c : Component}
    {place : Pointer} {base : Uri} {e : BundleError} (hc : c.container?.isSome) :
    g.localize node c place base ≠ .error e := by
  intro h
  unfold localize at h
  simp only at h
  obtain ⟨container, hcontainer⟩ := Option.isSome_iff_exists.mp hc
  cases hfind : g.find? (Reference.atPointer base place).id with
  | some e' => simp [hfind] at h
  | none => simp [hfind, hcontainer] at h

namespace Scan

open Scanning Session

variable {source : Source} {original : Reference → Option Json} {nested : NestedScan}
  {base : Reference} {node : Json} {r : Reference} {t : Tracker Component} {state : Option Nat}
  {s s' : Session}

/-- A step leaves the documents sound, and fails only where a place vanishes. -/
def SoundStep (source : Source) (original : Reference → Option Json) {α : Type}
    (result : Except BundleError α) (s' : Session) : Prop :=
  s'.Sound source original ∧ ∀ e, result = .error e → Store.Vanishing original s'.store e

/-- Every scan of a kind leaves the documents sound, and fails only where a place vanishes. -/
def NestedSound (source : Source) (original : Reference → Option Json) (nested : NestedScan) :
    Prop :=
  ∀ {id phase start s result s'}, Ends (nested id phase start) s result s' →
    s.Sound source original → SoundStep source original result s'

theorem sound_ok {α : Type} {a : α} (h : s.Sound source original) :
    SoundStep source original (.ok a : Except BundleError α) s :=
  ⟨h, nofun⟩

theorem sound_of_loads {target : Except Reference ContentId} (hs : s.Sound source original)
    (h : Loads r state s target s') : s'.Sound source original := by
  cases h with
  | found look grows | lost look grows =>
    have hg := hs.reads ▸ grows
    exact ⟨hs.wf.grows hg, hs.reads, hs.faithful.grows hs.wf hg⟩

section Steps

variable (hnested : NestedSound source original nested)
include hnested

theorem sound_of_nests {id : ContentId} {phase : Phase}
    {result : Except BundleError (Option Json)} (hs : s.Sound source original)
    (h : Nests nested r id phase state s result s') : SoundStep source original result s' := by
  obtain ⟨s₁, hends, rfl⟩ := h
  obtain ⟨h₁, herr⟩ := hnested hends ⟨hs.wf, hs.reads, hs.faithful⟩
  exact ⟨⟨h₁.wf, h₁.reads, h₁.faithful⟩, herr⟩

theorem sound_of_rescansFor {id : ContentId} {result : Except BundleError (Option Json)}
    (hs : s.Sound source original) (h : RescansFor nested r id state s result s') :
    SoundStep source original result s' := by
  obtain ⟨s₁, hscan, rfl⟩ := h
  have hscan : SoundStep source original result s₁ := by
    cases hscan with
    | unloaded load => exact hnested load ⟨hs.wf, hs.reads, hs.faithful⟩
    | settled load settle =>
      exact hnested settle (hnested load ⟨hs.wf, hs.reads, hs.faithful⟩).1
  exact ⟨⟨hscan.1.wf, hscan.1.reads, hscan.1.faithful⟩, hscan.2⟩

theorem sound_of_splices {answer : Except BundleError (Disposition Completion)}
    (hs : s.Sound source original) (h : Splices nested node r state s answer s') :
    SoundStep source original answer s' := by
  cases h with
  | cycle active => exact sound_ok ⟨hs.wf, hs.reads, hs.faithful⟩
  | missing free look => exact sound_ok (sound_of_loads hs look)
  | failed free look scan =>
    obtain ⟨h₁, herr⟩ := sound_of_nests hnested (sound_of_loads hs look) scan
    exact ⟨h₁, fun e he => herr e (by cases he; rfl)⟩
  | gone free look scan | spliced free look scan =>
    exact sound_ok (sound_of_nests hnested (sound_of_loads hs look) scan).1

theorem sound_of_localizes {answer : Except BundleError (Disposition Completion)}
    (hs : s.Sound source original) (hhome : (r.component.bind Component.container?).isSome)
    (h : Localizes nested node r state s answer s') : SoundStep source original answer s' := by
  cases h with
  | bare component => exact sound_ok hs
  | known component entry => exact sound_ok hs
  | missing component entry look => exact sound_ok (sound_of_loads hs look)
  | gone component entry look nowhere => exact sound_ok (sound_of_loads hs look)
  | homeless component entry look tree hurl hoist =>
    rw [component] at hhome
    exact absurd hoist (Registry.localize_ne_error hhome)
  | active component entry look tree hurl hoist active =>
    have h₁ := sound_of_loads hs look
    exact sound_ok ⟨h₁.wf, h₁.reads, h₁.faithful⟩
  | @failed _ _ s₁ _ _ _ _ registry _ component entry look tree hurl hoist free scan =>
    have h₁ := sound_of_loads hs look
    obtain ⟨h₂, herr⟩ := sound_of_rescansFor hnested (s := s₁.withRegistry registry)
      ⟨h₁.wf, h₁.reads, h₁.faithful⟩ scan
    exact ⟨h₂, fun e he => herr e (by cases he; rfl)⟩
  | @hoisted _ _ s₁ s₂ _ _ _ registry tree' component entry look tree hurl hoist free scan =>
    have h₁ := sound_of_loads hs look
    have h₂ := (sound_of_rescansFor hnested (s := s₁.withRegistry registry)
      ⟨h₁.wf, h₁.reads, h₁.faithful⟩ scan).1
    refine sound_ok ?_
    cases tree' <;> exact ⟨h₂.wf, h₂.reads, h₂.faithful⟩

theorem sound_of_inlines {conforming : Bool}
    {answer : Except BundleError (Disposition Completion)} (hs : s.Sound source original)
    (h : Inlines nested node r conforming state s answer s') :
    SoundStep source original answer s' := by
  cases h with
  | hoisted active home localize => exact sound_of_localizes hnested hs home.2 localize
  | cycle active homeless => exact sound_ok ⟨hs.wf, hs.reads, hs.faithful⟩
  | missing free look => exact sound_ok (sound_of_loads hs look)
  | failed free look scan =>
    obtain ⟨h₁, herr⟩ := sound_of_rescansFor hnested (sound_of_loads hs look) scan
    exact ⟨h₁, fun e he => herr e (by cases he; rfl)⟩
  | gone free look scan =>
    exact sound_ok (sound_of_rescansFor hnested (sound_of_loads hs look) scan).1
  | inlined free look scan =>
    have h₁ := (sound_of_rescansFor hnested (sound_of_loads hs look) scan).1
    exact sound_ok ⟨h₁.wf, h₁.reads, h₁.faithful⟩

theorem sound_of_mergeTargets {target : Except BundleError Json} (hs : s.Sound source original)
    (h : MergeTargets nested r state s target s') : SoundStep source original target s' := by
  cases h with
  | cycle active => exact sound_ok ⟨hs.wf, hs.reads, hs.faithful⟩
  | missing free look => exact sound_ok (sound_of_loads hs look)
  | failed free look scan =>
    obtain ⟨h₁, herr⟩ := sound_of_rescansFor hnested (sound_of_loads hs look) scan
    exact ⟨h₁, fun e he => herr e (by cases he; rfl)⟩
  | scanned free look scan =>
    exact sound_ok (sound_of_rescansFor hnested (sound_of_loads hs look) scan).1

/-- Visits fail only where a place vanishes. -/
theorem sound_of_visit {phase : Phase} {answer : Except BundleError (Disposition Completion)}
    (hs : s.Sound source original) (h : Ends (visit nested phase base node t) s answer s') :
    SoundStep source original answer s' := by
  have completed {completion : Option Completion}
      {before : Except BundleError (Disposition Completion)}
      (h : SoundStep source original before s') :
      SoundStep source original (completing completion before) s' := by
    refine ⟨h.1, fun e he => h.2 e ?_⟩
    cases before with
    | ok d => cases he
    | error e' =>
      cases he
      rfl
  cases phase with
  | load =>
    cases load_ends hs.wf h with
    | plain ref => exact sound_ok hs
    | lost ref treatment => exact sound_ok ⟨hs.wf, hs.reads, hs.faithful⟩
    | merged ref treatment => exact sound_ok hs
    | kept ref treatment => exact sound_ok hs
    | spliced ref treatment splice => exact sound_of_splices hnested hs splice
  | collect =>
    cases collect_ends h with
    | plain other => exact sound_ok hs
    | failed tag hurl place entry =>
      obtain ⟨c, -, hdefined⟩ := Option.bind_eq_some_iff.mp tag
      exact absurd entry (Registry.localize_ne_error (Component.container?_of_defined? hdefined))
    | collected tag hurl place entry => exact sound_ok ⟨hs.wf, hs.reads, hs.faithful⟩
  | settle =>
    cases settle_ends hs.wf h with
    | plain ref => exact sound_ok hs
    | lost ref treatment => exact sound_ok ⟨hs.wf, hs.reads, hs.faithful⟩
    | retained ref treatment => exact sound_ok hs
    | unmerged ref treatment target =>
      obtain ⟨h₁, herr⟩ := sound_of_mergeTargets hnested hs target
      exact ⟨h₁, fun e he => herr e (by cases he; rfl)⟩
    | merged ref treatment found => exact sound_ok (sound_of_mergeTargets hnested hs found).1
    | localized ref treatment localize =>
      exact completed (sound_of_localizes hnested hs
        (Reference.container?_of_treatment treatment) localize)
    | inlined ref treatment inline => exact completed (sound_of_inlines hnested hs inline)

end Steps

/-! ## Completions -/

/-- A merge is asked for the place of the node that it completes. -/
def Placed (base : Reference) (t : Tracker Component) : Completion → Prop
  | .refresh _ => True
  | .merge _ origin _ => origin = origin? base t

theorem placed_of_visit {phase : Phase} {d : Disposition Completion} (hwf : s.store.WF)
    (h : Ends (visit nested phase base node t) s (.ok d) s') :
    ∀ c ∈ d.completion.toList, Placed base t c := by
  have plain {d : Disposition Completion} (hd : d.completion = none) :
      ∀ c ∈ d.completion.toList, Placed base t c := by
    intro c hc
    rw [hd] at hc
    cases hc
  have refreshing {d : Disposition Completion} (hd : d.completion = refresh? base t) :
      ∀ c ∈ d.completion.toList, Placed base t c := by
    intro c hc
    rw [hd, Option.mem_toList] at hc
    unfold refresh? at hc
    split at hc
    · obtain ⟨origin, -, rfl⟩ := Option.map_eq_some_iff.mp hc
      trivial
    · cases hc
  have completed {answer : Except BundleError (Disposition Completion)}
      (hd : .ok d = completing (refresh? base t) answer) : d.completion = refresh? base t := by
    cases answer with
    | error e => cases hd
    | ok d' =>
      cases hd
      rfl
  cases phase with
  | load =>
    cases load_ends hwf h with
    | plain | lost | merged | kept => exact plain rfl
    | spliced ref treatment splice => cases splice <;> exact plain rfl
  | collect => cases collect_ends h <;> exact plain rfl
  | settle =>
    generalize hanswer : (Except.ok d : Except BundleError (Disposition Completion)) = answer at h
    cases settle_ends hwf h with
    | plain | lost | retained =>
      cases hanswer
      exact refreshing rfl
    | unmerged => cases hanswer
    | merged =>
      cases hanswer
      intro c hc
      cases List.mem_singleton.mp hc
      rfl
    | localized | inlined => exact refreshing (completed hanswer)

theorem sound_of_completes {c : Completion} {y : Json} {e : Option BundleError}
    (hs : s.Sound source original) (hc : Placed base t c)
    (h : Completes node s c (y, e) s') : s'.Sound source original ∧ e = none := by
  cases h with
  | refreshed => exact ⟨⟨hs.wf, hs.reads, hs.faithful⟩, rfl⟩
  | entry => exact ⟨⟨hs.wf, hs.reads, hs.faithful⟩, rfl⟩
  | unplaced => exact ⟨hs, rfl⟩
  | overlaid => exact ⟨hs, rfl⟩
  | @failed target plain origin url e entry hurl merge =>
    -- the entry is looked for under the identity that it was just found under
    obtain ⟨url', hbase, heq⟩ := Option.map_eq_some_iff.mp (Eq.symm hc : origin? base t = _)
    have hid : (Reference.atPointer url origin.pointer).id = origin.id := by
      subst heq
      cases hurl
      simp only [Reference.atPointer, Reference.id, Uri.withoutFragment_withoutFragment]
      rfl
    unfold Registry.merge at merge
    simp only [hid, entry, if_true] at merge
    cases merge

theorem sound_of_finish {phase : Phase} {pending : List Completion} {y : Json}
    {e : Option BundleError} (hs : s.Sound source original)
    (hpending : ∀ c ∈ pending, Placed base t c)
    (h : Walk.finish (visitor nested phase base) t pending node s = some ((y, e), s')) :
    s'.Sound source original ∧ e = none := by
  induction pending generalizing node s with
  | nil =>
    cases h
    exact ⟨hs, rfl⟩
  | cons c rest ih =>
    obtain ⟨⟨z, failed⟩, s₁, hc, hrest⟩ := Bounded.bind_eq_some.mp h
    obtain ⟨hs₁, rfl⟩ :=
      sound_of_completes hs (hpending c (List.mem_cons_self ..)) (complete_cases hc)
    exact ih hs₁ (fun c' hc' => hpending c' (List.mem_cons_of_mem _ hc')) hrest

/-! ## Walks -/

theorem sound_of_threaded {kids : List (Segment × Json)} {ys : List Json}
    {e : Option BundleError}
    (h : Walk.Threaded (fun _ _ s _ e s' => s.Sound source original →
      s'.Sound source original ∧ ∀ e', e = some e' → Store.Vanishing original s'.store e')
      t kids s ys e s')
    (hs : s.Sound source original) :
    s'.Sound source original ∧ ∀ e', e = some e' → Store.Vanishing original s'.store e' := by
  induction h with
  | nil => exact ⟨hs, nofun⟩
  | fail head => exact head hs
  | cons head _ ih => exact ih (head hs).1

/-- A walk fails only where a place vanishes. -/
theorem sound_of_node (hnested : NestedSound source original nested) {phase : Phase}
    {bound : Nat} {pending : List Completion} {y : Json} {e : Option BundleError}
    (hs : s.Sound source original) (hpending : ∀ c ∈ pending, Placed base t c)
    (h : Walk.node scope (visitor nested phase base) bound pending node t s = some ((y, e), s')) :
    s'.Sound source original ∧ ∀ e', e = some e' → Store.Vanishing original s'.store e' := by
  refine Walk.node_induction (motive := fun pending _ t s _ e s' => s.Sound source original →
      (∀ c ∈ pending, Placed base t c) →
      s'.Sound source original ∧ ∀ e', e = some e' → Store.Vanishing original s'.store e')
    ?skip ?pass ?raise ?revisit ?broken ?descend ?done h hs hpending
  case skip => exact fun _ _ hs _ => ⟨hs, nofun⟩
  case pass =>
    intro _ _ _ _ _ _ _ _ _ hkids hs _
    exact sound_of_threaded (hkids.mono fun h hs => h hs fun _ hc => by cases hc) hs
  case raise =>
    intro _ _ _ _ _ _ _ hv hs _
    obtain ⟨hs', herr⟩ := sound_of_visit hnested hs hv
    refine ⟨hs', fun e' he => herr e' ?_⟩
    cases he
    rfl
  case revisit =>
    intro _ _ _ _ _ _ _ _ _ _ _ hv _ ih hs hpending
    have hvisit := sound_of_visit hnested hs hv
    refine ih hvisit.1 fun c hc => ?_
    rcases List.mem_append.mp hc with hc | hc
    · exact placed_of_visit hs.wf hv c hc
    · exact hpending c hc
  case broken =>
    intro _ _ _ _ _ _ _ _ _ _ _ hv _ hkids hs _
    have hvisit := sound_of_visit hnested hs hv
    exact sound_of_threaded (hkids.mono fun h hs => h hs fun _ hc => by cases hc) hvisit.1
  case descend =>
    intro _ _ _ _ _ _ _ _ _ _ _ _ _ hv _ hkids hfinish hs hpending
    have hvisit := sound_of_visit hnested hs hv
    have hbelow := sound_of_threaded (hkids.mono fun h hs => h hs fun _ hc => by cases hc) hvisit.1
    obtain ⟨hs', rfl⟩ := sound_of_finish hbelow.1 (fun c hc => by
      rcases List.mem_append.mp hc with hc | hc
      · exact placed_of_visit hs.wf hv c hc
      · exact hpending c hc) hfinish
    exact ⟨hs', nofun⟩
  case done =>
    intro _ _ _ _ _ _ _ _ _ _ _ hv _ hfinish hs hpending
    have hvisit := sound_of_visit hnested hs hv
    obtain ⟨hs', rfl⟩ := sound_of_finish hvisit.1 (fun c hc => by
      rcases List.mem_append.mp hc with hc | hc
      · exact placed_of_visit hs.wf hv c hc
      · exact hpending c hc) hfinish
    exact ⟨hs', nofun⟩

/-! ## What a walk gives back -/

/-- Where no reference stands, a visit leaves the node, and asks for nothing but a refresh. -/
theorem visit_plain {phase : Phase} {d : Disposition Completion} (hnode : node.refText? = none)
    (h : Ends (visit nested phase base node t) s (.ok d) s') :
    d.replacement = none ∧ ∀ c ∈ d.completion.toList, ∃ origin, c = .refresh origin := by
  have hnone (o : Options) : reference? o base node t = none := by simp [reference?, hnode]
  cases phase with
  | load =>
    unfold visit load at h
    rw [ends_get_bind] at h
    simp only [hnone, ends_pure, Except.ok.injEq] at h
    obtain ⟨rfl, -⟩ := h
    exact ⟨rfl, fun c hc => by cases hc⟩
  | collect =>
    generalize hanswer : (Except.ok d : Except BundleError (Disposition Completion)) = answer at h
    cases collect_ends h with
    | plain | collected =>
      cases hanswer
      exact ⟨rfl, fun c hc => by cases hc⟩
    | failed => cases hanswer
  | settle =>
    unfold visit settle at h
    rw [ends_get_bind] at h
    simp only [hnone, ends_pure, Except.ok.injEq] at h
    obtain ⟨rfl, -⟩ := h
    refine ⟨rfl, fun c hc => ?_⟩
    simp only [Disposition.andThen, Option.mem_toList] at hc
    split at hc
    · obtain ⟨origin, -, rfl⟩ := Option.map_eq_some_iff.mp hc
      exact ⟨origin, rfl⟩
    · cases hc

theorem settle_of_no_replacement (node : Json) {d : Disposition Completion}
    (h : d.replacement = none) :
    (d.settle node).1 = node ∧ (d.settle node).2 ≠ .revisit := by
  unfold Disposition.settle
  rw [h]
  refine ⟨rfl, ?_⟩
  simp only
  split
  · nofun
  · assumption

/-- The replacement that a walk makes, or the node if that has the same value. -/
theorem settle_cases {d : Disposition Completion} {new out : Json} {action : Action}
    (hnew : d.replacement = some new) (h : d.settle node = (out, action)) :
    (out = new ∧ action = d.action) ∨ (out = node ∧ new.sameValue node = true ∧
      action = if d.action = .revisit then .descend else d.action) := by
  unfold Disposition.settle at h
  rw [hnew] at h
  simp only at h
  split at h
  · next hsame =>
    cases h
    exact .inr ⟨rfl, hsame, rfl⟩
  · cases h
    exact .inl ⟨rfl, rfl⟩

/-- Refreshes leave the node alone. -/
theorem finish_refreshes {phase : Phase} {pending : List Completion} {y : Json}
    (hpending : ∀ c ∈ pending, ∃ origin, c = .refresh origin)
    (h : Walk.finish (visitor nested phase base) t pending node s = some ((y, none), s')) :
    y = node := by
  induction pending generalizing node s with
  | nil =>
    cases h
    rfl
  | cons c rest ih =>
    obtain ⟨⟨z, failed⟩, s₁, hc, hrest⟩ := Bounded.bind_eq_some.mp h
    obtain ⟨origin, rfl⟩ := hpending c (List.mem_cons_self ..)
    cases complete_cases hc with
    | refreshed => exact ih (fun c' hc' => hpending c' (List.mem_cons_of_mem _ hc')) hrest

theorem plain_of_kept {o x : Json} (h : Kept o x) (hfirm : ¬Volatile o) : x.refText? = none := by
  cases hx : x.refText? with
  | none => rfl
  | some text => exact absurd (h.volatile_of_refText? (by rw [hx]; rfl)) hfirm

theorem refreshes_append {pending added : List Completion}
    (hadded : ∀ c ∈ added, ∃ origin, c = Completion.refresh origin)
    (hpending : ∀ c ∈ pending, ∃ origin, c = Completion.refresh origin) :
    ∀ c ∈ added ++ pending, ∃ origin, c = Completion.refresh origin := by
  intro c hc
  rcases List.mem_append.mp hc with hc | hc
  · exact hadded c hc
  · exact hpending c hc

/-- Children that are kept make a node that is kept. -/
theorem kept_of_kids {x o : Json} {ys : List Json}
    (h : Walk.Threaded (fun x _ _ y e _ => e = none →
      (∀ c ∈ ([] : List Completion), ∃ origin, c = .refresh origin) → ∀ o, Kept o x → Kept o y)
      t x.kids s ys (none : Option BundleError) s') (ho : Kept o x) : Kept o (x.withKids ys) := by
  by_cases hvol : Volatile o
  · exact .volatile hvol
  · have hkids := h.kidwise (Q := fun _ x y => ∀ o, Kept o x → Kept o y)
      fun hR => hR rfl fun _ hc => by cases hc
    exact .of_kidwise ((ho.kidwise hvol).trans hkids fun hab hbc => hbc _ hab)

/-- A walk keeps firm nodes, whatever the nested scans do. -/
theorem kept_of_node {phase : Phase} {bound : Nat} {pending : List Completion} {y o : Json}
    (h : Walk.node scope (visitor nested phase base) bound pending node t s = some ((y, none), s'))
    (hpending : ∀ c ∈ pending, ∃ origin, c = .refresh origin) (ho : Kept o node) : Kept o y := by
  have key : ∀ {e : Option BundleError},
      Walk.node scope (visitor nested phase base) bound pending node t s = some ((y, e), s') →
      e = none → (∀ c ∈ pending, ∃ origin, c = .refresh origin) →
      ∀ o, Kept o node → Kept o y := by
    intro e h
    refine Walk.node_induction (motive := fun pending x _ _ y e _ => e = none →
      (∀ c ∈ pending, ∃ origin, c = .refresh origin) → ∀ o, Kept o x → Kept o y)
      ?skip ?pass ?raise ?revisit ?broken ?descend ?done h
    case skip => exact fun _ _ _ _ o ho => ho
    case pass =>
      intro _ x _ _ ys e _ _ _ hkids he _ o ho
      subst he
      exact kept_of_kids hkids ho
    case raise => exact fun _ _ he => by cases he
    case revisit =>
      intro pending x _ _ d _ new _ _ _ _ hv hd ih he hpending o ho
      by_cases hvol : Volatile o
      · exact .volatile hvol
      · have hplain := visit_plain (plain_of_kept ho hvol) hv
        have hnot := (settle_of_no_replacement x hplain.1).2
        rw [hd] at hnot
        exact absurd rfl hnot
    case broken => exact fun _ _ _ _ he => by cases he
    case descend =>
      intro pending x _ _ d _ new ys _ _ _ _ _ hv hd hkids hfinish he hpending o ho
      subst he
      by_cases hvol : Volatile o
      · exact .volatile hvol
      · have hplain := visit_plain (plain_of_kept ho hvol) hv
        have hsame := (settle_of_no_replacement x hplain.1).1
        rw [hd] at hsame
        cases hsame
        rw [finish_refreshes (refreshes_append hplain.2 hpending) hfinish]
        exact kept_of_kids hkids ho
    case done =>
      intro pending x _ _ d _ new _ _ _ _ hv hd hfinish he hpending o ho
      subst he
      by_cases hvol : Volatile o
      · exact .volatile hvol
      · have hplain := visit_plain (plain_of_kept ho hvol) hv
        have hsame := (settle_of_no_replacement x hplain.1).1
        rw [hd] at hsame
        cases hsame
        rw [finish_refreshes (refreshes_append hplain.2 hpending) hfinish]
        exact ho
  exact key h rfl hpending o ho

/-! ## Scans -/

/-- Every scan leaves the documents sound, and fails only where a place vanishes. -/
theorem sound_scanFrom (bound : Nat) : NestedSound source original (scanFrom bound) := by
  induction bound with
  | zero =>
    intro id phase start s result s' h
    cases h
  | succ bound ih =>
    intro id phase start s result s' h hs
    cases scanFrom_ends h with
    | empty nothing => exact sound_ok hs
    | failed content held walk =>
      obtain ⟨hs', herr⟩ := sound_of_node ih hs (fun _ hc => by cases hc) walk
      exact ⟨hs', fun e he => herr e (by cases he; rfl)⟩
    | read content held other walk =>
      exact sound_ok (sound_of_node ih hs (fun _ hc => by cases hc) walk).1
    | @written c tree y s₁ store content held load walk write =>
      have hs₁ := (sound_of_node ih hs (fun _ hc => by cases hc) walk).1
      have hev := evolves_of_node (evolves_scanFrom bound) hs.wf rfl walk
      have hw := writes_of_scan held hev y
      rw [write] at hw
      have hwritten := hs.faithful.write hs₁.faithful hev.store held
        (fun o ho => kept_of_node walk (fun _ hc => by cases hc) ho) hw
      exact sound_ok ⟨(hw.wf hs₁.wf).1, hs₁.reads, hwritten.1 store rfl⟩
    | @unwritten c tree y s₁ e content held load walk write =>
      have hs₁ := (sound_of_node ih hs (fun _ hc => by cases hc) walk).1
      have hev := evolves_of_node (evolves_scanFrom bound) hs.wf rfl walk
      have hw := writes_of_scan held hev y
      rw [write] at hw
      have hwritten := hs.faithful.write hs₁.faithful hev.store held
        (fun o ho => kept_of_node walk (fun _ hc => by cases hc) ho) hw
      exact ⟨hs₁, fun e' he => hwritten.2 e' (by cases he; rfl)⟩

end Scan

end ApiBundle
