import ApiBundle.Proofs.Scan.Failure
import ApiBundle.Proofs.Store.Trees
import ApiBundle.Proofs.Tree.Paired

/-!
# Adornments stay beside reference texts

Where all documents are paired (`Json.Paired`), everything that a run holds is: the documents of the
store after scanned trees were written back, the contents of the entries, what is left to be
overlaid, and what scans give back (`Scan.paired_scanFrom`). The one thing to watch is the text under
a `$ref`, which a walk visits like other nodes: it is no reference node, so it stays what it is.
-/

namespace ApiBundle

open Json (Paired)

/-- What is left to do at a node makes paired nodes. -/
def Completion.Paired : Completion → Prop
  | .refresh _ => True
  | .merge target _ plain => target.Throughout Json.Paired ∧ plain.Throughout Json.Paired

/-- Everything that a run holds is paired. -/
structure Session.Paired (s : Session) : Prop where
  wf : s.store.WF
  supplies : s.source.Supplies Json.Paired
  documents : s.store.Throughout Json.Paired
  entries : ∀ e ∈ s.registry.entries, e.node.Throughout Json.Paired

/-! ## The registry -/

namespace Registry

variable {r r' : Registry} {node : Json}

theorem throughout_updateNode {P : Json → Prop} (h : ∀ e ∈ r.entries, e.node.Throughout P)
    {f : Json → Json} (hf : ∀ x, x.Throughout P → (f x).Throughout P) (i : RefId) :
    ∀ e ∈ (r.updateNode i f).entries, e.node.Throughout P := by
  intro e he
  obtain ⟨e₀, he₀, rfl⟩ := List.mem_map.mp he
  split
  · exact hf _ (h e₀ he₀)
  · exact h e₀ he₀

theorem throughout_localize {P : Json → Prop} (h : ∀ e ∈ r.entries, e.node.Throughout P)
    (hnode : node.Throughout P) {c : Component} {place : Pointer} {base : Uri} {e : Entry}
    (hlocal : r.localize node c place base = .ok (e, r')) :
    ∀ e ∈ r'.entries, e.node.Throughout P := by
  rcases localize_cases hlocal with ⟨rfl, -⟩ | ⟨_, -, -, rfl, rfl⟩
  · exact h
  · intro e' he'
    rcases List.mem_append.mp he' with he' | he'
    · exact h e' he'
    · cases List.mem_singleton.mp he'
      exact hnode

theorem paired_merge (h : ∀ e ∈ r.entries, e.node.Throughout Paired)
    (hnode : node.Throughout Paired) {place : Pointer} {base : Uri}
    (hmerge : r.merge node place base = .ok r') : ∀ e ∈ r'.entries, e.node.Throughout Paired := by
  unfold merge at hmerge
  simp only at hmerge
  split at hmerge
  · cases hmerge
    exact throughout_updateNode h (fun x hx => Json.paired_mergeFields hx hnode) _
  · cases hmerge

end Registry

/-! ## Steps -/

namespace Session.Paired

variable {s s' : Session} {r : Reference} {i : RefId} {node : Json}

theorem congr (h : s.Paired) (hsource : s'.source = s.source) (hstore : s'.store = s.store)
    (hregistry : s'.registry = s.registry) : s'.Paired where
  wf := hstore ▸ h.wf
  supplies := hsource ▸ h.supplies
  documents := hstore ▸ h.documents
  entries := hregistry ▸ h.entries

theorem enter (h : s.Paired) (r : Reference) : (s.enter r).Paired := h.congr rfl rfl rfl

theorem leave (h : s.Paired) (r : Reference) : (s.leave r).Paired := h.congr rfl rfl rfl

theorem lose (h : s.Paired) (r : Reference) : (s.lose r).Paired := h.congr rfl rfl rfl

theorem finish (h : s.Paired) (r : Reference) : (s.finish r).Paired := h.congr rfl rfl rfl

theorem withRegistry {g : Registry} (h : s.Paired)
    (hg : ∀ e ∈ g.entries, e.node.Throughout Json.Paired) : (s.withRegistry g).Paired :=
  ⟨h.wf, h.supplies, h.documents, hg⟩

theorem withStore {store : Store} (h : s.Paired) (hwf : store.WF)
    (hstore : store.Throughout Json.Paired) : (s.withStore store).Paired :=
  ⟨hwf, h.supplies, hstore, h.entries⟩

theorem refreshed (h : s.Paired) (hnode : node.Throughout Json.Paired) (i : RefId) :
    (s.refreshed i node).Paired :=
  h.withRegistry (Registry.throughout_updateNode h.entries (fun _ _ => hnode) i)

theorem hoisted {tree : Option Json} (h : s.Paired)
    (htree : ∀ y, tree = some y → y.Throughout Json.Paired) :
    (Scan.hoisted s r tree).Paired := by
  cases tree with
  | none => exact h.finish r
  | some y => exact (h.refreshed (htree y rfl) r.id).finish r

end Session.Paired

namespace Scan

open Scanning Session

variable {nested : NestedScan} {base : Reference} {x node : Json} {r : Reference}
  {t : Tracker Component} {state : Option Nat} {s s' : Session}

/-- Every scan of a kind keeps all that a run holds paired, and gives paired trees back. -/
structure NestedPaired (nested : NestedScan) : Prop where
  evolves : NestedEvolves nested
  paired : ∀ {id phase start s result s'}, s.Paired → Ends (nested id phase start) s result s' →
    s'.Paired ∧ ∀ y, result = .ok (some y) → y.Throughout Paired

/-- An answer to a visit has paired nodes only. -/
def PairedAnswer (answer : Except BundleError (Disposition Completion)) : Prop :=
  ∀ d, answer = .ok d → (∀ y, d.replacement = some y → y.Throughout Paired) ∧
    ∀ c, d.completion = some c → c.Paired

theorem pairedAnswer_of_replacement {d : Disposition Completion}
    (h : ∀ y, d.replacement = some y → y.Throughout Paired) (hnone : d.completion = none) :
    PairedAnswer (.ok d) := by
  intro d' hd
  cases hd
  refine ⟨h, fun c hc => ?_⟩
  rw [hnone] at hc
  cases hc

theorem pairedAnswer_doneWith {y : Json} (h : y.Throughout Paired) :
    PairedAnswer (.ok (.doneWith y)) :=
  pairedAnswer_of_replacement (fun _ hz => Option.some.inj hz ▸ h) rfl

theorem pairedAnswer_error (e : BundleError) : PairedAnswer (.error e) :=
  fun _ hd => by cases hd

theorem paired_of_loads {target : Except Reference ContentId} (hs : s.Paired)
    (h : Loads r state s target s') : s'.Paired := by
  have hwf := (evolves_of_loads hs.wf h).wf
  cases h with
  | found look grows => exact hs.withStore hwf (hs.documents.grows hs.supplies grows)
  | lost look grows => exact (hs.withStore hwf (hs.documents.grows hs.supplies grows)).lose _

section Steps

variable (hnested : NestedPaired nested)
include hnested

theorem paired_of_nests {id : ContentId} {phase : Phase}
    {result : Except BundleError (Option Json)} (hs : s.Paired)
    (h : Nests nested r id phase state s result s') :
    s'.Paired ∧ ∀ y, result = .ok (some y) → y.Throughout Paired := by
  obtain ⟨s₁, hends, rfl⟩ := h
  obtain ⟨hs₁, hy⟩ := hnested.paired (hs.enter r) hends
  exact ⟨hs₁.leave r, hy⟩

theorem paired_of_rescansFor {id : ContentId} {result : Except BundleError (Option Json)}
    (hs : s.Paired) (h : RescansFor nested r id state s result s') :
    s'.Paired ∧ ∀ y, result = .ok (some y) → y.Throughout Paired := by
  obtain ⟨s₁, hscan, rfl⟩ := h
  cases hscan with
  | unloaded load =>
    obtain ⟨hs₁, -⟩ := hnested.paired (hs.enter r) load
    exact ⟨hs₁.leave r, fun y hy => by cases hy⟩
  | settled load settle =>
    obtain ⟨hloaded, -⟩ := hnested.paired (hs.enter r) load
    obtain ⟨hs₁, hy⟩ := hnested.paired hloaded settle
    exact ⟨hs₁.leave r, hy⟩

theorem paired_of_splices {answer : Except BundleError (Disposition Completion)}
    (hs : s.Paired) (hnode : node.Throughout Paired)
    (h : Splices nested node r state s answer s') : s'.Paired ∧ PairedAnswer answer := by
  cases h with
  | cycle active => exact ⟨hs.lose _, pairedAnswer_doneWith (Json.paired_adorned hnode _)⟩
  | missing free look =>
    exact ⟨paired_of_loads hs look, pairedAnswer_doneWith (Json.paired_adorned hnode _)⟩
  | failed free look scan =>
    exact ⟨(paired_of_nests hnested (paired_of_loads hs look) scan).1, pairedAnswer_error _⟩
  | gone free look scan =>
    exact ⟨(paired_of_nests hnested (paired_of_loads hs look) scan).1,
      pairedAnswer_doneWith (Json.paired_adorned hnode _)⟩
  | spliced free look scan =>
    obtain ⟨hs', hy⟩ := paired_of_nests hnested (paired_of_loads hs look) scan
    exact ⟨hs', pairedAnswer_of_replacement (fun z hz => Option.some.inj hz ▸ hy _ rfl) rfl⟩

theorem paired_of_localizes {answer : Except BundleError (Disposition Completion)}
    (hs : s.Paired) (hnode : node.Throughout Paired)
    (h : Localizes nested node r state s answer s') : s'.Paired ∧ PairedAnswer answer := by
  have hkeep := pairedAnswer_doneWith (Json.paired_withoutAdornment hnode)
  have hpoint (e : Entry) := pairedAnswer_doneWith (Json.paired_refNode e.refText)
  have hoisted {id : ContentId} {s₁ : Session} {raw : Json} {c : Component} {url : Uri} {e : Entry}
      {registry : Registry} (look : Loads r state s (.ok id) s₁)
      (tree : s₁.store.tree? id = some raw)
      (hoist : s₁.registry.localize raw c r.pointer url = .ok (e, registry)) :
      (s₁.withRegistry registry).Paired := by
    have hs₁ := paired_of_loads hs look
    exact hs₁.withRegistry
      (Registry.throughout_localize hs₁.entries (hs₁.documents.tree tree) hoist)
  cases h with
  | bare component => exact ⟨hs, hkeep⟩
  | known component entry => exact ⟨hs, hpoint _⟩
  | missing component entry look | gone component entry look nowhere =>
    exact ⟨paired_of_loads hs look, hkeep⟩
  | homeless component entry look => exact ⟨paired_of_loads hs look, pairedAnswer_error _⟩
  | active component entry look tree hurl hoist active => exact ⟨hoisted look tree hoist, hpoint _⟩
  | failed component entry look tree hurl hoist free scan =>
    exact ⟨(paired_of_rescansFor hnested (hoisted look tree hoist) scan).1, pairedAnswer_error _⟩
  | hoisted component entry look tree hurl hoist free scan =>
    obtain ⟨hs₂, hy⟩ := paired_of_rescansFor hnested (hoisted look tree hoist) scan
    exact ⟨hs₂.hoisted fun y hy' => hy y (hy' ▸ rfl), hpoint _⟩

theorem paired_of_inlines {conforming : Bool}
    {answer : Except BundleError (Disposition Completion)} (hs : s.Paired)
    (hnode : node.Throughout Paired) (h : Inlines nested node r conforming state s answer s') :
    s'.Paired ∧ PairedAnswer answer := by
  have hkeep := pairedAnswer_doneWith (Json.paired_withoutAdornment hnode)
  cases h with
  | hoisted active home localize => exact paired_of_localizes hnested hs hnode localize
  | cycle active homeless => exact ⟨hs.lose _, hkeep⟩
  | missing free look => exact ⟨paired_of_loads hs look, hkeep⟩
  | failed free look scan =>
    exact ⟨(paired_of_rescansFor hnested (paired_of_loads hs look) scan).1, pairedAnswer_error _⟩
  | gone free look scan =>
    exact ⟨(paired_of_rescansFor hnested (paired_of_loads hs look) scan).1, hkeep⟩
  | inlined free look scan =>
    obtain ⟨hs', hy⟩ := paired_of_rescansFor hnested (paired_of_loads hs look) scan
    exact ⟨hs'.refreshed (hy _ rfl) _, pairedAnswer_doneWith (hy _ rfl)⟩

theorem paired_of_mergeTargets {target : Except BundleError Json} (hs : s.Paired)
    (h : MergeTargets nested r state s target s') :
    s'.Paired ∧ ∀ y, target = .ok y → y.Throughout Paired := by
  have hplain : r.plainNode.Throughout Paired := Json.paired_refNode r.text
  cases h with
  | cycle active => exact ⟨hs.lose _, fun y hy => Except.ok.inj hy ▸ hplain⟩
  | missing free look => exact ⟨paired_of_loads hs look, fun y hy => Except.ok.inj hy ▸ hplain⟩
  | failed free look scan =>
    exact ⟨(paired_of_rescansFor hnested (paired_of_loads hs look) scan).1,
      fun y hy => by cases hy⟩
  | @scanned id s₁ s₂ tree free look scan =>
    obtain ⟨hs', hy⟩ := paired_of_rescansFor hnested (paired_of_loads hs look) scan
    refine ⟨hs', fun y hy' => Except.ok.inj hy' ▸ ?_⟩
    cases tree with
    | none => exact hplain
    | some tree => exact hy tree rfl

omit hnested in
theorem paired_refresh? {c : Completion} (h : refresh? base t = some c) : c.Paired := by
  unfold refresh? at h
  split at h
  · obtain ⟨origin, -, rfl⟩ := Option.map_eq_some_iff.mp h
    trivial
  · cases h

omit hnested in
theorem PairedAnswer.completing {answer : Except BundleError (Disposition Completion)}
    (h : PairedAnswer answer) : PairedAnswer (completing (refresh? base t) answer) := by
  intro d hd
  cases answer with
  | error e => cases hd
  | ok d₀ =>
    cases hd
    exact ⟨(h d₀ rfl).1, fun c hc => paired_refresh? hc⟩

/-- A visit of a paired node keeps everything paired. -/
theorem paired_of_visit {phase : Phase} {answer : Except BundleError (Disposition Completion)}
    (hs : s.Paired) (hx : x.Throughout Paired) (h : Ends (visit nested phase base x t) s answer s') :
    s'.Paired ∧ PairedAnswer answer := by
  have hunchanged {d : Disposition Completion} (hreplacement : d.replacement = none)
      (hcompletion : d.completion = none) : PairedAnswer (.ok d) := by
    refine pairedAnswer_of_replacement (fun y hy => ?_) hcompletion
    rw [hreplacement] at hy
    cases hy
  cases phase with
  | load =>
    have hadorned (r : Reference) := Json.paired_adorned hx r
    cases load_ends hs.wf h with
    | plain ref => exact ⟨hs, hunchanged rfl rfl⟩
    | lost ref treatment => exact ⟨hs.lose _, pairedAnswer_doneWith (hadorned _)⟩
    | merged ref treatment =>
      exact ⟨hs, pairedAnswer_of_replacement (fun z hz => Option.some.inj hz ▸ hadorned _) rfl⟩
    | kept ref treatment => exact ⟨hs, pairedAnswer_doneWith (hadorned _)⟩
    | spliced ref treatment splice => exact paired_of_splices hnested hs hx splice
  | collect =>
    cases collect_ends h with
    | plain other => exact ⟨hs, hunchanged rfl rfl⟩
    | failed => exact ⟨hs, pairedAnswer_error _⟩
    | collected tag hurl place entry =>
      refine ⟨hs.withRegistry (Registry.throughout_localize hs.entries ?_ entry),
        hunchanged rfl rfl⟩
      split
      · exact Json.paired_withoutRef hx
      · exact hx
  | settle =>
    have hkeep : PairedAnswer (completing (refresh? base t) (.ok (.doneWith x.withoutAdornment))) :=
      (pairedAnswer_doneWith (Json.paired_withoutAdornment hx)).completing
    cases settle_ends hs.wf h with
    | plain ref =>
      have hdescend : PairedAnswer (.ok .descend) := hunchanged rfl rfl
      exact ⟨hs, hdescend.completing⟩
    | lost ref treatment => exact ⟨hs.lose _, hkeep⟩
    | retained ref treatment => exact ⟨hs, hkeep⟩
    | unmerged ref treatment target =>
      exact ⟨(paired_of_mergeTargets hnested hs target).1, pairedAnswer_error _⟩
    | @merged r target s' ref treatment found =>
      obtain ⟨hs', htarget⟩ := paired_of_mergeTargets hnested hs found
      refine ⟨hs', fun d hd => ?_⟩
      cases hd
      refine ⟨fun z hz => Option.some.inj hz ▸ Json.paired_withoutRef hx, fun c hc => ?_⟩
      cases hc
      exact ⟨htarget target rfl, Json.paired_refNode r.text⟩
    | localized ref treatment localize =>
      obtain ⟨hs', hanswer⟩ := paired_of_localizes hnested hs hx localize
      exact ⟨hs', hanswer.completing⟩
    | inlined ref treatment inline =>
      obtain ⟨hs', hanswer⟩ := paired_of_inlines hnested hs hx inline
      exact ⟨hs', hanswer.completing⟩

end Steps

theorem paired_of_completes {c : Completion} {y : Json} {e : Option BundleError} (hs : s.Paired)
    (hnode : node.Throughout Paired) (hc : c.Paired) (h : Completes node s c (y, e) s') :
    s'.Paired ∧ y.Throughout Paired := by
  cases h with
  | refreshed => exact ⟨hs.refreshed hnode _, hnode⟩
  | entry entry hurl merge =>
    exact ⟨hs.withRegistry (Registry.paired_merge hs.entries hc.1 merge), hc.2⟩
  | failed => exact ⟨hs, hnode⟩
  | unplaced => exact ⟨hs, hc.2⟩
  | overlaid => exact ⟨hs, Json.paired_mergeFields hnode hc.1⟩

theorem paired_of_finish {phase : Phase} {pending : List Completion} {y : Json}
    {e : Option BundleError} (hs : s.Paired) (hnode : node.Throughout Paired)
    (hpending : ∀ c ∈ pending, c.Paired)
    (h : Walk.finish (visitor nested phase base) t pending node s = some ((y, e), s')) :
    s'.Paired ∧ y.Throughout Paired := by
  induction pending generalizing node s with
  | nil =>
    cases h
    exact ⟨hs, hnode⟩
  | cons c rest ih =>
    obtain ⟨⟨z, failed⟩, s₁, hc, hrest⟩ := Bounded.bind_eq_some.mp h
    obtain ⟨hs₁, hz⟩ :=
      paired_of_completes hs hnode (hpending c (List.mem_cons_self ..)) (complete_cases hc)
    cases failed with
    | some e =>
      cases hrest
      exact ⟨hs₁, hz⟩
    | none => exact ih hs₁ hz (fun c hc => hpending c (List.mem_cons_of_mem _ hc)) hrest

/-! ## Walks -/

/-- Whether nothing but refreshes is left to do. -/
def OnlyRefreshes (pending : List Completion) : Prop :=
  ∀ c ∈ pending, ∃ origin, c = .refresh origin

/-- What a walk makes of a paired node and of the state. -/
def PairedWalk (pending : List Completion) (x : Json) (s : Session) (y : Json)
    (e : Option BundleError) (s' : Session) : Prop :=
  s.Paired → x.Throughout Paired → (∀ c ∈ pending, c.Paired) → s'.Paired ∧
    (e = none → y.Throughout Paired ∧
      (OnlyRefreshes pending → ∀ text, x = .string text → y = .string text))

/-- The node that a walk goes on with after a visit. -/
theorem paired_of_settle {d : Disposition Completion} {new : Json} {action : Action}
    (hx : x.Throughout Paired) (hd : ∀ y, d.replacement = some y → y.Throughout Paired)
    (h : d.settle x = (new, action)) : new.Throughout Paired := by
  cases hreplacement : d.replacement with
  | none =>
    have hsame := (settle_of_no_replacement x hreplacement).1
    rw [h] at hsame
    cases hsame
    exact hx
  | some y =>
    rcases settle_cases hreplacement h with ⟨rfl, -⟩ | ⟨rfl, -⟩
    · exact hd _ hreplacement
    · exact hx

/-- A text is not touched by a visit. -/
theorem settle_text {phase : Phase} {d : Disposition Completion} {new : Json} {action : Action}
    {text : String} (hv : Ends (visit nested phase base (.string text) t) s (.ok d) s')
    (h : d.settle (.string text) = (new, action)) :
    new = .string text ∧ action ≠ .revisit ∧ OnlyRefreshes d.completion.toList := by
  have hplain : (Json.string text).refText? = none := rfl
  obtain ⟨hnone, hrefreshes⟩ := visit_plain hplain hv
  have hsame := settle_of_no_replacement (.string text) hnone
  rw [h] at hsame
  exact ⟨hsame.1, hsame.2, hrefreshes⟩

theorem paired_of_kids {kids : List (Segment × Json)} {ys : List Json} {e : Option BundleError}
    (h : Walk.Threaded (fun x _ s y e s' => PairedWalk [] x s y e s') t kids s ys e s')
    (hs : s.Paired) (hkids : ∀ k ∈ kids, k.2.Throughout Paired) :
    s'.Paired ∧ (e = none → ∀ k ∈ kids.zip ys,
      (∀ text, k.1.2 = .string text → k.2 = .string text) ∧ k.2.Throughout Paired) := by
  induction h with
  | nil => exact ⟨hs, fun _ k hk => by cases hk⟩
  | fail head =>
    exact ⟨(head hs (hkids _ (List.mem_cons_self ..)) (List.forall_mem_nil _)).1,
      fun he => by cases he⟩
  | cons head _ ih =>
    obtain ⟨hs₁, hhead⟩ := head hs (hkids _ (List.mem_cons_self ..)) (List.forall_mem_nil _)
    obtain ⟨hs', hrest⟩ := ih hs₁ fun k hk => hkids k (List.mem_cons_of_mem _ hk)
    refine ⟨hs', fun he k hk => ?_⟩
    rcases List.mem_cons.mp hk with rfl | hk
    · obtain ⟨hy, htext⟩ := hhead rfl
      exact ⟨htext (List.forall_mem_nil _), hy⟩
    · exact hrest he k hk

/-- Walking a paired tree keeps everything paired, and leaves texts alone. -/
theorem paired_of_node (hnested : NestedPaired nested) {phase : Phase} {bound : Nat}
    {pending : List Completion} {y : Json} {e : Option BundleError}
    (h : Walk.node scope (visitor nested phase base) bound pending x t s = some ((y, e), s')) :
    PairedWalk pending x s y e s' := by
  have walked {t : Tracker Component} {x : Json} {s s' : Session} {ys : List Json}
      {e : Option BundleError}
      (hkids : Walk.Threaded (fun x _ s y e s' => PairedWalk [] x s y e s') t x.kids s ys e s')
      (hs : s.Paired) (hx : x.Throughout Paired) :
      s'.Paired ∧ (e = none → (x.withKids ys).Throughout Paired) := by
    obtain ⟨hs', hys⟩ := paired_of_kids hkids hs fun k hk => hx.kid hk
    exact ⟨hs', fun he => Json.paired_withKids hx hkids.length_eq (hys he)⟩
  have pending_of {d : Disposition Completion} {pending : List Completion}
      (hd : ∀ c, d.completion = some c → c.Paired) (hpending : ∀ c ∈ pending, c.Paired) :
      ∀ c ∈ d.completion.toList ++ pending, c.Paired := by
    intro c hc
    rcases List.mem_append.mp hc with hc | hc
    · exact hd c (Option.mem_toList.mp hc)
    · exact hpending c hc
  -- that texts stay what they are goes along, for the nodes that have one under `$ref`
  refine Walk.node_induction
    (motive := fun pending x _ s y e s' => PairedWalk pending x s y e s')
    ?skip ?pass ?raise ?revisit ?broken ?descend ?done h
  case skip => exact fun _ _ hs hx _ => ⟨hs, fun _ => ⟨hx, fun _ _ htext => htext⟩⟩
  case pass =>
    intro _ x _ _ ys e s' _ _ hkids hs hx _
    obtain ⟨hs', hy⟩ := walked hkids hs hx
    refine ⟨hs', fun he => ⟨hy he, ?_⟩⟩
    rintro - text rfl
    rfl
  case raise =>
    intro _ _ _ _ _ _ _ hv hs hx _
    exact ⟨(paired_of_visit hnested hs hx hv).1, fun he => by cases he⟩
  case revisit =>
    intro _ x _ _ d _ new _ _ _ _ hv hd ih hs hx hpending
    obtain ⟨hs₁, hanswer⟩ := paired_of_visit hnested hs hx hv
    obtain ⟨hreplacement, hcompletion⟩ := hanswer d rfl
    obtain ⟨hs', hy⟩ := ih hs₁ (paired_of_settle hx hreplacement hd)
      (pending_of hcompletion hpending)
    refine ⟨hs', fun he => ⟨(hy he).1, ?_⟩⟩
    rintro - text rfl
    exact absurd rfl (settle_text hv hd).2.1
  case broken =>
    intro _ x _ _ d _ new _ _ _ _ hv hd hkids hs hx _
    obtain ⟨hs₁, hanswer⟩ := paired_of_visit hnested hs hx hv
    obtain ⟨hs', -⟩ := walked hkids hs₁ (paired_of_settle hx (hanswer d rfl).1 hd)
    exact ⟨hs', fun he => by cases he⟩
  case descend =>
    intro _ x _ _ d _ new _ _ y e _ _ hv hd hkids hfinish hs hx hpending
    obtain ⟨hs₁, hanswer⟩ := paired_of_visit hnested hs hx hv
    obtain ⟨hreplacement, hcompletion⟩ := hanswer d rfl
    obtain ⟨hs₂, hnew⟩ := walked hkids hs₁ (paired_of_settle hx hreplacement hd)
    obtain ⟨hs', hy⟩ := paired_of_finish hs₂ (hnew rfl) (pending_of hcompletion hpending) hfinish
    refine ⟨hs', fun he => ⟨hy, ?_⟩⟩
    rintro hrefreshes text rfl
    subst he
    obtain ⟨rfl, -, hadded⟩ := settle_text hv hd
    exact finish_refreshes (refreshes_append hadded hrefreshes) hfinish
  case done =>
    intro _ x _ _ d _ new y e _ _ hv hd hfinish hs hx hpending
    obtain ⟨hs₁, hanswer⟩ := paired_of_visit hnested hs hx hv
    obtain ⟨hreplacement, hcompletion⟩ := hanswer d rfl
    obtain ⟨hs', hy⟩ := paired_of_finish hs₁ (paired_of_settle hx hreplacement hd)
      (pending_of hcompletion hpending) hfinish
    refine ⟨hs', fun he => ⟨hy, ?_⟩⟩
    rintro hrefreshes text rfl
    subst he
    obtain ⟨rfl, -, hadded⟩ := settle_text hv hd
    exact finish_refreshes (refreshes_append hadded hrefreshes) hfinish

/-! ## Scans -/

/-- All scans keep what a run holds paired, and give paired trees back. -/
theorem paired_scanFrom (bound : Nat) : NestedPaired (scanFrom bound) := by
  induction bound with
  | zero => exact ⟨evolves_scanFrom 0, fun _ h => by cases h⟩
  | succ bound ih =>
    refine ⟨evolves_scanFrom (bound + 1), fun {id phase start s result s'} hs h => ?_⟩
    have walked {c : Content} {tree y : Json} {e : Option BundleError} {s₁ : Session}
        (held : s.store.tree? id = some tree)
        (walk : Walks bound phase c.reference start tree s y e s₁) : s₁.Paired ∧
          (e = none → y.Throughout Paired ∧ ∀ text, tree = .string text → y = .string text) := by
      obtain ⟨hs₁, hy⟩ := paired_of_node ih walk hs (hs.documents.tree held)
        (List.forall_mem_nil _)
      exact ⟨hs₁, fun he => ⟨(hy he).1, (hy he).2 (List.forall_mem_nil _)⟩⟩
    cases scanFrom_ends h with
    | empty nothing => exact ⟨hs, fun y hy => by cases hy⟩
    | failed content held walk => exact ⟨(walked held walk).1, fun y hy => by cases hy⟩
    | read content held other walk =>
      obtain ⟨hs', hy⟩ := walked held walk
      exact ⟨hs', fun z hz => by cases hz; exact (hy rfl).1⟩
    | @written c tree y s₁ store content held load walk write =>
      obtain ⟨hs₁, hy⟩ := walked held walk
      obtain ⟨hpaired, htext⟩ := hy rfl
      have hev := evolves_of_node (evolves_scanFrom bound) hs.wf rfl walk
      have hw := writes_of_scan held hev y
      rw [write] at hw
      refine ⟨hs₁.withStore (hw.wf hs₁.wf).1 ?_, fun z hz => by cases hz; exact hpaired⟩
      -- the place may be the one under a `$ref`: then a text was scanned, and it is one still
      refine hs.documents.write_of hs₁.documents hev.store held hpaired
        (fun hold hplace hwhole hnew => ?_) hw
      refine Json.paired_overwrite hwhole hpaired (fun front heq => ?_) hnew
      obtain ⟨text, htree⟩ := Json.text_of_lookup hold (heq ▸ hplace)
      exact ⟨text, htext text htree⟩
    | unwritten content held load walk write =>
      exact ⟨(walked held walk).1, fun y hy => by cases hy⟩

end Scan

end ApiBundle
