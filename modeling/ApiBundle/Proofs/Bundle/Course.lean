import ApiBundle.Proofs.Bundle.Failure

/-!
# The course of a run

A run that gives a document has taken in its top documents, has loaded, collected and settled them,
and has written its entries into the settled root. The top documents have trees and URLs, are
scanned from the start of the dialect, and are taken in before anything is registered
(`Bundle.gathered_of_loadTops`). The registry is changed by calls only from then on. What all scans
do to a state, a run does to the state that has only its root, however it ends
(`Bundle.relates_run`).
-/

namespace ApiBundle

open Scanning Scan Store

namespace Reference

variable {text : String} {base : Option Uri} {c : Option Component}

/-- A document that can be asked for has a URL that its identity says. -/
theorem sharp_documentRef_resolve (h : (resolve text base c).documentRef.error = none) :
    ∃ u, (resolve text base c).documentRef.Sharp u := by
  have hwell : ∀ detail, (resolve text base c).error ≠ some (.malformedUrl detail) := by
    intro detail heq
    simp [documentRef, heq] at h
  obtain ⟨u, hurl, htext, hwhole⟩ := located_resolve hwell
  exact ⟨u, hurl, htext, hwhole, rfl⟩

end Reference

namespace Bundle

variable {source : Source} {o : Options} {root : Uri} {tree : Json} {d : Dialect} {bound : Nat}
  {s s' : Session} {id : ContentId} {c : Content} {phase : Phase}

/-! ## Taking documents in -/

/-- A document of its own, with a URL, that is scanned from the start of a dialect. -/
structure IsTop (d : Dialect) (c : Content) : Prop where
  start : c.start = some d.model
  whole : c.reference.pointer = .root
  sharp : ∃ u, c.reference.Sharp u
  body : ∃ tree, c.body = .document tree

theorem IsTop.of_same {c' : Content} (h : IsTop d c) (href : c'.reference = c.reference)
    (hstart : c'.start = c.start) (hkind : c'.body.kind = c.body.kind) : IsTop d c' where
  start := hstart.trans h.start
  whole := href ▸ h.whole
  sharp := href ▸ h.sharp
  body := by
    obtain ⟨tree, hbody⟩ := h.body
    rw [hbody] at hkind
    cases hb : c'.body with
    | document tree' => exact ⟨tree', rfl⟩
    | subtree | invalid =>
      rw [hb] at hkind
      cases hkind

/-- A content of a state is a top document. -/
def HasTop (d : Dialect) (s : Session) (id : ContentId) : Prop :=
  ∃ c, s.store.content? id = some c ∧ IsTop d c

theorem HasTop.evolves (h : HasTop d s id) (hev : s.Evolves s') : HasTop d s' id := by
  obtain ⟨c, hc, htop⟩ := h
  obtain ⟨c', hc', href, hstart, hkind⟩ := hev.store.content hc
  exact ⟨c', hc', htop.of_same href hstart hkind⟩

/-- Nothing has been scanned, and all documents that could be read are top documents. -/
structure Gathered (d : Dialect) (s : Session) : Prop where
  wf : s.store.WF
  dialect : s.dialect = d
  registry : s.registry = .empty
  top : ∀ {id c}, s.store.content? id = some c → c.reference.error = none → IsTop d c

theorem gathered_rooted (hroot : (Reference.forDocument root).documentRef.error = none) :
    Gathered d (rooted d o source root tree) where
  wf := (taken_rooted hroot).sound.wf
  dialect := rfl
  registry := rfl
  top := by
    intro id c hc _
    obtain ⟨rfl, rfl⟩ := content?_rooted hc
    exact ⟨rfl, rfl, Reference.sharp_documentRef_resolve hroot, tree, rfl⟩

theorem Gathered.load (h : Gathered d s) (text : String) (base : Option Uri) :
    Gathered d (s.withStore
      (s.store.load s.source (Reference.resolve text base none).documentRef (some d.model)).2) := by
  have hwf := h.wf.grows (h.wf.load s.source (Reference.resolve text base none).documentRef
    (some d.model)).choose_spec.2.1
  refine ⟨hwf, h.dialect, h.registry, fun {id c} hc hvalid => ?_⟩
  rcases content?_load hc with hold | hbody | ⟨hdoc, url, t, -, -, rfl⟩ | ⟨-, document, rfl⟩
  · exact h.top hold hvalid
  · have hfault := (hwf.faulty hc).mp hbody
    rw [hvalid] at hfault
    cases hfault
  · rw [Reference.documentRef_documentRef] at hc hvalid ⊢
    exact ⟨rfl, rfl, Reference.sharp_documentRef_resolve hvalid, t, rfl⟩
  · cases (hwf.owned hc rfl).1

theorem gathered_of_loadAdditional {location : String} (h : Gathered d s)
    (hload : Ends (loadAdditional root d.model location) s (.ok id) s') :
    Gathered d s' ∧ HasTop d s' id ∧ s.Evolves s' := by
  unfold loadAdditional loadContent at hload
  simp only at hload
  obtain ⟨id', s₁, hlook, hcheck⟩ := ends_bind_ok.mp hload
  obtain ⟨hid, rfl⟩ := ends_onStore.mp hlook
  have hgathered := h.load location (some root)
  obtain ⟨id'', hid'', hgrows, hfound⟩ := h.wf.load s.source
    (Reference.resolve location (some root) none).documentRef (some d.model)
  cases hid''.symm.trans hid.symm
  obtain ⟨c, hc, -⟩ := hgathered.wf.cached hfound
  rw [ends_get_bind] at hcheck
  split at hcheck
  · cases (ends_throw.mp hcheck).1
  · next hnone =>
    obtain ⟨heq, rfl⟩ := ends_pure.mp hcheck
    cases heq
    have hc' : (s.withStore _).store.content? id = some c := hc
    rw [hc', Option.bind_some] at hnone
    exact ⟨hgathered, ⟨c, hc', hgathered.top hc' hnone⟩,
      Session.evolves_withStore hgathered.wf hgrows.extends⟩

theorem gathered_of_loadAdditionals {locations : List String} {ids : List ContentId}
    (h : Gathered d s)
    (hload : Ends (locations.mapM (loadAdditional root d.model)) s (.ok ids) s') :
    Gathered d s' ∧ (∀ id ∈ ids, HasTop d s' id) ∧ s.Evolves s' := by
  induction locations generalizing s ids with
  | nil =>
    obtain ⟨heq, rfl⟩ := ends_pure.mp (List.mapM_nil (f := loadAdditional root d.model) ▸ hload)
    cases heq
    exact ⟨h, fun _ hid => absurd hid List.not_mem_nil, .refl h.wf⟩
  | cons location locations ih =>
    obtain ⟨id, s₁, rest, hfirst, hrest, rfl⟩ := ends_mapM_cons.mp hload
    obtain ⟨h₁, htop, hev⟩ := gathered_of_loadAdditional h hfirst
    obtain ⟨h', htops, hev'⟩ := ih h₁ hrest
    refine ⟨h', fun id' hid' => ?_, hev.trans hev'⟩
    rcases List.mem_cons.mp hid' with rfl | hid'
    · exact htop.evolves hev'
    · exact htops id' hid'

/-- What is taken in are top documents, the root first. -/
theorem gathered_of_loadTops {tops : List ContentId}
    (hroot : (Reference.forDocument root).documentRef.error = none)
    (h : Ends (loadTops root tree) (.start d o source) (.ok tops) s) :
    Gathered d s ∧ (∀ id ∈ tops, HasTop d s id) ∧ ∃ others, tops = 0 :: others := by
  unfold loadTops at h
  rw [ends_get_bind] at h
  obtain ⟨first, s₁, hfirst, h⟩ := ends_bind_ok.mp h
  have hrooted : first = 0 ∧ s₁ = rooted d o source root tree := by
    rw [ends_onStore, addDocument, create_fresh rfl] at hfirst
    exact ⟨Except.ok.inj hfirst.1, hfirst.2⟩
  obtain ⟨rfl, rfl⟩ := hrooted
  obtain ⟨others, s₂, hothers, hlast⟩ := ends_bind_ok.mp h
  obtain ⟨heq, rfl⟩ := ends_pure.mp hlast
  cases heq
  have hstart : Gathered d (rooted d o source root tree) := gathered_rooted hroot
  obtain ⟨hgathered, htops, hev⟩ := gathered_of_loadAdditionals hstart hothers
  refine ⟨hgathered, fun id hid => ?_, others, rfl⟩
  rcases List.mem_cons.mp hid with rfl | hid
  · have hroot : HasTop d (rooted d o source root tree) 0 := by
      have hcontent : (rooted d o source root tree).store.content? 0 = some _ :=
        content?_add.trans (if_pos rfl)
      exact ⟨_, hcontent, hstart.top hcontent hroot⟩
    exact hroot.evolves hev
  · exact htops id hid

/-! ## Phases -/

theorem ends_scan {result : Except BundleError (Option Json)} :
    Ends (scan bound id phase) s result s' ↔
      Ends (scanFrom bound id phase ((s.store.content? id).bind Content.start)) s result s' := by
  unfold scan
  rw [ends_get_bind]

theorem evolves_of_scan {result : Except BundleError (Option Json)} (hwf : s.store.WF)
    (h : Ends (scan bound id phase) s result s') : s.Evolves s' :=
  evolves_scanFrom bound (ends_scan.mp h) hwf

section Relates

variable {R : Session → Session → Prop} (hR : Session.Composes R)
  (hscan : ∀ id phase, Relates R (scan bound id phase))
include hR hscan

/-- A phase of a run relates states if its scans do. -/
theorem relates_phase (phase : Phase) (tops : List ContentId) :
    Relates R (tops.forM fun id => discard (scan bound id phase)) := by
  refine relates_forM hR (fun id => ?_) tops
  rw [Functor.discard, LawfulFunctor.map_const, Function.comp_apply, map_eq_pure_bind]
  exact Relates.bind hR (hscan id phase) fun _ => relates_pure hR _

theorem relates_runPhases (tops : List ContentId) : Relates R (runPhases bound tops) := by
  unfold runPhases
  refine Relates.bind hR (relates_phase hR hscan .load tops) fun _ => ?_
  refine Relates.bind hR (relates_phase hR hscan .collect tops) fun _ => ?_
  refine Relates.bind hR (relates_mapM hR (fun id => hscan id .settle) tops) fun results => ?_
  split
  · exact relates_pure hR _
  · exact relates_throw hR _

end Relates

theorem relates_scan (bound : Nat) (id : ContentId) (phase : Phase) :
    Relates Session.Evolves (scan bound id phase) :=
  fun _ _ _ hwf h => evolves_of_scan hwf h

theorem evolves_of_forM {ids : List ContentId} {result : Except BundleError PUnit}
    (hwf : s.store.WF) (h : Ends (ids.forM fun id => discard (scan bound id phase)) s result s') :
    s.Evolves s' :=
  relates_phase Session.composes_evolves (relates_scan bound) phase ids s result s' hwf h

theorem evolves_of_mapM {ids : List ContentId} {result : Except BundleError (List (Option Json))}
    (hwf : s.store.WF) (h : Ends (ids.mapM fun id => scan bound id phase) s result s') :
    s.Evolves s' :=
  relates_mapM Session.composes_evolves (fun id => relates_scan bound id phase) ids s result s'
    hwf h

/-- A run up to where its documents are loaded: the numbers of its top documents. -/
def loaded (bound : Nat) (root : Uri) (tree : Json) : Scanning (List ContentId) := do
  let tops ← loadTops root tree
  tops.forM fun id => discard (scan bound id .load)
  return tops

theorem settled_cases {y : Json} (h : Ends (settled bound root tree) s (.ok y) s') :
    ∃ tops s₁ s₂ results, Ends (loaded bound root tree) s (.ok tops) s₁ ∧
      Ends (tops.forM fun id => discard (scan bound id .collect)) s₁ (.ok ⟨⟩) s₂ ∧
      Ends (tops.mapM fun id => scan bound id .settle) s₂ (.ok results) s' ∧
      results.head?.join = some y := by
  unfold settled runPhases at h
  obtain ⟨tops, s₀, htops, h⟩ := ends_bind_ok.mp h
  obtain ⟨_, s₁, hload, h⟩ := ends_bind_ok.mp h
  obtain ⟨_, s₂, hcollect, h⟩ := ends_bind_ok.mp h
  obtain ⟨results, s₃, hsettle, h⟩ := ends_bind_ok.mp h
  have hlast : s' = s₃ ∧ results.head?.join = some y := by
    split at h
    · next hjoin =>
      obtain ⟨heq, hsame⟩ := ends_pure.mp h
      exact ⟨hsame, hjoin.trans (congrArg some (Except.ok.inj heq).symm)⟩
    · cases (ends_throw.mp h).1
  obtain ⟨rfl, hy⟩ := hlast
  refine ⟨tops, s₁, s₂, results, ?_, hcollect, hsettle, hy⟩
  unfold loaded
  exact ends_bind_ok.mpr ⟨tops, s₀, htops,
    ends_bind_ok.mpr ⟨⟨⟩, s₁, hload, ends_pure.mpr ⟨rfl, rfl⟩⟩⟩

theorem loaded_cases {tops : List ContentId}
    (h : Ends (loaded bound root tree) s (.ok tops) s') :
    ∃ s₀, Ends (loadTops root tree) s (.ok tops) s₀ ∧
      Ends (tops.forM fun id => discard (scan bound id .load)) s₀ (.ok ⟨⟩) s' := by
  unfold loaded at h
  obtain ⟨tops', s₀, htops, h⟩ := ends_bind_ok.mp h
  obtain ⟨_, s₁, hload, hlast⟩ := ends_bind_ok.mp h
  obtain ⟨heq, rfl⟩ := ends_pure.mp hlast
  cases heq
  exact ⟨s₀, htops, hload⟩

/-- The registry of a run comes from the empty one by calls for the dialect. -/
theorem reaches_of_settled {y : Json}
    (hroot : (Reference.forDocument root).documentRef.error = none)
    (h : Ends (settled bound root tree) (.start d o source) (.ok y) s') :
    Registry.Reaches d .empty s'.registry := by
  obtain ⟨tops, s₁, s₂, results, hloaded, hcollect, hsettle, -⟩ := settled_cases h
  obtain ⟨s₀, htops, hload⟩ := loaded_cases hloaded
  obtain ⟨hgathered, -, -⟩ := gathered_of_loadTops hroot htops
  have hev := evolves_of_forM hgathered.wf hload
  have hev := hev.trans (evolves_of_forM hev.wf hcollect)
  have hev := hev.trans (evolves_of_mapM hev.wf hsettle)
  have hcalls := hev.calls
  rwa [hgathered.registry, hgathered.dialect] at hcalls

section Relates

variable {R : Session → Session → Prop} (hR : Session.Composes R)
include hR

/-- However taking documents in ends, its end is related to the state that has only the root. -/
theorem relates_loadTops (hload : ∀ r start, Relates R (loadContent r start))
    (hroot : (Reference.forDocument root).documentRef.error = none)
    {result : Except BundleError (List ContentId)}
    (h : Ends (loadTops root tree) (.start d o source) result s') :
    R (rooted d o source root tree) s' := by
  have hadditional (location : String) : Relates R (loadAdditional root d.model location) := by
    unfold loadAdditional
    refine Relates.bind hR (hload _ _) fun id => Relates.get_bind fun s => ?_
    split
    · exact relates_throw hR _
    · exact relates_pure hR _
  have hothers := relates_mapM hR hadditional o.additionalFiles
  unfold loadTops at h
  rw [ends_get_bind, show (Session.start d o source).dialect = d from rfl,
    ends_bind_of addRoot_ends] at h
  exact Relates.bind hR hothers (fun _ => relates_pure hR _) _ result s'
    (taken_rooted hroot).sound.wf h

/-- However a run ends, its end is related to the state that has only its root. -/
theorem relates_run (hload : ∀ r start, Relates R (loadContent r start))
    (hscan : ∀ id phase, Relates R (scan bound id phase))
    (hroot : (Reference.forDocument root).documentRef.error = none)
    {result : Except BundleError Json}
    (h : Ends (run bound root tree) (.start d o source) result s') :
    R (rooted d o source root tree) s' := by
  unfold run settled at h
  rw [bind_assoc] at h
  rcases ends_bind.mp h with ⟨e, htops, rfl⟩ | ⟨tops, s₁, htops, hrest⟩
  · exact relates_loadTops hR hload hroot htops
  · have hfirst := relates_loadTops hR hload hroot htops
    refine hR.trans hfirst (Relates.bind hR (relates_runPhases hR hscan tops) (fun y => ?_)
      s₁ result s' (hR.evolves hfirst).wf hrest)
    refine Relates.get_bind fun s => ?_
    exact Relates.bind hR (relates_ofExcept hR _) fun _ => relates_pure hR _

end Relates

/-- A run that gives a document settles its root, and writes the entries into it. -/
theorem run_cases {out : Json} (h : Ends (run bound root tree) s (.ok out) s') :
    ∃ y assembled, Ends (settled bound root tree) s (.ok y) s' ∧
      s'.registry.assemble y = .ok assembled ∧ out = assembled.stripAdornments := by
  unfold run at h
  obtain ⟨y, s₁, hsettled, h⟩ := ends_bind_ok.mp h
  rw [ends_get_bind] at h
  obtain ⟨assembled, s₂, hassemble, hlast⟩ := ends_bind_ok.mp h
  obtain ⟨hassemble, rfl⟩ := ends_ofExcept.mp hassemble
  obtain ⟨heq, rfl⟩ := ends_pure.mp hlast
  exact ⟨y, assembled, hsettled, hassemble.symm, Except.ok.inj heq⟩

end Bundle

end ApiBundle
