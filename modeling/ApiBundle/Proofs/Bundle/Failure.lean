import ApiBundle.Proofs.Registry.Assembly
import ApiBundle.Proofs.Scan.Failure

/-!
# How runs fail

A run whose root and additional documents can be read fails for one reason only: a scan is about to
write the loaded tree of a place that is gone from its document by then. That takes a reference
whose pointer passes a volatile node, that is, a reference node or a node whose `$ref` is one. All
the other failures that steps of a run know are never met.
-/

namespace ApiBundle

namespace Store

variable {source : Source} {s : Store}

/-- Nothing that was looked up so far is invalid. -/
def Flawless (s : Store) : Prop := ∀ {id c}, s.content? id = some c → c.reference.error = none

/-- Looking up a document that is known or can be retrieved. -/
theorem load_document {q : Reference} (start : Option Nat) (hs : s.Flawless) (hwf : s.WF)
    (hread : OrderedMap.find? s.cache q.documentRef.id = none → ∃ url tree,
      q.documentRef.error = none ∧ q.url = some url ∧ retrieve source url = .ok tree) :
    ∃ id store, s.load source q.documentRef start = (.ok id, store) ∧ Grows source s store ∧
      store.Flawless ∧ (store.content? id).isSome := by
  unfold load get?
  cases hget : OrderedMap.find? s.cache q.documentRef.id with
  | some id =>
    obtain ⟨c, hc, -⟩ := hwf.cached hget
    exact ⟨id, s, rfl, .refl, hs, by rw [hc]; rfl⟩
  | none =>
    obtain ⟨url, tree, hvalid, hq, hread⟩ := hread hget
    have hq : q.documentRef.url = some url := hq
    have hisdoc : q.documentRef.isDocument = true := rfl
    have hfits : Fits source { s with requests := s.requests ++ [url] }
        ⟨q.documentRef, .document tree, start⟩ := .document hvalid rfl hq hread
    simp only [Reference.isValid, hvalid, Option.isNone_none, Bool.not_true, Bool.false_eq_true,
      if_false, document, get?, Reference.documentRef_documentRef, hget, fetch, hq, hread]
    have hget' : OrderedMap.find? (Store.mk s.contents s.cache (s.requests ++ [url])).cache
        q.documentRef.id = none := hget
    rw [create_fresh hget']
    simp only [hisdoc, if_true]
    refine ⟨_, _, rfl, .add (.ask .refl) hget hfits, fun {id c} hc => ?_, ?_⟩
    · rw [content?_add] at hc
      split at hc
      · cases hc
        exact hvalid
      · exact hs hc
    · rw [content?_add, if_pos rfl]
      rfl

end Store

namespace Bundle

open Scanning Scan Store

/-- The tree that the document of a reference has before anything is done to it. -/
def original (source : Source) (root : Uri) (tree : Json) (r : Reference) : Option Json :=
  if r.id = (Reference.forDocument root).documentRef.id then some tree
  else r.url.bind fun url => (retrieve source url).toOption

/-- The reference to an additional document. -/
def additional (root : Uri) (location : String) : Reference :=
  (Reference.resolve location (some root) none).documentRef

variable {source : Source} {o : Options} {root : Uri} {tree : Json} {d : Dialect} {bound : Nat}
  {s s' : Session}

/-! ## Taking documents in -/

/-- The documents that were taken in so far are good ones, and the root is among them. -/
structure Taken (source : Source) (root : Uri) (tree : Json) (s : Session) : Prop where
  sound : s.Sound source (original source root tree)
  flawless : s.store.Flawless
  root : (OrderedMap.find? s.store.cache (Reference.forDocument root).documentRef.id).isSome

/-- The state of a run that has only its root. -/
def rooted (d : Dialect) (o : Options) (source : Source) (root : Uri) (tree : Json) : Session :=
  (Session.start d o source).withStore
    (Store.empty.add ⟨(Reference.forDocument root).documentRef, .document tree, some d.model⟩)

/-- There is nothing but the root. -/
theorem content?_rooted {id : ContentId} {c : Content}
    (h : (rooted d o source root tree).store.content? id = some c) :
    id = 0 ∧ c = ⟨(Reference.forDocument root).documentRef, .document tree, some d.model⟩ := by
  rw [show (rooted d o source root tree).store = Store.empty.add _ from rfl, content?_add] at h
  split at h
  · next heq => exact ⟨heq, (Option.some.inj h).symm⟩
  · simp [Store.empty, content?] at h

theorem taken_rooted (hroot : (Reference.forDocument root).documentRef.error = none) :
    Taken source root tree (rooted d o source root tree) := by
  refine ⟨⟨?_, rfl, ?_⟩, fun hc => ?_, ?_⟩
  · exact WF.empty.addContent rfl (fun _ => rfl) (fun hb => by cases hb) (by simp [hroot])
  · refine ⟨fun {r url t} hfresh hurl hread => ?_, fun {id c u} hc hbody => ?_,
      fun {id c e o t} hc hbody _ _ _ => ?_⟩
    · have hne : r.id ≠ (Reference.forDocument root).documentRef.id := by
        intro heq
        rw [heq] at hfresh
        cases find?_add_self.symm.trans hfresh
      simp [original, hne, hurl, hread, Except.toOption]
    · obtain ⟨rfl, rfl⟩ := content?_rooted hc
      cases hbody
      exact ⟨tree, by simp [original], .refl tree⟩
    · obtain ⟨rfl, rfl⟩ := content?_rooted hc
      cases hbody
  · obtain ⟨rfl, rfl⟩ := content?_rooted hc
    exact hroot
  · exact Option.isSome_iff_exists.mpr ⟨_, find?_add_self⟩

theorem loadAdditional_ends {location : String} (h : Taken source root tree s)
    (hread : (original source root tree (additional root location)).isSome) (state : Nat) :
    ∃ id s', Ends (loadAdditional root state location) s (.ok id) s' ∧
      Taken source root tree s' ∧ s.Evolves s' ∧ s'.registry = s.registry := by
  have hfetch : OrderedMap.find? s.store.cache (additional root location).id = none →
      ∃ url t, (additional root location).error = none ∧
        (Reference.resolve location (some root) none).url = some url ∧
        retrieve s.source url = .ok t := by
    intro hfresh
    have hne : (additional root location).id ≠ (Reference.forDocument root).documentRef.id := by
      intro heq
      rw [heq] at hfresh
      exact absurd h.root (by simp [hfresh])
    obtain ⟨t, ht⟩ := Option.isSome_iff_exists.mp hread
    rw [original, if_neg hne] at ht
    obtain ⟨url, hurl, ht⟩ := Option.bind_eq_some_iff.mp ht
    refine ⟨url, t, Reference.error_documentRef_resolve hurl, hurl, ?_⟩
    rw [h.sound.reads]
    cases hr : retrieve source url with
    | ok t' =>
      rw [hr] at ht
      exact congrArg _ (Option.some.inj ht)
    | error e => simp [hr, Except.toOption] at ht
  obtain ⟨id, store, hload, hgrows, hflawless, hsome⟩ :=
    load_document (some state) h.flawless h.sound.wf hfetch
  obtain ⟨c, hc⟩ := Option.isSome_iff_exists.mp hsome
  have hg : Grows source s.store store := h.sound.reads ▸ hgrows
  refine ⟨id, s.withStore store, ?_, ⟨⟨h.sound.wf.grows hg, h.sound.reads, ?_⟩, hflawless, ?_⟩,
    Session.evolves_withStore (h.sound.wf.grows hg) hg.extends, rfl⟩
  · have hcontent : Ends (loadContent (additional root location) (some state)) s (.ok id)
        (s.withStore store) := by
      unfold loadContent onStore
      rw [ends_get_bind]
      simp only [additional, hload, ends_set_bind]
      exact ends_ofExcept.mpr ⟨rfl, rfl⟩
    unfold loadAdditional
    refine (ends_bind_of hcontent).mpr ?_
    rw [ends_get_bind, show (s.withStore store).store.content? id = some c from hc]
    simp [hflawless hc]
  · exact h.sound.faithful.grows h.sound.wf hg
  · obtain ⟨i, hi⟩ := Option.isSome_iff_exists.mp h.root
    exact Option.isSome_iff_exists.mpr ⟨i, hg.extends.cache hi⟩

theorem loadAdditionals_ends {locations : List String} (h : Taken source root tree s)
    (hread : ∀ location ∈ locations,
      (original source root tree (additional root location)).isSome) (state : Nat) :
    ∃ ids s', Ends (locations.mapM (loadAdditional root state)) s (.ok ids) s' ∧
      Taken source root tree s' ∧ s.Evolves s' ∧ s'.registry = s.registry := by
  induction locations generalizing s with
  | nil => exact ⟨[], s, by simp, h, .refl h.sound.wf, rfl⟩
  | cons location rest ih =>
    obtain ⟨id, s₁, hfirst, h₁, hev₁, hreg₁⟩ :=
      loadAdditional_ends h (hread location (List.mem_cons_self ..)) state
    obtain ⟨ids, s', hrest, h', hev', hreg'⟩ :=
      ih h₁ fun l hl => hread l (List.mem_cons_of_mem _ hl)
    refine ⟨id :: ids, s', ?_, h', hev₁.trans hev', hreg'.trans hreg₁⟩
    rw [List.mapM_cons]
    exact (ends_bind_of hfirst).mpr ((ends_bind_of hrest).mpr (ends_pure.mpr ⟨rfl, rfl⟩))

/-- The root is the first document that is taken in. -/
theorem addRoot_ends : Ends (onStore fun s =>
      s.store.addDocument (.forDocument root) tree (some d.model)) (.start d o source) (.ok 0)
    (rooted d o source root tree) := by
  unfold onStore
  rw [ends_get_bind]
  simp only [addDocument, Session.start, create_fresh (s := Store.empty) rfl, ends_set_bind]
  exact ends_ofExcept.mpr ⟨rfl, rfl⟩

/-- The root and readable additional documents are taken in without a failure. -/
theorem loadTops_ends (hroot : (Reference.forDocument root).documentRef.error = none)
    (hread : ∀ location ∈ o.additionalFiles,
      (original source root tree (additional root location)).isSome) :
    ∃ others s', Ends (loadTops root tree) (.start d o source) (.ok (0 :: others)) s' ∧
      Taken source root tree s' ∧ (rooted d o source root tree).Evolves s' ∧
      s'.registry = .empty := by
  obtain ⟨others, s', hothers, h', hev, hreg⟩ :=
    loadAdditionals_ends (taken_rooted (d := d) (o := o) hroot) hread d.model
  refine ⟨others, s', ?_, h', hev, hreg⟩
  unfold loadTops
  rw [ends_get_bind]
  refine (ends_bind_of addRoot_ends).mpr ?_
  exact (ends_bind_of hothers).mpr (ends_pure.mpr ⟨rfl, rfl⟩)

/-! ## Phases -/

section Phases

variable {original : Reference → Option Json}

/-- A step changes nothing that scans leave alone, and fails only where a place vanishes. -/
def Steady (source : Source) (original : Reference → Option Json) {α : Type} (s : Session)
    (result : Except BundleError α) (s' : Session) : Prop :=
  s.Evolves s' ∧ SoundStep source original result s'

theorem steady_scan {id : ContentId} {phase : Phase} {result : Except BundleError (Option Json)}
    (hs : s.Sound source original) (h : Ends (scan bound id phase) s result s') :
    Steady source original s result s' := by
  unfold scan at h
  rw [ends_get_bind] at h
  exact ⟨evolves_scanFrom bound h hs.wf, sound_scanFrom bound h hs⟩

theorem steady_discard_scan {id : ContentId} {phase : Phase} {result : Except BundleError Unit}
    (hs : s.Sound source original) (h : Ends (discard (scan bound id phase)) s result s') :
    Steady source original s result s' := by
  rw [Functor.discard, LawfulFunctor.map_const, Function.comp_apply, map_eq_pure_bind,
    ends_bind] at h
  rcases h with ⟨e, hscan, rfl⟩ | ⟨y, s₁, hscan, h⟩
  · obtain ⟨hev, hs', herr⟩ := steady_scan hs hscan
    exact ⟨hev, hs', fun e' he => herr e' (by cases he; rfl)⟩
  · obtain ⟨hev, hs', -⟩ := steady_scan hs hscan
    obtain ⟨rfl, rfl⟩ := ends_pure.mp h
    exact ⟨hev, sound_ok hs'⟩

theorem steady_forM {phase : Phase} {ids : List ContentId} {result : Except BundleError Unit}
    (hs : s.Sound source original)
    (h : Ends (ids.forM fun id => discard (scan bound id phase)) s result s') :
    Steady source original s result s' := by
  induction ids generalizing s with
  | nil =>
    rw [List.forM_eq_forM, List.forM_nil, ends_pure] at h
    obtain ⟨rfl, rfl⟩ := h
    exact ⟨.refl hs.wf, sound_ok hs⟩
  | cons id ids ih =>
    rw [List.forM_eq_forM, List.forM_cons, ends_bind] at h
    rcases h with ⟨e, hfirst, rfl⟩ | ⟨_, s₁, hfirst, hrest⟩
    · exact steady_discard_scan hs hfirst
    · obtain ⟨hev, hs₁, -⟩ := steady_discard_scan hs hfirst
      obtain ⟨hev', hrest⟩ := ih hs₁ hrest
      exact ⟨hev.trans hev', hrest⟩

theorem steady_mapM {phase : Phase} {ids : List ContentId}
    {result : Except BundleError (List (Option Json))} (hs : s.Sound source original)
    (h : Ends (ids.mapM fun id => scan bound id phase) s result s') :
    Steady source original s result s' := by
  induction ids generalizing s result with
  | nil =>
    rw [List.mapM_nil, ends_pure] at h
    obtain ⟨rfl, rfl⟩ := h
    exact ⟨.refl hs.wf, sound_ok hs⟩
  | cons id ids ih =>
    rw [List.mapM_cons, ends_bind] at h
    rcases h with ⟨e, hfirst, rfl⟩ | ⟨y, s₁, hfirst, hrest⟩
    · obtain ⟨hev, hs', herr⟩ := steady_scan hs hfirst
      exact ⟨hev, hs', fun e' he => herr e' (by cases he; rfl)⟩
    · obtain ⟨hev, hs₁, -⟩ := steady_scan hs hfirst
      rcases ends_bind.mp hrest with ⟨e, hothers, rfl⟩ | ⟨ys, s₂, hothers, hlast⟩
      · obtain ⟨hev', hs', herr⟩ := ih hs₁ hothers
        exact ⟨hev.trans hev', hs', fun e' he => herr e' (by cases he; rfl)⟩
      · obtain ⟨rfl, rfl⟩ := ends_pure.mp hlast
        obtain ⟨hev', hs', -⟩ := ih hs₁ hothers
        exact ⟨hev.trans hev', sound_ok hs'⟩

/-- A content that has a document of its own has a tree. -/
def HasDocument (s : Session) (id : ContentId) : Prop :=
  ∃ c t, s.store.content? id = some c ∧ c.body = .document t

theorem HasDocument.evolves {id : ContentId} (h : HasDocument s id) (hev : s.Evolves s') :
    HasDocument s' id := by
  obtain ⟨c, t, hc, hb⟩ := h
  obtain ⟨c', hc', -, -, hkind⟩ := hev.store.content hc
  rw [hb] at hkind
  cases hb' : c'.body with
  | document t' => exact ⟨c', t', hc', hb'⟩
  | subtree d => rw [hb'] at hkind; cases hkind
  | invalid => rw [hb'] at hkind; cases hkind

/-- Scanning a document gives a tree. -/
theorem scan_ne_none {id : ContentId} {phase : Phase} (h : HasDocument s id) :
    ¬Ends (scan bound id phase) s (.ok none) s' := by
  intro hends
  obtain ⟨c, t, hc, hb⟩ := h
  unfold scan at hends
  rw [ends_get_bind] at hends
  cases bound with
  | zero => cases hends
  | succ bound =>
    generalize hresult : (Except.ok none : Except BundleError (Option Json)) = result at hends
    cases scanFrom_ends hends with
    | empty nothing => simp [tree?, hc, hb] at nothing
    | failed | read | written | unwritten => cases hresult

/-- The phases fail only where a place vanishes. -/
theorem steady_runPhases {others : List ContentId} {result : Except BundleError Json}
    (hs : s.Sound source original) (hroot : HasDocument s 0)
    (h : Ends (runPhases bound (0 :: others)) s result s') :
    Steady source original s result s' := by
  unfold runPhases at h
  rcases ends_bind.mp h with ⟨e, hload, rfl⟩ | ⟨_, s₁, hload, h⟩
  · obtain ⟨hev, hs', herr⟩ := steady_forM hs hload
    exact ⟨hev, hs', fun e' he => herr e' (by cases he; rfl)⟩
  obtain ⟨hev₁, hs₁, -⟩ := steady_forM hs hload
  rcases ends_bind.mp h with ⟨e, hcollect, rfl⟩ | ⟨_, s₂, hcollect, h⟩
  · obtain ⟨hev, hs', herr⟩ := steady_forM hs₁ hcollect
    exact ⟨hev₁.trans hev, hs', fun e' he => herr e' (by cases he; rfl)⟩
  obtain ⟨hev₂, hs₂, -⟩ := steady_forM hs₁ hcollect
  rcases ends_bind.mp h with ⟨e, hsettle, rfl⟩ | ⟨results, s₃, hsettle, h⟩
  · obtain ⟨hev, hs', herr⟩ := steady_mapM hs₂ hsettle
    exact ⟨(hev₁.trans hev₂).trans hev, hs', fun e' he => herr e' (by cases he; rfl)⟩
  obtain ⟨hev₃, hs₃, -⟩ := steady_mapM hs₂ hsettle
  have hfirst : ∃ y, results.head?.join = some y := by
    rw [List.mapM_cons] at hsettle
    rcases ends_bind.mp hsettle with ⟨e, -, heq⟩ | ⟨y, s₄, hscan, hrest⟩
    · cases heq
    rcases ends_bind.mp hrest with ⟨e, -, heq⟩ | ⟨ys, s₅, -, hlast⟩
    · cases heq
    obtain ⟨heq, -⟩ := ends_pure.mp hlast
    cases heq
    cases y with
    | some y => exact ⟨y, rfl⟩
    | none => exact absurd hscan (scan_ne_none ((hroot.evolves hev₁).evolves hev₂))
  obtain ⟨y, hy⟩ := hfirst
  simp only [hy, ends_pure] at h
  obtain ⟨rfl, rfl⟩ := h
  exact ⟨(hev₁.trans hev₂).trans hev₃, sound_ok hs₃⟩

end Phases

/-! ## Runs -/

/--
What a run needs: its root's URL can be read back, its additional documents can be read, and what
the phases make of the root is open for the containers of the dialect.
-/
structure Runnable (source : Source) (o : Options) (root : Uri) (tree : Json) (d : Dialect) :
    Prop where
  reads : (Reference.forDocument root).documentRef.error = none
  files : ∀ location ∈ o.additionalFiles,
    (original source root tree (additional root location)).isSome
  opens : ∀ {bound y s'}, Ends (settled bound root tree) (.start d o source) (.ok y) s' →
    ∀ p ∈ d.homes, y.Opens p.tokens

/-- A run gives a document, or a place has vanished. -/
theorem ok_or_vanishing_of_ended (hrun : Runnable source o root tree d)
    {result : Except BundleError Json} (h : ended bound source o root tree d = some (result, s')) :
    (∃ out, result = .ok out) ∨
      ∃ e, result = .error e ∧ Vanishing (original source root tree) s'.store e := by
  have h : Ends (run bound root tree) (.start d o source) result s' := h
  obtain ⟨others, s₁, htops, htaken, hev, hregistry⟩ :=
    loadTops_ends (d := d) (o := o) hrun.reads hrun.files
  have hroot : HasDocument s₁ 0 := by
    exact HasDocument.evolves ⟨_, tree, content?_add.trans (if_pos rfl), rfl⟩ hev
  unfold run at h
  rcases ends_bind.mp h with ⟨e, hphases, rfl⟩ | ⟨y, s₂, hphases, h⟩
  · unfold settled at hphases
    obtain ⟨-, -, herr⟩ := steady_runPhases htaken.sound hroot ((ends_bind_of htops).mp hphases)
    exact .inr ⟨e, rfl, herr e rfl⟩
  · have hopen := hrun.opens hphases
    unfold settled at hphases
    obtain ⟨hev', -, -⟩ := steady_runPhases htaken.sound hroot ((ends_bind_of htops).mp hphases)
    have hhomed : ∀ head ∈ s₂.registry.heads, head.Homed d := by
      intro head hhead
      rcases hev'.homed head hhead with hold | hnew
      · rw [hregistry] at hold
        cases hold
      · rwa [hev.dialect] at hnew
    obtain ⟨out, hout⟩ := Registry.assemble_ok hhomed hopen
    rw [ends_get_bind, hout] at h
    rcases ends_bind.mp h with ⟨e, hfail, -⟩ | ⟨_, s₃, -, hlast⟩
    · simp [MonadExcept.ofExcept] at hfail
    · exact .inl ⟨_, (ends_pure.mp hlast).1⟩

end Bundle

end ApiBundle
