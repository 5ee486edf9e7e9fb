import ApiBundle.Proofs.Bundle.Failure
import ApiBundle.Proofs.Scan.Bounds
import ApiBundle.Proofs.Scan.Termination

/-!
# Runs come to an end

A run whose documents are finitely many comes to an end, and with a document unless some pointer
passes a reference node. What that takes is collected in `Bundle.Confined`: a finite list of URLs
that no reference leads out of, to a document that could be retrieved.
-/

namespace ApiBundle

namespace Scanning

variable {α β : Type}

theorem Refines.forM {as : List α} {f f' : α → Scanning PUnit}
    (h : ∀ a, Refines (f a) (f' a)) : Refines (as.forM f) (as.forM f') := by
  induction as with
  | nil => exact .refl _
  | cons a as ih => exact (h a).bind fun _ => ih

theorem Refines.mapM {as : List α} {f f' : α → Scanning β} (h : ∀ a, Refines (f a) (f' a)) :
    Refines (as.mapM f) (as.mapM f') := by
  induction as with
  | nil => exact .refl _
  | cons a as ih =>
    rw [List.mapM_cons, List.mapM_cons]
    exact (h a).bind fun _ => ih.bind fun _ => .refl _

end Scanning

namespace Bundle

open Json Scanning Scan Store

/-! ## Bounds -/

section Bounds

variable {b b' : Nat} (hle : b ≤ b')
include hle

theorem scan_refines (id : ContentId) (phase : Phase) :
    Refines (scan b id phase) (scan b' id phase) := by
  unfold scan
  exact .after fun _ => scanFrom_refines hle id phase _

theorem discard_scan_refines (id : ContentId) (phase : Phase) :
    Refines (discard (scan b id phase)) (discard (scan b' id phase)) := by
  simp only [Functor.discard, LawfulFunctor.map_const, Function.comp_apply, map_eq_pure_bind]
  exact (scan_refines hle id phase).bind fun _ => .refl _

theorem runPhases_refines (tops : List ContentId) :
    Refines (runPhases b tops) (runPhases b' tops) := by
  unfold runPhases
  exact .bind (.forM fun id => discard_scan_refines hle id .load) fun _ =>
    .bind (.forM fun id => discard_scan_refines hle id .collect) fun _ =>
    .bind (.mapM fun id => scan_refines hle id .settle) fun _ => .refl _

theorem settled_refines (root : Uri) (tree : Json) :
    Refines (settled b root tree) (settled b' root tree) :=
  .after fun tops => runPhases_refines hle tops

/-- A run with a larger bound ends as one with a smaller bound does. -/
theorem run_refines (root : Uri) (tree : Json) :
    Refines (run b root tree) (run b' root tree) :=
  (settled_refines hle root tree).bind fun _ => .refl _

end Bounds

/-! ## Horizons of runs -/

/-- What a run in a dialect can meet, given the URLs of its documents and the texts in them. -/
def horizon (source : Source) (o : Options) (root : Uri) (tree : Json) (d : Dialect)
    (urls : List Uri) (texts : List String) : Horizon :=
  ⟨source, d, o, original source root tree, urls, texts⟩

/-- The references to the root and to the additional documents. -/
def tops (o : Options) (root : Uri) : List Reference :=
  .forDocument root :: o.additionalFiles.map fun location =>
    Reference.resolve location (some root) none

/--
The documents of a run have finitely many URLs, and those read back; the references in them are
written out and straight.
-/
structure Confined (source : Source) (o : Options) (root : Uri) (tree : Json) (d : Dialect)
    (urls : List Uri) (texts : List String) : Prop where
  home : ∀ url, (Reference.forDocument root).url = some url → url ∈ urls
  written : tree.Throughout (horizon source o root tree d urls texts).Written
  documents : ∀ url ∈ urls, ∀ document, retrieve source url = .ok document →
    document.Throughout (horizon source o root tree d urls texts).Written
  reads : ∀ r ∈ tops o root ++ (horizon source o root tree d urls texts).readings,
    ∀ url, r.url = some url → Uri.parse url.text = .ok url
  known : ∀ r ∈ tops o root ++ (horizon source o root tree d urls texts).readings,
    ∀ url, r.url = some url → (horizon source o root tree d urls texts).Known url →
      url ∈ urls
  straight : ∀ r ∈ (horizon source o root tree d urls texts).readings, r.error = none →
    (horizon source o root tree d urls texts).Straight r

variable {source : Source} {o : Options} {root : Uri} {tree : Json} {d : Dialect}
  {urls : List Uri} {texts : List String}

theorem Confined.closed (h : Confined source o root tree d urls texts)
    (hdistinct : tree.WellFormed) :
    (horizon source o root tree d urls texts).Closed where
  congr := fun hid hurl => by
    show original source root tree _ = original source root tree _
    unfold original
    rw [hid, hurl]
  documents := fun url hurl document hread =>
    ((h.documents url hurl document hread).and
      (throughout_distinct (wellFormed_of_retrieve hread))).mono fun hx => ⟨hx.1, hx.2⟩
  originals := fun {r document} hurl hread => by
    obtain ⟨url, hmem, hurl⟩ := hurl
    change original source root tree r = some document at hread
    unfold original at hread
    split at hread
    · cases hread
      exact (h.written.and (throughout_distinct hdistinct)).mono fun hx => ⟨hx.1, hx.2⟩
    · rw [hurl] at hread
      have hread : retrieve source url = .ok document := by
        cases hr : retrieve source url with
        | ok t =>
          simp only [hr, Option.bind_some, Except.toOption, Option.some.injEq] at hread
          rw [hread]
        | error e => simp [hr, Except.toOption] at hread
      exact ((h.documents url hmem document hread).and
        (throughout_distinct (wellFormed_of_retrieve hread))).mono fun hx => ⟨hx.1, hx.2⟩
  reads := fun r hr => h.reads r (List.mem_append_right _ hr)
  known := fun r hr => h.known r (List.mem_append_right _ hr)
  straight := h.straight

/-- The root and the additional documents are aimed at. -/
theorem Confined.aimed (h : Confined source o root tree d urls texts) {r : Reference}
    (hr : r ∈ tops o root) (hresolved : ∃ text base, r = Reference.resolve text base none)
    (hvalid : r.documentRef.error = none) :
    (horizon source o root tree d urls texts).Aimed r.documentRef := by
  obtain ⟨text, base, rfl⟩ := hresolved
  have hwell : ∀ detail, (Reference.resolve text base none).error ≠ some (.malformedUrl detail) := by
    intro detail heq
    simp [Reference.documentRef, heq] at hvalid
  obtain ⟨url, hurl, htext, hwhole⟩ := Reference.located_resolve hwell
  have hmem := List.mem_append_left
    (horizon source o root tree d urls texts).readings hr
  refine ⟨url, ⟨hurl, htext, hwhole, rfl⟩, h.reads _ hmem url hurl, h.known _ hmem url hurl,
    fun document _ hp => ?_⟩
  cases hp

/-! ## Steps that stay within a horizon -/

/-- A step comes to an end, and in a state within a horizon. -/
def Stays {α : Type} (H : Horizon) (m : Nat → Scanning α) (s : Session) : Prop :=
  ∃ result s', Comes m s result s' ∧ s'.Within H

namespace Stays

variable {α β : Type} {H : Horizon} {m : Nat → Scanning α} {s : Session}

theorem pure {a : α} (hs : s.Within H) : Stays H (fun _ => (Pure.pure a : Scanning α)) s :=
  ⟨.ok a, s, comes_of_ends (ends_pure.mpr ⟨rfl, rfl⟩), hs⟩

theorem throw {e : BundleError} (hs : s.Within H) :
    Stays H (fun _ => (MonadExcept.throw e : Scanning α)) s :=
  ⟨.error e, s, comes_of_ends (ends_throw.mpr ⟨rfl, rfl⟩), hs⟩

/-- Two steps in a row stay if the first one does, and the second one wherever that leads. -/
theorem bind {f : Nat → α → Scanning β} (hm : Stays H m s)
    (hf : ∀ a s₁, s₁.Within H → Stays H (fun b => f b a) s₁) :
    Stays H (fun b => m b >>= f b) s := by
  obtain ⟨result, s₁, hcomes, hs₁⟩ := hm
  cases result with
  | error e =>
    obtain ⟨b₀, h₀⟩ := hcomes
    exact ⟨.error e, s₁, ⟨b₀, fun b hb => ends_bind.mpr (.inl ⟨e, h₀ b hb, rfl⟩)⟩, hs₁⟩
  | ok a =>
    obtain ⟨result, s', hrest, hs'⟩ := hf a s₁ hs₁
    exact ⟨result, s', hcomes.bind hrest, hs'⟩

theorem get {f : Nat → Session → Scanning α} (h : Stays H (fun b => f b s) s) :
    Stays H (fun b => (MonadState.get : Scanning Session) >>= f b) s := by
  obtain ⟨result, s', hcomes, hs'⟩ := h
  exact ⟨result, s', (comes_of_ends (ends_get.mpr ⟨rfl, rfl⟩)).bind hcomes, hs'⟩

theorem forM {as : List α} {f : Nat → α → Scanning PUnit} (hs : s.Within H)
    (h : ∀ a ∈ as, ∀ s, s.Within H → Stays H (fun b => f b a) s) :
    Stays H (fun b => as.forM (f b)) s := by
  induction as generalizing s with
  | nil => exact pure hs
  | cons a as ih =>
    exact (h a (List.mem_cons_self ..) s hs).bind fun _ s₁ hs₁ =>
      ih hs₁ fun a' ha' => h a' (List.mem_cons_of_mem _ ha')

theorem mapM {as : List α} {f : Nat → α → Scanning β} (hs : s.Within H)
    (h : ∀ a ∈ as, ∀ s, s.Within H → Stays H (fun b => f b a) s) :
    Stays H (fun b => as.mapM (f b)) s := by
  induction as generalizing s with
  | nil => exact pure hs
  | cons a as ih =>
    simp only [List.mapM_cons]
    refine (h a (List.mem_cons_self ..) s hs).bind fun _ s₁ hs₁ => ?_
    have hrest := ih hs₁ fun a' ha' => h a' (List.mem_cons_of_mem _ ha')
    exact hrest.bind fun _ s₂ hs₂ => pure hs₂

end Stays

section Phases

variable {H : Horizon} {s : Session} (hclosed : H.Closed) (hs : s.Within H)
include hclosed hs

theorem stays_scan (id : ContentId) (phase : Phase) : Stays H (fun b => scan b id phase) s := by
  unfold scan
  refine .get ?_
  obtain ⟨result, s', hcomes⟩ := halting hclosed _ hs (Nat.lt_succ_self _) id phase
    ((s.store.content? id).bind Content.start)
  obtain ⟨b, hends⟩ := hcomes.ends
  exact ⟨result, s', hcomes, (within_scanFrom hclosed b).within hs hends⟩

theorem stays_discard_scan (id : ContentId) (phase : Phase) :
    Stays H (fun b => discard (scan b id phase)) s := by
  simp only [Functor.discard, LawfulFunctor.map_const, Function.comp_apply, map_eq_pure_bind]
  exact (stays_scan hclosed hs id phase).bind fun _ _ hs₁ => .pure hs₁

theorem stays_runPhases (tops : List ContentId) : Stays H (fun b => runPhases b tops) s := by
  unfold runPhases
  refine .bind (.forM hs fun id _ _ h => stays_discard_scan hclosed h id .load) fun _ _ hs₁ =>
    .bind (.forM hs₁ fun id _ _ h => stays_discard_scan hclosed h id .collect) fun _ _ hs₂ =>
    .bind (.mapM hs₂ fun id _ _ h => stays_scan hclosed h id .settle) fun results _ hs₃ => ?_
  cases results.head?.join with
  | some tree => exact .pure hs₃
  | none => exact .throw hs₃

end Phases

/-- What is left to do with the settled tree of the root. -/
theorem stays_finish {H : Horizon} {s : Session} (hs : s.Within H) (y : Json) :
    Stays H (fun _ => (do
      let assembled ← MonadExcept.ofExcept ((← get).registry.assemble y)
      return assembled.stripAdornments : Scanning Json)) s := by
  refine .get (.bind ?_ fun _ _ hs₁ => .pure hs₁)
  exact ⟨_, s, comes_of_ends (ends_ofExcept.mpr ⟨rfl, rfl⟩), hs⟩

/-! ## Taking documents in -/

namespace Confined

variable {s : Session}

theorem stocked_rooted (h : Confined source o root tree d urls texts)
    (hdistinct : tree.WellFormed)
    (hroot : (Reference.forDocument root).documentRef.error = none) :
    (horizon source o root tree d urls texts).Stocked (rooted d o source root tree).store := by
  have haimed := h.aimed (List.mem_cons_self ..) ⟨_, _, rfl⟩ hroot
  refine ⟨fun {id c} hc _ => ?_, fun {id c t} hc hbody => ?_, fun {id c t} hc hbody => ?_⟩
  · obtain ⟨rfl, rfl⟩ := content?_rooted hc
    exact haimed
  · obtain ⟨rfl, rfl⟩ := content?_rooted hc
    cases hbody
    exact (h.written.and (throughout_distinct hdistinct)).mono fun hx =>
      Horizon.Documented.tame ⟨hx.1, hx.2⟩
  · obtain ⟨rfl, rfl⟩ := content?_rooted hc
    obtain ⟨url, hsharp, -⟩ := haimed
    exact ⟨url, h.home url hsharp.url, hsharp.url⟩

/-- The state of a run that has only its root lies within the horizon. -/
theorem within_rooted (h : Confined source o root tree d urls texts)
    (hdistinct : tree.WellFormed)
    (hroot : (Reference.forDocument root).documentRef.error = none) :
    (rooted d o source root tree).Within (horizon source o root tree d urls texts) :=
  ⟨(taken_rooted hroot).sound, h.stocked_rooted hdistinct hroot, rfl, rfl⟩

/-- Additional documents are taken in, or there is a failure. -/
theorem stays_loadAdditional (h : Confined source o root tree d urls texts)
    (hdistinct : tree.WellFormed) {location : String} (hmem : location ∈ o.additionalFiles)
    (state : Nat) (hs : s.Within (horizon source o root tree d urls texts)) :
    Stays (horizon source o root tree d urls texts)
      (fun _ => loadAdditional root state location) s := by
  have hload : Stays (horizon source o root tree d urls texts)
      (fun _ => loadContent (additional root location) (some state)) s := by
    refine ⟨_, _, comes_of_ends (ends_onStore.mpr ⟨rfl, rfl⟩), ?_⟩
    obtain ⟨_, -, hgrows, -⟩ :=
      hs.sound.wf.load s.source (additional root location) (some state)
    have hr := List.mem_cons_of_mem (Reference.forDocument root) (List.mem_map_of_mem
      (f := fun location => Reference.resolve location (some root) none) hmem)
    have hstocked : (horizon source o root tree d urls texts).Stocked
        (s.store.load source (additional root location) (some state)).2 :=
      hs.stocked.load (h.closed hdistinct) (h.aimed hr ⟨_, _, rfl⟩)
    rw [hs.sound.reads] at hgrows ⊢
    exact ⟨⟨hs.sound.wf.grows hgrows, hs.sound.reads,
      hs.sound.faithful.grows hs.sound.wf hgrows⟩, hstocked, hs.dialect, hs.options⟩
  unfold loadAdditional
  refine hload.bind fun id s₁ hs₁ => .get ?_
  split
  · exact .throw hs₁
  · exact .pure hs₁

/-- Taking the documents in comes to an end. -/
theorem stays_loadTops (h : Confined source o root tree d urls texts)
    (hdistinct : tree.WellFormed)
    (hroot : (Reference.forDocument root).documentRef.error = none) :
    Stays (horizon source o root tree d urls texts) (fun _ => loadTops root tree)
      (.start d o source) := by
  have hfirst : Ends (onStore fun s => s.store.addDocument (.forDocument root) tree (some d.model))
      (.start d o source) (.ok 0) (rooted d o source root tree) := by
    rw [ends_onStore, addDocument, create_fresh rfl]
    exact ⟨rfl, rfl⟩
  have hothers := Stays.mapM (h.within_rooted hdistinct hroot)
    (f := fun _ => loadAdditional root d.model)
    fun _ hl _ hs => h.stays_loadAdditional hdistinct hl d.model hs
  obtain ⟨result, s', hrest, hs'⟩ := hothers.bind
    (f := fun _ others => Pure.pure ((0 : ContentId) :: others)) fun _ _ hs₁ => .pure hs₁
  refine ⟨result, s', ?_, hs'⟩
  unfold loadTops
  have hstart := (comes_of_ends hfirst).bind (f := fun _ id => do
    let others ← o.additionalFiles.mapM (loadAdditional root d.model)
    Pure.pure (id :: others)) hrest
  exact (comes_of_ends (ends_get.mpr ⟨rfl, rfl⟩)).bind hstart

/-- A run comes to an end. -/
theorem stays_run (h : Confined source o root tree d urls texts)
    (hdistinct : tree.WellFormed)
    (hroot : (Reference.forDocument root).documentRef.error = none) :
    Stays (horizon source o root tree d urls texts) (fun b => run b root tree)
      (.start d o source) := by
  have hphases : Stays (horizon source o root tree d urls texts)
      (fun b => settled b root tree) (.start d o source) :=
    (h.stays_loadTops hdistinct hroot).bind fun tops _ hs =>
      stays_runPhases (h.closed hdistinct) hs tops
  exact hphases.bind fun y _ hs => stays_finish hs y

/-- A run comes to an end, and gives a document. -/
theorem run_comes (h : Confined source o root tree d urls texts)
    (hdistinct : tree.WellFormed)
    (hrun : Runnable source o root tree d) :
    ∃ out s', Comes (fun b => run b root tree) (.start d o source) (.ok out) s' := by
  obtain ⟨result, s', hcomes, hs'⟩ := h.stays_run hdistinct hrun.reads
  obtain ⟨b, hends⟩ := hcomes.ends
  rcases ok_or_vanishing_of_ended hrun hends with ⟨out, rfl⟩ | ⟨e, rfl, hvanishing⟩
  · exact ⟨out, s', hcomes⟩
  · exact absurd hvanishing (hs'.stocked.not_vanishing (h.closed hdistinct) hs'.sound.wf)

end Confined

/-! ## Outcomes -/

theorem ofUrl_eq {text : String} (hload : source root = .ok text)
    (hparse : parseDocument text = .ok tree) (hdialect : dialectFor o root tree = .ok d)
    (bound : Nat) :
    ofUrl bound source o root = (ended bound source o root tree d).map fun p =>
      ⟨p.1, root :: p.2.store.requests⟩ := by
  unfold ofUrl ofTree
  simp only [hload, hparse, hdialect]
  cases ended bound source o root tree d <;> rfl

/--
A run whose top-level documents can be read gives a document, unless a place has vanished to which
a reference led through a volatile node. A confined run always gives one, for all bounds that are
large enough.
-/
theorem ofUrl_ok_unless_vanishing {text : String} (hload : source root = .ok text)
    (hparse : parseDocument text = .ok tree) (hdialect : dialectFor o root tree = .ok d)
    (hrun : Runnable source o root tree d) :
    (∀ bound outcome, ofUrl bound source o root = some outcome →
      (∃ out, outcome.result = .ok out) ∨
        ∃ e s, ended bound source o root tree d = some (.error e, s) ∧
          outcome.result = .error e ∧ Vanishing (original source root tree) s.store e) ∧
      ∀ urls texts, Confined source o root tree d urls texts →
        ∃ out requests bound, ∀ b ≥ bound, ofUrl b source o root = some ⟨.ok out, requests⟩ := by
  refine ⟨fun bound outcome h => ?_, fun urls texts h => ?_⟩
  · rw [ofUrl_eq hload hparse hdialect] at h
    obtain ⟨⟨result, s⟩, hended, rfl⟩ := Option.map_eq_some_iff.mp h
    rcases ok_or_vanishing_of_ended hrun hended with hok | ⟨e, rfl, hvanishing⟩
    · exact .inl hok
    · exact .inr ⟨e, s, hended, rfl, hvanishing⟩
  · obtain ⟨out, s, bound, hcomes⟩ := h.run_comes (wellFormed_of_parseDocument hparse) hrun
    refine ⟨out, root :: s.store.requests, bound, fun b hb => ?_⟩
    have hended : ended b source o root tree d = some (.ok out, s) := hcomes b hb
    rw [ofUrl_eq hload hparse hdialect, hended]
    rfl

/-! ## A document in two files -/

/-- The phases have one result for all bounds that are large enough. -/
theorem settled_unique {b b' : Nat} {s s₁ s₂ : Session} {r₁ r₂ : Except BundleError Json}
    (h₁ : Ends (settled b root tree) s r₁ s₁) (h₂ : Ends (settled b' root tree) s r₂ s₂) :
    r₁ = r₂ ∧ s₁ = s₂ :=
  Ends.unique (settled_refines (Nat.le_max_left b b') root tree _ _ _ h₁)
    (settled_refines (Nat.le_max_right b b') root tree _ _ _ h₂)

namespace Split

/-- The URL of the root. -/
def home : Uri := ⟨"mem", some (.ofHost (some (.name "a"))), "/main.json", none, none⟩

/-- The URL of the other document. -/
def part : Uri := ⟨"mem", some (.ofHost (some (.name "a"))), "/part.json", none, none⟩

/-- The tree of the root. -/
def homeTree : Json :=
  .object [("swagger", .string "2.0"), ("info", .object [("$ref", .string "part.json#/x")])]

/-- The text of the root. -/
def homeText : String := "\x7b\"swagger\":\"2.0\",\"info\":\x7b\"$ref\":\"part.json#/x\"\x7d\x7d"

/-- The text of the other document. -/
def partText : String := "\x7b\"x\":\x7b\"title\":\"t\"\x7d\x7d"

/-- Both documents. -/
def documents : Source := .ofTexts [(home.text, homeText), (part.text, partText)]

/-- What the phases make of the root. -/
def settledTree : Json :=
  .object [("swagger", .string "2.0"), ("info", .object [("title", .string "t")])]

set_option maxRecDepth 10000

theorem source_home : documents home = .ok homeText := ok_of_toOption (by decide)

theorem parse_home : parseDocument homeText = .ok homeTree := ok_of_toOption (by decide +kernel)

theorem dialect_home : dialectFor .default home homeTree = .ok .swagger2 :=
  ok_of_toOption (by decide)

theorem settled_home :
    ∃ s, Ends (settled 10 home homeTree) (.start .swagger2 .default documents)
      (.ok settledTree) s := by
  have h : ((settled 10 home homeTree).run.run (.start .swagger2 .default documents)).bind
      (fun p => p.1.toOption) = some settledTree := by decide +kernel
  obtain ⟨⟨result, s⟩, hends, hresult⟩ := Option.bind_eq_some_iff.mp h
  exact ⟨s, ok_of_toOption hresult ▸ hends⟩

theorem runnable : Runnable documents .default home homeTree .swagger2 where
  reads := by decide
  files := nofun
  opens := fun {bound y s'} h p hp => by
    obtain ⟨s, hs⟩ := settled_home
    cases (settled_unique h hs).1
    have hopen : ∀ p ∈ Dialect.swagger2.homes, settledTree.Opens p.tokens := by decide
    exact hopen p hp

/-- What a run on the two documents can meet. -/
def within : Horizon :=
  horizon documents .default home homeTree .swagger2 [home, part] ["part.json#/x"]

theorem confined :
    Confined documents .default home homeTree .swagger2 [home, part] ["part.json#/x"] where
  home := by
    have h : ∀ url ∈ (Reference.forDocument Split.home).url, url ∈ [Split.home, part] := by
      decide
    exact h
  written := by
    have h : homeTree.Throughout within.Written := by decide
    exact h
  documents := by
    have h : ∀ url ∈ [Split.home, part], ∀ document ∈ (retrieve documents url).toOption,
        document.Throughout within.Written := by decide +kernel
    intro url hurl document hread
    exact h url hurl document (by rw [hread]; rfl)
  reads := by
    have h : ∀ r ∈ tops .default Split.home ++ within.readings, ∀ url ∈ r.url,
        (Uri.parse url.text).toOption = some url := by decide +kernel
    exact fun r hr url hurl => ok_of_toOption (h r hr url hurl)
  known := by
    have h : ∀ r ∈ tops .default Split.home ++ within.readings, ∀ url ∈ r.url,
        url ∈ [Split.home, part] := by decide +kernel
    exact fun r hr url hurl _ => h r hr url hurl
  straight := by
    have h : ∀ r ∈ within.readings, ∀ t ∈ within.original r.documentRef,
        t.Throughout Literal ∧ t.passesRef r.pointer.tokens = false := by decide +kernel
    intro r hr _ t ht
    exact not_passesVolatile (h r hr t ht).1 (h r hr t ht).2

end Split

theorem ofUrl_ok_split :
    Confined Split.documents .default Split.home Split.homeTree .swagger2
        [Split.home, Split.part] ["part.json#/x"] ∧
      ∃ out requests bound, ∀ b ≥ bound,
        ofUrl b Split.documents .default Split.home = some ⟨.ok out, requests⟩ :=
  ⟨Split.confined, (ofUrl_ok_unless_vanishing Split.source_home Split.parse_home
    Split.dialect_home Split.runnable).2 _ _ Split.confined⟩

end Bundle

end ApiBundle
