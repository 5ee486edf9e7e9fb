import ApiBundle.Proofs.Bundle.Definitions
import ApiBundle.Proofs.Bundle.Memory
import ApiBundle.Proofs.Dialect.Canonical
import ApiBundle.Proofs.Scan.Naming
import ApiBundle.Proofs.Scan.Pairing

/-!
# Adornments are taken off

Where all documents are paired, so is everything that a run holds, and the settled root that it
writes its entries into. Entries go into containers, which may hold other members; no entry is named
like the text of a reference, so the texts that stand beside adornments stay there. What is left is a
container that has got an entry with the name of an adornment: then there need not be a reference
text beside it, and the entry is in the output, its own adornments taken off
(`Bundle.adornments_taken_off`).
-/

namespace ApiBundle

open Scanning Scan

open Json (Paired)

/-! ## Writing entries -/

namespace Registry

variable {d : Dialect} {r : Registry} {tree out : Json} {p : Pointer}
  {cs : List (Pointer × List (String × Json))}

/-- The containers that have an entry with the name of an adornment. -/
def Exempts (r : Registry) (path : List Segment) : Prop :=
  ∃ e ∈ r.entries, e.name = adornmentKey ∧ e.container.keys = path

theorem paired_presentMembers (h : tree.Throughout Paired) :
    Json.PairedMembers (presentMembers tree p) ∧
      ∀ m ∈ presentMembers tree p, m.2.Throughout Paired := by
  have hempty : Json.PairedMembers [] ∧ ∀ m ∈ ([] : List (String × Json)), m.2.Throughout Paired :=
    ⟨.of_notMem List.not_mem_nil List.not_mem_nil, List.forall_mem_nil _⟩
  unfold presentMembers
  cases hx : p.find? tree with
  | none => exact hempty
  | some x =>
    have hpaired := h.lookup hx
    cases x with
    | object ms => exact Json.throughout_paired_object.mp hpaired
    | null | bool | number | string | array => exact hempty

/-- A filled container is paired, unless an entry has the name of an adornment. -/
theorem paired_filled (hentries : ∀ e ∈ r.entries, e.node.Throughout Paired)
    (hnames : ∀ e ∈ r.entries, e.name ≠ refKey) (htree : tree.Throughout Paired)
    {path : List Segment} {x : Json}
    (hx : (Json.object (filled tree r.grouped p)).follow? path = some x) :
    x.Paired ∨ r.Exempts (p.keys ++ path) := by
  obtain ⟨hpresent, hbelow⟩ := paired_presentMembers (p := p) htree
  have hadded : ∀ m ∈ ((r.grouped.filter fun e => e.container = p).map fun e => (e.name, e.node)),
      ∃ e ∈ r.entries, e.container = p ∧ m = (e.name, e.node) := by
    intro m hm
    obtain ⟨e, he, rfl⟩ := List.mem_map.mp hm
    obtain ⟨hmem, hcontainer⟩ := List.mem_filter.mp he
    exact ⟨e, mem_grouped.mp hmem, by simpa using hcontainer, rfl⟩
  cases path with
  | nil =>
    cases hx
    rw [List.append_nil]
    -- without an exempt entry no entry has a special name, and what was there before decides
    by_cases hexempt : r.Exempts p.keys
    · exact .inr hexempt
    · refine .inl (Json.paired_object.mpr (hpresent.overlay (.of_notMem ?_ ?_)))
      · intro hmem
        obtain ⟨m, hm, hname⟩ := List.mem_map.mp hmem
        obtain ⟨e, he, -, rfl⟩ := hadded m hm
        exact hnames e he hname
      · intro hmem
        obtain ⟨m, hm, hname⟩ := List.mem_map.mp hmem
        obtain ⟨e, he, rfl, rfl⟩ := hadded m hm
        exact hexempt ⟨e, he, hname, rfl⟩
  | cons step path =>
    obtain ⟨child, hchild, hrest⟩ := Option.bind_eq_some_iff.mp hx
    obtain ⟨name, ms, rfl, hms, hfind⟩ : ∃ name ms, step = .key name ∧
        filled tree r.grouped p = ms ∧ OrderedMap.find? ms name = some child := by
      cases step with
      | key name => exact ⟨name, _, rfl, rfl, hchild⟩
      | index i => cases hchild
    subst hms
    have hthroughout : child.Throughout Paired := by
      rcases OrderedMap.mem_overlay (OrderedMap.mem_of_find? hfind) with hold | hnew
      · exact hbelow _ hold
      · obtain ⟨e, he, -, heq⟩ := hadded _ hnew
        obtain ⟨-, rfl⟩ := Prod.mk.inj heq
        exact hentries e he
    exact .inl (hthroughout.follow? hrest).here

/-- Writing containers keeps a tree as paired as they are. -/
theorem pairedBut_of_writeContainers {E : List Segment → Prop}
    (hhomes : ∀ c ∈ cs, c.1 ∈ d.homes)
    (hmembers : ∀ c ∈ cs, ∀ path x, (Json.object c.2).follow? path = some x →
      x.Paired ∨ E (c.1.keys ++ path))
    (htree : tree.PairedBut E) (h : cs.foldlM writeContainer tree = .ok out) :
    out.PairedBut E := by
  induction cs generalizing tree with
  | nil =>
    cases h
    exact htree
  | cons c cs ih =>
    obtain ⟨new, hinsert, hrest⟩ := writeContainers_cons h
    have hhome := hhomes c (List.mem_cons_self ..)
    have hinfo : adornmentKey ∉ c.1.tokens := fun hmem =>
      Dialect.adornmentKey_notMem_keys hhome (List.mem_map_of_mem hmem)
    have hnew : new.PairedBut E := htree.insertAt (Dialect.refKey_notMem_tokens hhome) hinfo
      (hmembers c (List.mem_cons_self ..)) hinsert
    exact ih (fun c hc => hhomes c (List.mem_cons_of_mem _ hc))
      (fun c hc => hmembers c (List.mem_cons_of_mem _ hc)) hnew hrest

theorem pairedBut_of_assemble (hr : Orderly d r)
    (hentries : ∀ e ∈ r.entries, e.node.Throughout Paired)
    (hnames : ∀ e ∈ r.entries, e.name ≠ refKey) (htree : tree.Throughout Paired)
    (h : r.assemble tree = .ok out) : out.PairedBut r.Exempts := by
  refine pairedBut_of_writeContainers hr.homes_containers (fun c hc path x hx => ?_)
    (Json.pairedBut_of_throughout htree) h
  obtain ⟨-, hfilled⟩ := mem_containers.mp hc
  rw [hfilled] at hx
  exact paired_filled hentries hnames htree hx

end Registry

namespace Session

variable {s s' s'' : Session}

/-- A later state that holds paired nodes if the earlier one does. -/
structure Pairs (s s' : Session) : Prop extends s.Evolves s' where
  paired : s.Paired → s'.Paired

theorem composes_pairs : Composes Pairs where
  evolves := fun h => h.toEvolves
  refl := fun hwf => ⟨.refl hwf, id⟩
  trans := fun h h' => ⟨h.toEvolves.trans h'.toEvolves, fun hs => h'.paired (h.paired hs)⟩

end Session

namespace Bundle

variable {source : Source} {o : Options} {root : Uri} {tree : Json} {d : Dialect} {bound : Nat}
  {s s' : Session} {id : ContentId} {phase : Phase}

/-! ## The phases -/

theorem paired_rooted (hroot : (Reference.forDocument root).documentRef.error = none)
    (htree : tree.Throughout Paired) (hsource : source.Supplies Paired) :
    (rooted d o source root tree).Paired where
  wf := (taken_rooted hroot).sound.wf
  supplies := hsource
  documents := by
    refine ⟨fun hc hbody => ?_⟩
    obtain ⟨rfl, rfl⟩ := content?_rooted hc
    cases hbody
    exact htree
  entries := List.forall_mem_nil _

theorem pairs_loadContent (r : Reference) (start : Option Nat) :
    Relates Session.Pairs (loadContent r start) := by
  intro s result s' hwf h
  obtain ⟨-, rfl⟩ := ends_onStore.mp h
  obtain ⟨id, -, hgrows, -⟩ := hwf.load s.source r start
  refine ⟨Session.evolves_withStore (hwf.grows hgrows) hgrows.extends, fun hs => ?_⟩
  exact hs.withStore (hwf.grows hgrows) (hs.documents.grows hs.supplies hgrows)

theorem pairs_scan (bound : Nat) (id : ContentId) (phase : Phase) :
    Relates Session.Pairs (scan bound id phase) := by
  intro s result s' hwf h
  have hscan := ends_scan.mp h
  exact ⟨evolves_scanFrom bound hscan hwf, fun hs => ((paired_scanFrom bound).paired hs hscan).1⟩

/-- A run settles its root to a paired tree. -/
theorem paired_of_settled {y : Json} (hroot : (Reference.forDocument root).documentRef.error = none)
    (htree : tree.Throughout Paired) (hsource : source.Supplies Paired)
    (h : Ends (settled bound root tree) (.start d o source) (.ok y) s') : y.Throughout Paired := by
  obtain ⟨tops, s₁, s₂, results, hloaded, hcollect, hsettle, hy⟩ := settled_cases h
  obtain ⟨s₀, htops, hload⟩ := loaded_cases hloaded
  have hR := Session.composes_pairs
  have h₀ := relates_loadTops hR pairs_loadContent hroot htops
  have h₁ := hR.trans h₀ (relates_phase hR (pairs_scan bound) .load tops _ _ _ h₀.wf hload)
  have h₂ := hR.trans h₁ (relates_phase hR (pairs_scan bound) .collect tops _ _ _ h₁.wf hcollect)
  have hs₂ := h₂.paired (paired_rooted hroot htree hsource)
  cases tops with
  | nil =>
    rw [List.mapM_nil] at hsettle
    cases (ends_pure.mp hsettle).1
    cases hy
  | cons first others =>
    obtain ⟨y', s₃, rest, hfirst, -, rfl⟩ := ends_mapM_cons.mp hsettle
    exact ((paired_scanFrom bound).paired hs₂ (ends_scan.mp hfirst)).2 y (congrArg _ hy)

/-- No entry of a run is named like the text of a reference. -/
theorem names_of_settled {y : Json} (hroot : (Reference.forDocument root).documentRef.error = none)
    (h : Ends (settled bound root tree) (.start d o source) (.ok y) s') :
    ∀ e ∈ s'.registry.entries, e.name ≠ refKey := by
  obtain ⟨tops, s₁, s₂, results, hloaded, hcollect, hsettle, -⟩ := settled_cases h
  obtain ⟨s₀, htops, hload⟩ := loaded_cases hloaded
  obtain ⟨hgathered, htops, -⟩ := gathered_of_loadTops hroot htops
  have hev₁ := evolves_of_forM hgathered.wf hload
  have hev₂ := evolves_of_forM hev₁.wf hcollect
  have hempty : s₁.registry = .empty :=
    (registry_of_forM_load hgathered.wf hload).trans hgathered.registry
  have hnone {P : Head → Prop} : ∀ h ∈ s₁.registry.heads, P h := by
    rw [hempty]
    exact List.forall_mem_nil _
  obtain ⟨-, -, hnames, -⟩ := collects_of_forM (hev₁.dialect.trans hgathered.dialect)
    (fun id hid => (htops id hid).evolves hev₁) hnone hcollect
  have hsettling := relates_mapM Session.Spares.composes
    (fun id => spares_scan bound id .settle (by simp)) tops _ _ _ hev₂.wf hsettle
  intro e he
  rcases hsettling.names e.head (List.mem_map_of_mem he) with hold | hnew
  · exact hnames hnone e.head hold
  · exact hnew

/-- What becomes of adornments where no document has any that are not beside texts. -/
structure TakesOff (bound : Nat) : Prop where
  /-- Scans keep adornments beside texts, in all that a run holds and in what they give back. -/
  scanned : ∀ id phase start s result s', s.Paired →
    Ends (scanFrom bound id phase start) s result s' →
    s'.Paired ∧ ∀ y, result = .ok (some y) → y.Throughout Paired
  /-- So do runs, however they end. -/
  run : ∀ d o source root tree result s', (Reference.forDocument root).documentRef.error = none →
    tree.Throughout Paired → source.Supplies Paired →
    Ends (run bound root tree) (.start d o source) result s' → s'.Paired
  /-- A member that is named like an adornment in the output is what was hoisted under that name. -/
  output : ∀ d o source root tree out s', (Reference.forDocument root).documentRef.error = none →
    tree.Throughout Paired → source.Supplies Paired →
    ended bound source o root tree d = some (.ok out, s') →
    ∀ path x, out.follow? (path ++ [.key adornmentKey]) = some x →
      ∃ e ∈ s'.registry.entries, e.name = adornmentKey ∧ e.container.keys = path ∧
        x = e.node.stripAdornments

theorem adornments_taken_off (bound : Nat) : TakesOff bound where
  scanned := fun id phase start s result s' hs h => (paired_scanFrom bound).paired hs h
  run := by
    intro d o source root tree result s' hroot htree hsource h
    have hrun := relates_run Session.composes_pairs pairs_loadContent (pairs_scan bound) hroot h
    exact hrun.paired (paired_rooted hroot htree hsource)
  output := by
    intro d o source root tree out s' hroot htree hsource h path x hx
    have hends : Ends (run bound root tree) (.start d o source) (.ok out) s' := h
    have hs' := (relates_run Session.composes_pairs pairs_loadContent (pairs_scan bound) hroot
      hends).paired (paired_rooted hroot htree hsource)
    obtain ⟨y, assembled, hsettled, hassemble, rfl⟩ := run_cases hends
    have horder := (Registry.Orderly.empty d).reaches (reaches_of_settled hroot hsettled)
    have hbut := Registry.pairedBut_of_assemble horder hs'.entries
      (names_of_settled hroot hsettled) (paired_of_settled hroot htree hsource hsettled) hassemble
    obtain ⟨e, he, hname, rfl⟩ := hbut.of_stripAdornments hx
    refine ⟨e, he, hname, rfl, ?_⟩
    obtain ⟨z, hz, rfl⟩ := Json.follow?_of_stripAdornments hx
    have hslot := (horder.assembled hassemble).slot e he
    rw [Pointer.keys_push, hname, hz] at hslot
    rw [Option.some.inj hslot]

namespace Leftover

/-- The URL of the root. -/
def home : Uri := ⟨"mem", some (.ofHost (some (.name "a"))), "/main.json", none, none⟩

/-- A root that refers to the other document. -/
def homeTree : Json :=
  .object [("swagger", .string "2.0"), ("x-o", .object [("$ref", .string "o.json")])]

/-- A document whose definitions are a reference that leads nowhere. -/
def documents : Source.Texts :=
  [("mem://a/o.json", "\x7b\"definitions\":\x7b\"$ref\":\"nowhere.json\"\x7d\x7d")]

/-- The document is taken in as well. -/
def options : Options := { Options.default with additionalFiles := ["o.json"] }

/-- The place of the definition that is made up. -/
def place : List Segment := [.key "definitions", .key adornmentKey]

set_option maxRecDepth 10000

theorem reads : (Reference.forDocument home).documentRef.error = none := by decide

theorem paired_homeTree : homeTree.Throughout Paired := by decide

theorem supplies : Source.Supplies (.ofTexts documents) Paired := by
  have h : ∀ entry ∈ documents, ∀ document ∈ (parseDocument entry.2).toOption,
      document.Throughout Paired := by decide +kernel
  intro url document hread
  obtain ⟨text, hmem, hparse⟩ := mem_of_retrieve hread
  exact h _ hmem document (by rw [hparse]; rfl)

theorem ended_out : ∃ out s' x,
    ended 10 (.ofTexts documents) options home homeTree .swagger2 = some (.ok out, s') ∧
      out.follow? place = some x := by
  have h : ((ended 10 (.ofTexts documents) options home homeTree .swagger2).bind fun p =>
      p.1.toOption.bind fun out => out.follow? place).isSome = true := by decide +kernel
  obtain ⟨x, hx⟩ := Option.isSome_iff_exists.mp h
  obtain ⟨⟨result, s'⟩, hended, hresult⟩ := Option.bind_eq_some_iff.mp hx
  obtain ⟨out, hout, hfollow⟩ := Option.bind_eq_some_iff.mp hresult
  exact ⟨out, s', x, ok_of_toOption hout ▸ hended, hfollow⟩

end Leftover

/-- The adornment of a container that is a reference is hoisted like a definition. -/
theorem adornments_taken_off_leftover : ∃ out s' x,
    ended 10 (.ofTexts Leftover.documents) Leftover.options Leftover.home Leftover.homeTree
        .swagger2 = some (.ok out, s') ∧
      out.follow? Leftover.place = some x ∧ ∃ e ∈ s'.registry.entries, e.name = adornmentKey ∧
        e.container.keys = [.key "definitions"] ∧ x = e.node.stripAdornments := by
  obtain ⟨out, s', x, hended, hx⟩ := Leftover.ended_out
  exact ⟨out, s', x, hended, hx, (adornments_taken_off 10).output _ _ _ _ _ _ _ Leftover.reads
    Leftover.paired_homeTree Leftover.supplies hended [.key "definitions"] x hx⟩

end Bundle

end ApiBundle
