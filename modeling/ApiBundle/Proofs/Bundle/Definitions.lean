import ApiBundle.Proofs.Bundle.Course
import ApiBundle.Proofs.Scan.Collecting
import ApiBundle.Proofs.Tree.Strip

/-!
# Definitions keep their entries

What the top documents of a run define is registered before anything else: every definition has an
entry of its own (`Bundle.KeepsDefinitions`). The root comes first, so its definitions keep their
names, whatever the other documents hold. The output has every entry in its slot. One name is not
safe there: a container that has a text under `$ref` is a reference node for whoever takes the
adornments off, and a definition named `_info` goes with them.

Whatever else is in a container stays there, unless an entry has its name. Members that are no
definitions have no entries, so their names are not taken: content that comes from another document
may get one of them.
-/

namespace ApiBundle

open Scanning Scan

/-- What is defined at a place of a content's tree, and the reference to that place. -/
def Session.definition? (s : Session) (id : ContentId) (path : List Segment) :
    Option (Component × Reference) := do
  let content ← s.store.content? id
  let url ← content.reference.url
  let tree ← s.store.tree? id
  let _ ← tree.follow? path
  let state ← s.dialect.machine.run content.start path
  let component ← s.dialect.definedAt? state
  return (component, .atPointer url (.ofPath path))

/-- The entry that is collected under a name in a container. -/
def Registry.entryAt? (r : Registry) (p : Pointer) (name : String) : Option Entry :=
  r.entries.find? fun e => e.container = p ∧ e.name = name

/-- A member of a node at a place that is taken for the adornment of a reference node. -/
def Json.HasAdornment (out : Json) (p : Pointer) (name : String) : Prop :=
  name = adornmentKey ∧ ∃ x, out.follow? p.keys = some x ∧ x.isRefNode = true

namespace Dialect

variable {d : Dialect} {p : Pointer} {out : Json} {name : String}

theorem adornmentKey_notMem_keys (hp : p ∈ d.homes) : .key adornmentKey ∉ p.keys := by
  have key : ∀ d ∈ [swagger2, openApi3], ∀ p ∈ d.homes, .key adornmentKey ∉ p.keys := by
    decide
  exact key d (by cases d <;> simp) p hp

/-- Taking adornments off leaves the members of containers in place. -/
theorem follow?_member_stripAdornments (hp : p ∈ d.homes)
    (h : ¬ out.stripAdornments.HasAdornment p name) :
    out.stripAdornments.follow? (p.push name).keys =
      (out.follow? (p.push name).keys).map Json.stripAdornments := by
  have hway := Json.follow?_stripAdornments (x := out) (adornmentKey_notMem_keys hp)
  rw [Pointer.keys_push, Json.follow?_append, Json.follow?_append, hway]
  cases hcontainer : out.follow? p.keys with
  | none => rfl
  | some x =>
    rw [hcontainer, Option.map_some] at hway
    show (x.stripAdornments.step? (.key name)).bind _ = ((x.step? (.key name)).bind _).map _
    rw [Json.step?_stripAdornments, if_neg]
    · cases x.step? (.key name) <;> rfl
    · rintro ⟨href, hname⟩
      refine h ⟨Segment.key.inj hname, _, hway, ?_⟩
      unfold Json.isRefNode at href ⊢
      rwa [Json.refText?_stripAdornments]

end Dialect

namespace Bundle

variable {source : Source} {o : Options} {root : Uri} {tree : Json} {d : Dialect} {bound : Nat}
  {s s' : Session} {id : ContentId} {url : Uri} {path : List Segment} {c : Component}
  {origin : Reference}

/-- How a run treats what its loaded top documents define, the root's being the first of them. -/
structure KeepsDefinitions (tops : List ContentId) (s s' : Session) (out : Json) : Prop where
  /-- Every top document is there to be looked at. -/
  document : ∀ id ∈ tops, ∃ c url tree, s.store.content? id = some c ∧
    c.reference.url = some url ∧ s.store.tree? id = some tree
  /-- Every definition has one entry. -/
  entry : ∀ id ∈ tops, ∀ path c origin, s.definition? id path = some (c, origin) →
    ∃ e ∈ s'.registry.entries, e.origin.id = origin.id ∧ e.component = c ∧
      ∀ e' ∈ s'.registry.entries, e'.origin.id = origin.id → e' = e
  /-- No two definitions share one. -/
  apart : ∀ id ∈ tops, ∀ id' ∈ tops, ∀ path path' c c' origin origin',
    s.definition? id path = some (c, origin) → s.definition? id' path' = some (c', origin') →
    origin.id = origin'.id → id = id' ∧ path = path'
  /-- Every entry is in its slot. -/
  slot : ∀ e ∈ s'.registry.entries, ¬ out.HasAdornment e.container e.name →
    out.follow? (e.container.push e.name).keys = some e.node.stripAdornments
  /-- The definitions of the root stay where they are. -/
  root : ∀ id, tops.head? = some id → ∀ path c origin, s.definition? id path = some (c, origin) →
    ∀ e ∈ s'.registry.entries, e.origin.id = origin.id → (e.container.push e.name).keys = path

theorem definition?_eq_some {content : Content} (hcontent : s.store.content? id = some content)
    (hurl : content.reference.url = some url) : s.definition? id path = some (c, origin) ↔
      ∃ t x q, s.store.tree? id = some t ∧ t.follow? path = some x ∧
        s.dialect.machine.run content.start path = some q ∧ s.dialect.definedAt? q = some c ∧
        Reference.atPointer url (.ofPath path) = origin := by
  unfold Session.definition?
  simp only [hcontent, hurl, Option.bind_eq_bind, Option.bind_some, Option.bind_eq_some_iff,
    Option.pure_def, Option.some.injEq, Prod.mk.injEq]
  constructor
  · rintro ⟨t, ht, x, hx, q, hq, c', hc, rfl, rfl⟩
    exact ⟨t, x, q, ht, hx, hq, hc, rfl⟩
  · rintro ⟨t, x, q, ht, hx, hq, hc, rfl⟩
    exact ⟨t, ht, x, hx, q, hq, c, hc, rfl, rfl⟩

/-- A definition of a top document is a direct member of a container. -/
theorem place_of_definition? {content : Content} (hd : s.dialect = d)
    (hcontent : s.store.content? id = some content) (htop : IsTop d content)
    (hurl : content.reference.url = some url)
    (h : s.definition? id path = some (c, origin)) : c ∈ d.components ∧
      ∃ home name, c.container? = some home ∧ path = (home.push name).keys ∧
        origin = .atPointer url (home.push name) := by
  obtain ⟨t, x, q, -, -, hrun, hc, rfl⟩ := (definition?_eq_some hcontent hurl).mp h
  rw [hd] at hrun hc
  rw [htop.start] at hrun
  obtain ⟨home, name, hhome, rfl, -⟩ := Dialect.place_of_definition hrun hc
  refine ⟨Dialect.mem_components_of_definedAt? hc, home, name, hhome, ?_, ?_⟩
  · rw [Pointer.keys_push]
  · simp [Pointer.ofPath, Pointer.keys, Pointer.push, Segment.token, Function.comp_def]

/-! ## Collecting -/

theorem registry_of_forM_load {ids : List ContentId} (hwf : s.store.WF)
    (h : Ends (ids.forM fun id => discard (scan bound id .load)) s (.ok ⟨⟩) s') :
    s'.registry = s.registry := by
  induction ids generalizing s with
  | nil =>
    obtain ⟨-, rfl⟩ := ends_forM_nil.mp h
    rfl
  | cons id ids ih =>
    obtain ⟨s₁, hfirst, hrest⟩ := ends_forM_cons.mp h
    obtain ⟨y, hscan⟩ := ends_discard_ok.mp hfirst
    have hev := evolves_of_scan hwf hscan
    exact (ih hev.wf hrest).trans (loadsOnly_scanFrom bound (ends_scan.mp hscan) hwf)

/-- Collecting a top document gives every definition in it an entry. -/
theorem collects_of_scan {content : Content} {y : Option Json} (hd : s.dialect = d)
    (hcontent : s.store.content? id = some content) (htop : IsTop d content)
    (hurl : content.reference.url = some url)
    (h : Ends (scan bound id .collect) s (.ok y) s') :
    CollectsInto d url s s' ∧ ∀ path c origin, s.definition? id path = some (c, origin) →
      ∃ e, s'.registry.find? origin.id = some e := by
  have h := ends_scan.mp h
  cases bound with
  | zero => cases h
  | succ bound =>
    generalize hresult : Except.ok (ε := BundleError) y = result at h
    cases scanFrom_ends h with
    | empty nothing =>
      obtain ⟨t, hbody⟩ := htop.body
      simp [Store.tree?, hcontent, hbody] at nothing
    | failed | unwritten => cases hresult
    | written _ _ load => cases load
    | @read _ t y' _ known held _ walk =>
      cases hcontent.symm.trans known
      have hcollecting : Collecting d url content.reference
          (.start s.dialect.machine (some d.model)) s :=
        ⟨hurl, htop.whole, hd, by rw [hd]; rfl, rfl⟩
      rw [hcontent, Option.bind_some, htop.start] at walk
      obtain ⟨hinto, hfound⟩ := collects_of_node hcollecting walk
      refine ⟨hinto, fun path c origin hdef => ?_⟩
      obtain ⟨t', x, q, ht, hx, hrun, hc, rfl⟩ := (definition?_eq_some hcontent hurl).mp hdef
      cases held.symm.trans ht
      rw [hd] at hrun hc
      rw [htop.start] at hrun
      exact hfound hx hrun hc

/-- Collecting top documents gives every definition in them an entry. -/
theorem collects_of_forM {ids : List ContentId} (hd : s.dialect = d)
    (htops : ∀ id ∈ ids, HasTop d s id) (hdefined : ∀ h ∈ s.registry.heads, h.Defined)
    (h : Ends (ids.forM fun id => discard (scan bound id .collect)) s (.ok ⟨⟩) s') :
    s.registry.Extends s'.registry ∧ (∀ h ∈ s'.registry.heads, h.Defined) ∧
      ((∀ h ∈ s.registry.heads, h.name ≠ refKey) → ∀ h ∈ s'.registry.heads, h.name ≠ refKey) ∧
      ∀ id ∈ ids, ∀ path c origin, s.definition? id path = some (c, origin) →
        ∃ e, s'.registry.find? origin.id = some e := by
  induction ids generalizing s with
  | nil =>
    obtain ⟨-, rfl⟩ := ends_forM_nil.mp h
    exact ⟨.refl _, hdefined, id, fun _ hid => absurd hid List.not_mem_nil⟩
  | cons id ids ih =>
    obtain ⟨s₁, hfirst, hrest⟩ := ends_forM_cons.mp h
    obtain ⟨y, hscan⟩ := ends_discard_ok.mp hfirst
    obtain ⟨content, hcontent, htop⟩ := htops id (List.mem_cons_self ..)
    obtain ⟨url, hsharp⟩ := htop.sharp
    obtain ⟨⟨hs₁, hcollects⟩, hfound⟩ := collects_of_scan hd hcontent htop hsharp.url hscan
    have hstore : s₁.store = s.store := by rw [hs₁]; rfl
    have hdialect : s₁.dialect = s.dialect := by rw [hs₁]; rfl
    have hsame : s₁.definition? = s.definition? := by
      unfold Session.definition?
      rw [hstore, hdialect]
    obtain ⟨hext, hdefined', hnames, hothers⟩ := ih (hdialect.trans hd)
      (fun id hid => by
        unfold HasTop
        rw [hstore]
        exact htops id (List.mem_cons_of_mem _ hid))
      (hcollects.defined hdefined) hrest
    refine ⟨(Registry.extends_of_collects hcollects).trans hext, hdefined',
      fun hs => hnames (hcollects.names hs), fun id' hid' path c origin hdef => ?_⟩
    rcases List.mem_cons.mp hid' with rfl | hid'
    · obtain ⟨e, he⟩ := hfound path c origin hdef
      obtain ⟨e', he', -⟩ := hext.find? he
      exact ⟨e', he'⟩
    · exact hothers id' hid' path c origin (hsame ▸ hdef)

/-- What is collected first gets the names that it has. -/
theorem ownIn_of_scan {content : Content} {y : Option Json} (hd : s.dialect = d)
    (hempty : s.registry = .empty) (hcontent : s.store.content? id = some content)
    (htop : IsTop d content) (hurl : content.reference.url = some url)
    (h : Ends (scan bound id .collect) s (.ok y) s') : ∀ h ∈ s'.registry.heads, h.OwnIn url := by
  obtain ⟨⟨-, hcollects⟩, -⟩ := collects_of_scan hd hcontent htop hurl h
  rw [hempty] at hcollects
  exact hcollects.keeps_names (.empty d) fun _ hh => absurd hh List.not_mem_nil

/-! ## Runs -/

/-- What was registered after loading, seen from a later state. -/
structure Collected (d : Dialect) (tops : List ContentId) (s s' : Session) : Prop where
  orderly : Registry.Orderly d s'.registry
  entry : ∀ id ∈ tops, ∀ path c origin, s.definition? id path = some (c, origin) →
    ∃ e ∈ s'.registry.entries, e.origin.id = origin.id ∧ e.head.Defined
  root : ∀ id, tops.head? = some id → ∀ path c origin, s.definition? id path = some (c, origin) →
    ∃ e ∈ s'.registry.entries, e.origin.id = origin.id ∧ ∃ url, e.head.OwnIn url

/-- What happens to the definitions of loaded top documents up to the end of the phases. -/
theorem collected_of_phases {tops : List ContentId} {s₂ : Session} {results : List (Option Json)}
    (hwf : s.store.WF) (hd : s.dialect = d) (hempty : s.registry = .empty)
    (htops : ∀ id ∈ tops, HasTop d s id)
    (hcollect : Ends (tops.forM fun id => discard (scan bound id .collect)) s (.ok ⟨⟩) s₂)
    (hsettle : Ends (tops.mapM fun id => scan bound id .settle) s₂ (.ok results) s') :
    Collected d tops s s' := by
  have hev₂ := evolves_of_forM hwf hcollect
  have hev' := evolves_of_mapM hev₂.wf hsettle
  have later {r : Registry} {e : Entry} {i : RefId} (hext : r.Extends s'.registry)
      (he : r.find? i = some e) :
      ∃ e' ∈ s'.registry.entries, e'.origin.id = i ∧ e'.head = e.head := by
    obtain ⟨e', he', hhead⟩ := hext.find? he
    obtain ⟨hmem, hid⟩ := Registry.mem_of_find? he'
    exact ⟨e', hmem, hid, hhead⟩
  have hnone : ∀ h ∈ s.registry.heads, False := by
    intro h hh
    rw [hempty] at hh
    exact absurd hh List.not_mem_nil
  refine ⟨?_, fun id hid path c origin hdef => ?_, fun id hid path c origin hdef => ?_⟩
  · have hcalls := (hev₂.trans hev').calls
    rw [hempty, hd] at hcalls
    exact (Registry.Orderly.empty d).reaches hcalls
  · obtain ⟨-, hdefined, -, hfound⟩ :=
      collects_of_forM hd htops (fun h hh => (hnone h hh).elim) hcollect
    obtain ⟨e, he⟩ := hfound id hid path c origin hdef
    obtain ⟨e', hmem, hid', hhead⟩ := later hev'.registry he
    refine ⟨e', hmem, hid', hhead ▸ hdefined e.head ?_⟩
    exact List.mem_map_of_mem (Registry.mem_of_find? he).1
  · cases tops with
    | nil => cases hid
    | cons first others =>
      cases hid
      obtain ⟨content, hcontent, htop⟩ := htops id (List.mem_cons_self ..)
      obtain ⟨url, hsharp⟩ := htop.sharp
      obtain ⟨s₁, hfirst, hrest⟩ := ends_forM_cons.mp hcollect
      obtain ⟨y, hscan⟩ := ends_discard_ok.mp hfirst
      have hev₁ := evolves_of_scan hwf hscan
      have hown := ownIn_of_scan hd hempty hcontent htop hsharp.url hscan
      obtain ⟨e, he⟩ := (collects_of_scan hd hcontent htop hsharp.url hscan).2 path c origin hdef
      obtain ⟨e', hmem, hid', hhead⟩ :=
        later ((evolves_of_forM hev₁.wf hrest).registry.trans hev'.registry) he
      refine ⟨e', hmem, hid', url, hhead ▸ hown e.head ?_⟩
      exact List.mem_map_of_mem (Registry.mem_of_find? he).1

/-- Different top documents have different URLs. -/
theorem eq_of_urls {id id' : ContentId} {content content' : Content} {u u' : Uri}
    (hwf : s.store.WF) (hcontent : s.store.content? id = some content)
    (hcontent' : s.store.content? id' = some content') (htop : IsTop d content)
    (htop' : IsTop d content') (hsharp : content.reference.Sharp u)
    (hsharp' : content'.reference.Sharp u')
    (h : u.withoutFragment.text = u'.withoutFragment.text) : id = id' := by
  have hsame : content.reference.id = content'.reference.id := by
    rw [hsharp.id_eq, hsharp'.id_eq, htop.whole, htop'.whole]
    unfold Reference.id Reference.atPointer
    simp only [h]
  have hfound := hwf.indexed hcontent
  rw [hsame, hwf.indexed hcontent'] at hfound
  exact (Option.some.inj hfound).symm

/--
A run that gives a document keeps the definitions of all its top documents apart, and those of its
root in their places.
-/
theorem keepsDefinitions_of_ended {out : Json}
    (hroot : (Reference.forDocument root).documentRef.error = none)
    (h : ended bound source o root tree d = some (.ok out, s')) :
    ∃ tops s, Ends (loaded bound root tree) (.start d o source) (.ok tops) s ∧
      KeepsDefinitions tops s s' out := by
  obtain ⟨y, assembled, hsettled, hassemble, rfl⟩ :=
    run_cases (show Ends (run bound root tree) (.start d o source) (.ok out) s' from h)
  obtain ⟨tops, s, s₂, results, hloaded, hcollect, hsettle, -⟩ := settled_cases hsettled
  obtain ⟨s₀, htops₀, hload⟩ := loaded_cases hloaded
  obtain ⟨hgathered, htops, -⟩ := gathered_of_loadTops hroot htops₀
  have hev := evolves_of_forM hgathered.wf hload
  have htops : ∀ id ∈ tops, HasTop d s id := fun id hid => (htops id hid).evolves hev
  have hd : s.dialect = d := hev.dialect.trans hgathered.dialect
  have hempty : s.registry = .empty := (registry_of_forM_load hgathered.wf hload).trans
    hgathered.registry
  have hcollected := collected_of_phases hev.wf hd hempty htops hcollect hsettle
  have horder := hcollected.orderly
  have hassembled := horder.assembled hassemble
  refine ⟨tops, s, hloaded, ?document, ?entry, ?apart, ?slot, ?root⟩
  case document =>
    intro id hid
    obtain ⟨content, hcontent, htop⟩ := htops id hid
    obtain ⟨url, hsharp⟩ := htop.sharp
    obtain ⟨t, hbody⟩ := htop.body
    exact ⟨content, url, t, hcontent, hsharp.url, by simp [Store.tree?, hcontent, hbody]⟩
  case entry =>
    intro id hid path c origin hdef
    obtain ⟨e, he, horigin, u, name, hdefined⟩ := hcollected.entry id hid path c origin hdef
    refine ⟨e, he, horigin, ?_, fun e' he' h' => horder.eq_of_origin he' he (h'.trans horigin.symm)⟩
    obtain ⟨content, hcontent, htop⟩ := htops id hid
    obtain ⟨url, hsharp⟩ := htop.sharp
    obtain ⟨hc, home, name', hhome, -, rfl⟩ :=
      place_of_definition? hd hcontent htop hsharp.url hdef
    -- the entry comes from the same place, so it was made for the same container
    have hplace := (Reference.eq_of_id_atPointer (hdefined.symm.trans horigin)).2
    have hcontainer : e.container = home := by
      have htokens := (List.append_inj' (congrArg Pointer.tokens hplace) rfl).1
      exact congrArg Pointer.mk htokens
    obtain ⟨hmem, hcontainer'⟩ := horder.container he
    exact Registry.eq_of_container hmem hc hcontainer' (hcontainer ▸ hhome)
  case apart =>
    intro id hid id' hid' path path' c c' origin origin' hdef hdef' hsame
    obtain ⟨content, hcontent, htop⟩ := htops id hid
    obtain ⟨content', hcontent', htop'⟩ := htops id' hid'
    obtain ⟨url, hsharp⟩ := htop.sharp
    obtain ⟨url', hsharp'⟩ := htop'.sharp
    obtain ⟨-, home, name, -, rfl, rfl⟩ := place_of_definition? hd hcontent htop hsharp.url hdef
    obtain ⟨-, home', name', -, rfl, rfl⟩ :=
      place_of_definition? hd hcontent' htop' hsharp'.url hdef'
    obtain ⟨hurls, hplaces⟩ := Reference.eq_of_id_atPointer hsame
    exact ⟨eq_of_urls hev.wf hcontent hcontent' htop htop' hsharp hsharp' hurls, by rw [hplaces]⟩
  case slot =>
    intro e he hsafe
    obtain ⟨hmem, hhome⟩ := horder.container he
    rw [Dialect.follow?_member_stripAdornments (Dialect.mem_homes hmem hhome) hsafe,
      hassembled.slot e he]
    rfl
  case root =>
    intro id hid path c origin hdef e he horigin
    obtain ⟨e', he', horigin', url, hown⟩ := hcollected.root id hid path c origin hdef
    cases horder.eq_of_origin he he' (horigin.trans horigin'.symm)
    obtain ⟨content, hcontent, htop⟩ := htops id (List.mem_of_head? hid)
    obtain ⟨u, hsharp⟩ := htop.sharp
    obtain ⟨-, home, name, -, rfl, rfl⟩ := place_of_definition? hd hcontent htop hsharp.url hdef
    have hplace : e.container.push e.name = home.push name :=
      (Reference.eq_of_id_atPointer (hown.symm.trans horigin)).2
    rw [hplace]

namespace Namesakes

/-- The URL of the root. -/
def home : Uri := ⟨"mem", some (.ofHost (some (.name "a"))), "/main.json", none, none⟩

/-- A root with a definition, and with a member beside it that is none. -/
def homeTree : Json :=
  .object [("swagger", .string "2.0"),
    ("definitions", .object [("Pet", .object [("type", .string "string")]),
      ("x-vendor", .string "keep")])]

/-- A document with a definition of the same name. -/
def documents : Source := .ofTexts
  [("mem://a/other.json", "\x7b\"definitions\":\x7b\"Pet\":\x7b\"type\":\"integer\"\x7d\x7d\x7d")]

/-- The document is taken in as well. -/
def options : Options := { Options.default with additionalFiles := ["other.json"] }

/-- The bundled document. -/
def out : Json :=
  .object [("swagger", .string "2.0"),
    ("definitions", .object [("Pet", .object [("type", .string "string")]),
      ("x-vendor", .string "keep"), ("Pet_1", .object [("type", .string "integer")])])]

set_option maxRecDepth 10000

theorem ended_out : ∃ s', ended 10 documents options home homeTree .swagger2 = some (.ok out, s') := by
  have h : ((ended 10 documents options home homeTree .swagger2).bind fun p => p.1.toOption) =
      some out := by decide +kernel
  obtain ⟨⟨result, s'⟩, hended, hresult⟩ := Option.bind_eq_some_iff.mp h
  exact ⟨s', ok_of_toOption hresult ▸ hended⟩

theorem reads : (Reference.forDocument home).documentRef.error = none := by decide

end Namesakes

theorem keepsDefinitions_of_ended_namesakes :
    (Reference.forDocument Namesakes.home).documentRef.error = none ∧ ∃ s',
      ended 10 Namesakes.documents Namesakes.options Namesakes.home Namesakes.homeTree .swagger2 =
        some (.ok Namesakes.out, s') ∧
      ∃ tops s, Ends (loaded 10 Namesakes.home Namesakes.homeTree)
          (.start .swagger2 Namesakes.options Namesakes.documents) (.ok tops) s ∧
        KeepsDefinitions tops s s' Namesakes.out := by
  obtain ⟨s', hended⟩ := Namesakes.ended_out
  exact ⟨Namesakes.reads, s', hended, keepsDefinitions_of_ended Namesakes.reads hended⟩

namespace TakenOff

/-- The URL of the root. -/
def home : Uri := ⟨"mem", some (.ofHost (some (.name "a"))), "/main.json", none, none⟩

/-- A root whose definitions are a reference node, and one of them its adornment. -/
def homeTree : Json :=
  .object [("swagger", .string "2.0"), ("definitions", .object [("$ref", .string "#/x"),
    ("_info", .object [("type", .string "string")])])]

/-- The definition. -/
def place : Pointer := ⟨["definitions", "_info"]⟩

/-- The entry that it gets. -/
def entry : Entry :=
  ⟨⟨.swagger2, .schema⟩, "_info", .object [("type", .string "string")], .atPointer home place,
    ⟨["definitions"]⟩⟩

/-- The bundled document. -/
def out : Json :=
  .object [("swagger", .string "2.0"), ("definitions", .object [("$ref", .string "#/x")])]

end TakenOff

set_option maxRecDepth 10000 in
/-- A definition has an entry, and the bundled document has nothing in its slot. -/
theorem definition_taken_off :
    (∃ s, Ends (loaded 10 TakenOff.home TakenOff.homeTree) (.start .swagger2 .default (.ofTexts []))
        (.ok [0]) s ∧ s.definition? 0 TakenOff.place.keys =
          some (⟨.swagger2, .schema⟩, .atPointer TakenOff.home TakenOff.place)) ∧
      (∃ s', ended 10 (.ofTexts []) .default TakenOff.home TakenOff.homeTree .swagger2 =
          some (.ok TakenOff.out, s') ∧ s'.registry.entries = [TakenOff.entry]) ∧
      TakenOff.out.follow? (TakenOff.entry.container.push TakenOff.entry.name).keys = none := by
  have h : (((loaded 10 TakenOff.home TakenOff.homeTree).run.run
      (.start .swagger2 .default (.ofTexts []))).map
        fun p => (p.1.toOption, p.2.definition? 0 TakenOff.place.keys),
      (ended 10 (.ofTexts []) .default TakenOff.home TakenOff.homeTree .swagger2).map
        fun p => (p.1.toOption, p.2.registry.entries)) =
      (some (some [0], some (⟨.swagger2, .schema⟩, .atPointer TakenOff.home TakenOff.place)),
        some (some TakenOff.out, [TakenOff.entry])) := by decide +kernel
  obtain ⟨hloaded, hended⟩ := Prod.mk.inj h
  obtain ⟨⟨result, s⟩, hrun, hvalue⟩ := Option.map_eq_some_iff.mp hloaded
  obtain ⟨⟨result', s'⟩, hrun', hvalue'⟩ := Option.map_eq_some_iff.mp hended
  obtain ⟨htops, hdefinition⟩ := Prod.mk.inj hvalue
  obtain ⟨hout, hentries⟩ := Prod.mk.inj hvalue'
  exact ⟨⟨s, ok_of_toOption htops ▸ hrun, hdefinition⟩,
    ⟨s', ok_of_toOption hout ▸ hrun', hentries⟩, by decide⟩

/-! ## Other members -/

/-- Assembling replaces the members of containers that entries have the names of, and no others. -/
theorem follow?_member_of_assembled {r : Registry} {y assembled : Json} {p : Pointer}
    {name : String} {x : Json} (h : r.Assembled y assembled) (hr : Registry.Orderly d r)
    (hp : p ∈ d.homes) (hx : y.follow? (p.push name).keys = some x) :
    assembled.follow? (p.push name).keys = some ((r.entryAt? p name).elim x Entry.node) := by
  cases hentry : r.entryAt? p name with
  | some e =>
    have hslot := List.find?_some hentry
    simp only [decide_eq_true_eq] at hslot
    obtain ⟨rfl, rfl⟩ := hslot
    exact h.slot e (List.mem_of_find?_eq_some hentry)
  | none =>
    have hfree : ∀ e ∈ r.entries, e.container = p → e.name ≠ name := by
      intro e he hcontainer hname
      simpa [hcontainer, hname] using List.find?_eq_none.mp hentry e he
    by_cases hsome : ∃ e ∈ r.entries, e.container = p
    · obtain ⟨e, he, rfl⟩ := hsome
      exact (h.other e he name hfree).trans hx
    · refine (h.apart _ fun e he => ?_).trans hx
      obtain ⟨hmem, hhome⟩ := hr.container he
      have hne : p ≠ e.container := fun heq => hsome ⟨e, he, heq.symm⟩
      have hapart :=
        Dialect.apart_of_below hp (Dialect.mem_homes hmem hhome) hne [.key name]
      rwa [Pointer.keys_push]

/--
A member of a container of the settled root is in the bundled document, with its own value unless an
entry has its name.
-/
theorem follow?_member_of_ended {out : Json}
    (hroot : (Reference.forDocument root).documentRef.error = none)
    (h : ended bound source o root tree d = some (.ok out, s')) :
    ∃ y, Ends (settled bound root tree) (.start d o source) (.ok y) s' ∧
      ∀ p ∈ d.homes, ∀ name x, y.follow? (p.push name).keys = some x →
        ¬ out.HasAdornment p name → out.follow? (p.push name).keys =
          some ((s'.registry.entryAt? p name).elim x Entry.node).stripAdornments := by
  obtain ⟨y, assembled, hsettled, hassemble, rfl⟩ :=
    run_cases (show Ends (run bound root tree) (.start d o source) (.ok out) s' from h)
  have horder := (Registry.Orderly.empty d).reaches (reaches_of_settled hroot hsettled)
  refine ⟨y, hsettled, fun p hp name x hx hsafe => ?_⟩
  rw [Dialect.follow?_member_stripAdornments hp hsafe,
    follow?_member_of_assembled (horder.assembled hassemble) horder hp hx]
  rfl

theorem follow?_member_of_ended_namesakes :
    (Reference.forDocument Namesakes.home).documentRef.error = none ∧ ∃ s',
      ended 10 Namesakes.documents Namesakes.options Namesakes.home Namesakes.homeTree .swagger2 =
        some (.ok Namesakes.out, s') ∧
      ∃ y, Ends (settled 10 Namesakes.home Namesakes.homeTree)
          (.start .swagger2 Namesakes.options Namesakes.documents) (.ok y) s' ∧
        ∀ p ∈ Dialect.swagger2.homes, ∀ name x, y.follow? (p.push name).keys = some x →
          ¬ Namesakes.out.HasAdornment p name → Namesakes.out.follow? (p.push name).keys =
            some ((s'.registry.entryAt? p name).elim x Entry.node).stripAdornments := by
  obtain ⟨s', hended⟩ := Namesakes.ended_out
  exact ⟨Namesakes.reads, s', hended, follow?_member_of_ended Namesakes.reads hended⟩

end Bundle

end ApiBundle
