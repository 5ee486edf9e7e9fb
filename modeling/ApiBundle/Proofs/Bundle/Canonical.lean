import ApiBundle.Proofs.Bundle.Course
import ApiBundle.Proofs.Scan.Restoring

/-!
# Canonical documents are fixed points

A canonical document that is bundled on its own comes out as it went in, its members in their order.
Loading adorns its references, collecting gives each definition an entry under its own name, and
settling gives each entry what the definition has become. So each entry is written where it was
taken from (`Registry.assemble_dressed`), and the adornments come off.
-/

namespace ApiBundle

open Json Scanning Scan Store

/-! ## The reference nodes of a tree -/

namespace Json

mutual

/-- The reference nodes at and below a node, with the paths to them. -/
def refNodesAt (path : List Segment) : Json → List (List Segment × Json)
  | .object ms =>
    (if isRefNode (.object ms) then [(path, .object ms)] else []) ++ refNodesOfMembers path ms
  | .array xs => refNodesOfItems path 0 xs
  | .null | .bool _ | .number _ | .string _ => []

/-- The reference nodes below items that start at an index. -/
def refNodesOfItems (path : List Segment) (position : Nat) :
    List Json → List (List Segment × Json)
  | [] => []
  | x :: xs => refNodesAt (path ++ [.index position]) x ++ refNodesOfItems path (position + 1) xs

/-- The reference nodes below members. -/
def refNodesOfMembers (path : List Segment) : List (String × Json) → List (List Segment × Json)
  | [] => []
  | (k, x) :: ms => refNodesAt (path ++ [.key k]) x ++ refNodesOfMembers path ms

end

variable {path rest : List Segment} {x y : Json} {n : List Segment × Json}

theorem mem_refNodesOfMembers {ms : List (String × Json)} {k : String}
    (hx : (k, x) ∈ ms) (h : n ∈ x.refNodesAt (path ++ [.key k])) :
    n ∈ refNodesOfMembers path ms := by
  induction ms with
  | nil => cases hx
  | cons m ms ih =>
    rw [refNodesOfMembers]
    rcases List.mem_cons.mp hx with rfl | hx
    · exact List.mem_append_left _ h
    · exact List.mem_append_right _ (ih hx)

theorem mem_refNodesOfItems {xs : List Json} {i : Nat} (position : Nat) (hx : xs[i]? = some x)
    (h : n ∈ x.refNodesAt (path ++ [.index (position + i)])) :
    n ∈ refNodesOfItems path position xs := by
  induction xs generalizing i position with
  | nil => cases hx
  | cons y ys ih =>
    rw [refNodesOfItems]
    cases i with
    | zero =>
      cases hx
      exact List.mem_append_left _ h
    | succ i =>
      refine List.mem_append_right _ (ih (position + 1) hx ?_)
      rwa [show position + 1 + i = position + (i + 1) by omega]

/-- All reference nodes that paths lead to are listed. -/
theorem mem_refNodesAt (hy : x.follow? rest = some y) (href : y.isRefNode = true) :
    (path ++ rest, y) ∈ x.refNodesAt path := by
  induction rest generalizing x path with
  | nil =>
    cases hy
    obtain ⟨text, htext⟩ := Option.isSome_iff_exists.mp href
    obtain ⟨ms, rfl, -⟩ := object_of_refText? htext
    rw [refNodesAt, if_pos href, List.append_nil]
    exact List.mem_cons_self ..
  | cons step rest ih =>
    obtain ⟨a, ha, hrest⟩ := Option.bind_eq_some_iff.mp hy
    have hmem : (path ++ [step] ++ rest, y) ∈ a.refNodesAt (path ++ [step]) := ih hrest
    rw [List.append_assoc] at hmem
    cases x with
    | object ms =>
      cases step with
      | key k =>
        rw [refNodesAt]
        exact List.mem_append_right _ (mem_refNodesOfMembers (OrderedMap.mem_of_find? ha) hmem)
      | index i => cases ha
    | array xs =>
      cases step with
      | key k => cases ha
      | index i =>
        rw [refNodesAt]
        exact mem_refNodesOfItems 0 ha (by rwa [Nat.zero_add])
    | null | bool | number | string => cases step <;> cases ha

end Json

/-! ## Assembling -/

namespace Registry

variable {d : Dialect} {u : Uri} {tree x y : Json} {r : Registry}

/-- What stands at a place has become the content of an entry for the place. -/
def FitsAt (u : Uri) (tree : Json) (e : Entry) : Prop :=
  ∃ x, tree.follow? (e.container.push e.name).keys = some x ∧ Dressed u x e.node

/-- The members of a container may be overlaid with entries that fit. -/
theorem dressed_overlay {home : Pointer} {es : List Entry} {ms : List (String × Json)}
    (hx : tree.follow? home.keys = some x)
    (hes : ∀ e ∈ es, e.container = home ∧ e.name ≠ refKey ∧ FitsAt u tree e)
    (h : Dressed u x (.object ms)) :
    Dressed u x (.object (OrderedMap.overlay ms (es.map fun e => (e.name, e.node)))) := by
  induction es generalizing ms with
  | nil => exact h
  | cons e es ih =>
    obtain ⟨hhome, hname, z, hz, hdressed⟩ := hes e (List.mem_cons_self ..)
    have hstep : x.step? (.key e.name) = some z := by
      rw [hhome, follow?_push, hx] at hz
      exact hz
    exact ih (fun e he => hes e (List.mem_cons_of_mem _ he)) (h.put hname hstep hdressed)

/-- What is defined in a container stands there, so that the container is an object. -/
theorem dressed_container (h : r.Enrolled d u tree) (hfits : ∀ e ∈ r.entries, FitsAt u tree e)
    (hy : Dressed u tree y) {c : Pointer × List (String × Json)} (hc : c ∈ r.containers y) :
    refKey ∉ c.1.tokens ∧ ∃ x, tree.follow? c.1.keys = some x ∧ Dressed u x (.object c.2) := by
  obtain ⟨⟨e, he, heq⟩, hmembers⟩ := mem_containers.mp hc
  have named : ∀ e ∈ r.entries, refKey ∉ (e.container.push e.name).tokens :=
    fun e he => (h.entry e he).2.refKey_notMem
  have hhome : refKey ∉ c.1.tokens := fun hmem => named e he (List.mem_append_left _ (heq ▸ hmem))
  have hkeys : .key refKey ∉ c.1.keys := Pointer.key_notMem_keys hhome
  obtain ⟨z, hz, -⟩ := hfits e he
  rw [heq, follow?_push] at hz
  obtain ⟨x, hx, hstep⟩ := Option.bind_eq_some_iff.mp hz
  obtain ⟨w, hw, hxw⟩ := hy.follow? hkeys hx
  refine ⟨hhome, x, hx, ?_⟩
  -- the container has a member, so it is an object, before and after
  obtain ⟨ms, rfl, -⟩ := step?_key hstep
  obtain ⟨ms', rfl⟩ : ∃ ms', w = .object ms' := by
    generalize hobj : Json.object ms = x' at hxw
    cases hxw with
    | bare | adorned => exact ⟨_, rfl⟩
    | plain =>
      subst hobj
      exact ⟨_, rfl⟩
  have hpresent : presentMembers y c.1 = ms' := by
    unfold presentMembers
    rw [find?_of_follow? hw]
    rfl
  rw [hmembers]
  unfold filled
  rw [hpresent]
  refine dressed_overlay hx (fun e he => ?_) hxw
  obtain ⟨he, hcontainer⟩ := List.mem_filter.mp he
  have he := mem_grouped.mp he
  refine ⟨of_decide_eq_true hcontainer, fun hname => named e he ?_, hfits e he⟩
  exact List.mem_append_right _ (List.mem_singleton.mpr hname.symm)

/-- A container that stands in a document is written where it stands. -/
theorem writeContainers_dressed {cs : List (Pointer × List (String × Json))}
    (hcs : ∀ c ∈ cs, refKey ∉ c.1.tokens ∧
      ∃ x, tree.follow? c.1.keys = some x ∧ Dressed u x (.object c.2))
    (hy : Dressed u tree y) :
    ∃ z, cs.foldlM writeContainer y = .ok z ∧ Dressed u tree z := by
  induction cs generalizing y with
  | nil => exact ⟨y, rfl, hy⟩
  | cons c cs ih =>
    obtain ⟨hhome, x, hx, hdressed⟩ := hcs c (List.mem_cons_self ..)
    have hkeys : .key refKey ∉ c.1.keys := Pointer.key_notMem_keys hhome
    obtain ⟨w, hw, -⟩ := hy.follow? hkeys hx
    have hsome : (Pointer.overwrite y (.object c.2) c.1.tokens).isSome := by
      rw [Pointer.overwrite_isSome]
      exact Option.isSome_of_eq_some (find?_of_follow? hw)
    obtain ⟨new, hnew⟩ := Option.isSome_iff_exists.mp hsome
    obtain ⟨z, hz, hdone⟩ := ih (fun c hc => hcs c (List.mem_cons_of_mem _ hc))
      (hy.overwrite hhome hx hdressed hnew)
    refine ⟨z, ?_, hdone⟩
    rw [List.foldlM_cons]
    unfold writeContainer
    rw [insertAt_eq_overwrite hw, hnew]
    exact hz

/-- Entries that fit are written where they were taken from. -/
theorem assemble_dressed (h : r.Enrolled d u tree) (hfits : ∀ e ∈ r.entries, FitsAt u tree e)
    (hy : Dressed u tree y) : ∃ z, r.assemble y = .ok z ∧ Dressed u tree z :=
  writeContainers_dressed (fun _ hc => dressed_container h hfits hy hc) hy

end Registry

namespace Bundle

variable {d : Dialect} {u root : Uri} {tree : Json} {o : Options} {source : Source} {s s' : Session}

/-! ## The phases -/

/-- The root of a run on a canonical document is alone in the store. -/
theorem alone_rooted (hhost : d.Hosts u tree) (hroot : (Reference.forDocument root).url = some u)
    (hinlined : o.inlined = []) : (rooted d o source root tree).Alone d u tree := by
  have hvalid : (Reference.forDocument root).documentRef.error = none :=
    Reference.error_documentRef_resolve hroot
  obtain ⟨u', hsharp⟩ := Reference.sharp_documentRef_resolve hvalid
  cases hsharp.url.symm.trans hroot
  refine ⟨⟨(taken_rooted hvalid).sound.wf, rfl, rfl, fun {id c} hc => ?_⟩, rfl, hinlined⟩
  obtain ⟨rfl, rfl⟩ := content?_rooted hc
  exact .root hsharp hvalid rfl (.refl (hhost.canonical.direct hhost.wf))

/-- A top document is scanned from the start of the dialect. -/
theorem scan_comes {phase : Phase} {result : Except BundleError (Option Json)} {id : ContentId}
    (htop : HasTop d s id)
    (h : Comes (fun b => scanFrom b id phase (some d.model)) s result s') :
    Comes (fun b => scan b id phase) s result s' := by
  obtain ⟨c, hc, hstart⟩ := htop
  obtain ⟨b₀, hends⟩ := h
  refine ⟨b₀, fun b hb => ends_scan.mpr ?_⟩
  rw [hc, Option.bind_some, hstart.start]
  exact hends b hb

theorem HasTop.comes {phase : Phase} {result : Except BundleError (Option Json)} {id : ContentId}
    (htop : HasTop d s id) (hwf : s.store.WF)
    (h : Comes (fun b => scanFrom b id phase (some d.model)) s result s') : HasTop d s' id := by
  obtain ⟨b, hends⟩ := h.ends
  exact htop.evolves (evolves_scanFrom b hends hwf)

/-- A run on one document takes it through the phases. -/
theorem runPhases_comes {s₁ s₂ s₃ : Session} {y₁ y₂ : Option Json} {y : Json} {id : ContentId}
    (hload : Comes (fun b => scan b id .load) s (.ok y₁) s₁)
    (hcollect : Comes (fun b => scan b id .collect) s₁ (.ok y₂) s₂)
    (hsettle : Comes (fun b => scan b id .settle) s₂ (.ok (some y)) s₃) :
    Comes (fun b => runPhases b [id]) s (.ok y) s₃ := by
  have hphase {phase : Phase} {s s' : Session} {y : Option Json}
      (h : Comes (fun b => scan b id phase) s (.ok y) s') :
      Comes (fun b => [id].forM fun id => discard (scan b id phase)) s (.ok ⟨⟩) s' := by
    obtain ⟨b, hb⟩ := h
    exact ⟨b, fun b' hb' => ends_forM_cons.mpr
      ⟨s', ends_discard_ok.mpr ⟨y, hb b' hb'⟩, ends_forM_nil.mpr ⟨rfl, rfl⟩⟩⟩
  have hresults : Comes (fun b => [id].mapM fun id => scan b id .settle) s₂ (.ok [some y]) s₃ := by
    obtain ⟨b, hb⟩ := hsettle
    refine ⟨b, fun b' hb' => ends_mapM_cons.mpr ⟨some y, s₃, [], hb b' hb', ?_, rfl⟩⟩
    rw [List.mapM_nil]
    exact ends_pure.mpr ⟨rfl, rfl⟩
  unfold runPhases
  refine (hphase hload).bind ((hphase hcollect).bind (hresults.bind ?_))
  exact comes_of_ends (ends_pure.mpr ⟨rfl, rfl⟩)

/-- The phases of a run on a canonical document. -/
theorem settled_comes_alone (source : Source) (hhost : d.Hosts u tree)
    (hroot : (Reference.forDocument root).url = some u) (hfiles : o.additionalFiles = [])
    (hinlined : o.inlined = []) : ∃ y s',
      Comes (fun b => settled b root tree) (.start d o source) (.ok y) s' ∧ Dressed u tree y ∧
      s'.Alone d u tree ∧ s'.registry.Enrolled d u tree ∧
      ∀ e ∈ s'.registry.entries, Registry.FitsAt u tree e := by
  have hvalid : (Reference.forDocument root).documentRef.error = none :=
    Reference.error_documentRef_resolve hroot
  have h₀ : (rooted d o source root tree).Alone d u tree := alone_rooted hhost hroot hinlined
  have htops : Ends (loadTops root tree) (.start d o source) (.ok [0])
      (rooted d o source root tree) := by
    unfold loadTops
    rw [ends_get_bind]
    refine (ends_bind_of addRoot_ends).mpr ?_
    rw [show (Session.start d o source).options = o from rfl, hfiles]
    exact (ends_bind_of (ends_pure.mpr ⟨rfl, rfl⟩)).mpr (ends_pure.mpr ⟨rfl, rfl⟩)
  have htop₀ : HasTop d (rooted d o source root tree) 0 := by
    obtain ⟨-, htop, -⟩ := gathered_of_loadTops hvalid htops
    exact htop 0 (List.mem_singleton.mpr rfl)
  obtain ⟨c₀, hc₀, hc₀top⟩ := htop₀
  have hstate {c : Content} (hc : IsTop d c) :
      d.StandsIn (some d.model) (d.machine.run (some d.model) c.reference.pointer.keys) := by
    rw [hc.whole]
    exact .same _
  -- loading adorns references
  obtain ⟨_, store, c₁, hload, h₁, -⟩ := load_comes_alone hhost h₀ hc₀ (hstate hc₀top)
  have htop₁ := HasTop.comes ⟨c₀, hc₀, hc₀top⟩ h₀.store.wf hload
  obtain ⟨c₁, hc₁, hc₁top⟩ := htop₁
  -- collecting gives every definition an entry
  obtain ⟨_, s₂, hcollect, h₂, henrolled⟩ := collect_comes_alone hhost h₁ rfl hc₁
  have htop₂ := HasTop.comes ⟨c₁, hc₁, hc₁top⟩ h₁.store.wf hcollect
  obtain ⟨c₂, hc₂, hc₂top⟩ := htop₂
  -- settling gives every entry its content
  have hsettling : s₂.Settling d u tree s₂.registry.heads (s₂.idle s₂.registry.heads).length :=
    ⟨h₂, henrolled, rfl, Nat.le_refl _⟩
  obtain ⟨y, s₃, hsettle, ⟨x, hx, hy⟩, h₃, hrestored⟩ :=
    settles hhost _ _ hsettling hc₂ (hstate hc₂top)
  rw [hc₂top.whole] at hx
  cases hx
  refine ⟨y, s₃, ?_, hy, h₃.alone, h₃.enrolled, fun e he => ?_⟩
  · obtain ⟨b, hphases⟩ := runPhases_comes (scan_comes ⟨c₀, hc₀, hc₀top⟩ hload)
      (scan_comes ⟨c₁, hc₁, hc₁top⟩ hcollect) (scan_comes ⟨c₂, hc₂, hc₂top⟩ hsettle)
    exact ⟨b, fun b' hb' => (ends_bind_of htops).mpr (hphases b' hb')⟩
  · obtain ⟨hplace, hdefines⟩ := h₃.enrolled.entry e he
    refine hrestored (e.container.push e.name) (.inr ⟨?_, ⟨_, hdefines⟩, ?_⟩) e he hplace
    · rw [place, hc₂top.whole]
      rfl
    · rw [place, hc₂top.whole]
      exact List.nil_prefix

/-! ## Runs -/

/--
A canonical document that is bundled without other documents and without inlining comes out as it
went in, and no document is asked for.
-/
theorem ofTree_canonical (hdialect : dialectFor o root tree = .ok d)
    (hroot : (Reference.forDocument root).url = some u) (hreads : Uri.parse u.text = .ok u)
    (hwf : tree.WellFormed) (hcanonical : d.Canonical tree) (hfiles : o.additionalFiles = [])
    (hinlined : o.inlined = []) :
    ∃ bound, ∀ b ≥ bound, ofTree b source o root tree = some ⟨.ok tree, []⟩ := by
  have hhost : d.Hosts u tree :=
    ⟨hcanonical, hwf, Reference.withoutFragment_of_resolve hroot, hreads⟩
  obtain ⟨y, s', ⟨bound, hsettled⟩, hy, halone, henrolled, hfits⟩ :=
    settled_comes_alone source hhost hroot hfiles hinlined
  obtain ⟨z, hassemble, hz⟩ := Registry.assemble_dressed henrolled hfits hy
  refine ⟨bound, fun b hb => ?_⟩
  have hended : ended b source o root tree d = some (.ok tree, s') := by
    have hrun : Ends (run b root tree) (.start d o source) (.ok tree) s' := by
      unfold run
      refine (ends_bind_of (hsettled b hb)).mpr ?_
      rw [ends_get_bind]
      refine (ends_bind_of (ends_ofExcept.mpr ⟨hassemble.symm, rfl⟩)).mpr ?_
      exact ends_pure.mpr ⟨by rw [hz.stripAdornments], rfl⟩
    exact hrun
  unfold ofTree
  rw [hdialect]
  simp only [hended]
  exact congrArg (fun requests => some (Outcome.mk (.ok tree) requests)) halone.store.requests

namespace Chain

/-- The URL of the root. -/
def home : Uri := ⟨"mem", some (.ofHost (some (.name "a"))), "/main.json", none, none⟩

/-- A root with a definition that refers to itself. -/
def homeTree : Json :=
  .object [("swagger", .string "2.0"),
    ("paths", .object [("/nodes", .object [("get", .object [("responses", .object [("200",
      .object [("schema", .object [("$ref", .string "#/definitions/Node")])])])])])]),
    ("definitions", .object [("Node", .object [("properties", .object [("next",
      .object [("$ref", .string "#/definitions/Node")])])])])]

/-- What a reference to the definition needs of the place where it stands. -/
def Placed (n : List Segment × Json) : Prop :=
  (Dialect.swagger2.machine.run (some Dialect.swagger2.model) n.1).bind
      Dialect.swagger2.machine.tag = some ⟨.swagger2, .schema⟩ ∧
    n.2 = Json.refNode "#/definitions/Node"

instance : DecidablePred Placed := fun _ => inferInstanceAs (Decidable (_ ∧ _))

set_option maxRecDepth 10000

theorem canonical : Dialect.swagger2.Canonical homeTree := by
  have hchecked : (∀ n ∈ homeTree.refNodesAt [], Placed n) ∧
      (Dialect.swagger2.machine.run (some Dialect.swagger2.model)
        [.key "definitions", .key "Node"]).bind Dialect.swagger2.definedAt? =
          some ⟨.swagger2, .schema⟩ := by decide +kernel
  intro path x hx href
  obtain ⟨htag, rfl⟩ := hchecked.1 (path, x) (mem_refNodesAt hx href)
  refine ⟨_, htag, ⟨rfl, rfl⟩, "/definitions", ⟨["definitions"]⟩, "Node", rfl, rfl, rfl, ?_, hchecked.2⟩
  rfl

theorem dialect_home : dialectFor .default home homeTree = .ok .swagger2 :=
  ok_of_toOption (by decide)

theorem url_home : (Reference.forDocument home).url = some home := by decide

theorem reads_home : Uri.parse home.text = .ok home := ok_of_toOption (by decide)

theorem wellFormed_homeTree : homeTree.WellFormed := by
  simp [homeTree, WellFormed, WellFormedMembers, OrderedMap.keys]

end Chain

theorem ofTree_canonical_chain : Dialect.swagger2.Canonical Chain.homeTree ∧
    ∃ bound, ∀ b ≥ bound, ofTree b (.ofTexts []) .default Chain.home Chain.homeTree =
      some ⟨.ok Chain.homeTree, []⟩ :=
  ⟨Chain.canonical, ofTree_canonical Chain.dialect_home Chain.url_home Chain.reads_home
    Chain.wellFormed_homeTree Chain.canonical rfl rfl⟩

end Bundle

end ApiBundle
