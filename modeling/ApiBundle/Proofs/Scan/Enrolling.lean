import ApiBundle.Proofs.Registry.Tables
import ApiBundle.Proofs.Scan.Canonical

/-!
# Collecting a canonical document

When a canonical document has been collected, its definitions have entries under their own names,
and there are no other entries (`Registry.Enrolled`). So the reference to an entry is the one that
leads to its definition.
-/

namespace ApiBundle

/-- The entries are those of the definitions of a document, each in its own place. -/
structure Registry.Enrolled (d : Dialect) (u : Uri) (tree : Json) (r : Registry) : Prop where
  orderly : Registry.Orderly d r
  entry : ∀ e ∈ r.entries, e.head.OwnIn u ∧ d.Defines tree e.component (e.container.push e.name)
  defined : ∀ c p, d.Defines tree c p → ∃ e, r.find? (Reference.atPointer u p).id = some e

namespace Registry

variable {d : Dialect} {u : Uri} {tree node : Json} {r : Registry} {e : Entry} {c : Component}
  {p home : Pointer}

/-- The place of an entry is that of its definition. -/
theorem Enrolled.place_eq (h : r.Enrolled d u tree) (he : e ∈ r.entries)
    (hid : e.origin.id = (Reference.atPointer u p).id) : e.container.push e.name = p :=
  (Reference.eq_of_id_atPointer ((h.entry e he).1.symm.trans hid)).2

/-- The reference to the entry of a definition leads to the definition. -/
theorem Enrolled.refNode (h : r.Enrolled d u tree)
    (hfind : r.find? (Reference.atPointer u p).id = some e) :
    e.refNode = Json.refNode ("#" ++ p.text) := by
  obtain ⟨he, hid⟩ := mem_of_find? hfind
  unfold Entry.refNode
  rw [refText_eq, h.place_eq he hid]

/-- The contents of entries do not matter. -/
theorem Enrolled.of_heads_eq {r' : Registry} (h : r.Enrolled d u tree) (heq : r'.heads = r.heads) :
    r'.Enrolled d u tree where
  orderly := h.orderly.of_heads_eq heq
  entry := by
    intro e' he'
    have hmem : e'.head ∈ r.heads := heq ▸ List.mem_map_of_mem he'
    obtain ⟨e, he, hhead⟩ := List.mem_map.mp hmem
    have hplace := h.entry e he
    rw [hhead] at hplace
    rw [show e.component = e'.component from congrArg Head.component hhead,
      show e.container = e'.container from congrArg Head.container hhead,
      show e.name = e'.name from congrArg Head.name hhead] at hplace
    exact hplace
  defined := by
    intro c p hdefines
    obtain ⟨e, he⟩ := h.defined c p hdefines
    obtain ⟨e', he', -⟩ := (extends_of_heads_eq heq).find? he
    exact ⟨e', he'⟩

/-- A definition that has an entry keeps it. -/
theorem localize_of_find? (hfind : r.find? (Reference.atPointer u p).id = some e) :
    r.localize node c p u = .ok (e, r) := by
  unfold localize
  simp only [hfind]

/-- A definition that has a container is given an entry. -/
theorem localize_ok (r : Registry) (node : Json) (u : Uri) (hhome : c.container? = some home)
    (p : Pointer) :
    ∃ e r', r.localize node c p u = .ok (e, r') := by
  cases hfind : r.find? (Reference.atPointer u p).id with
  | some e => exact ⟨e, r, localize_of_find? hfind⟩
  | none =>
    unfold localize
    simp only [hfind, hhome]
    exact ⟨_, _, rfl⟩

end Registry

namespace Scan

open Scanning Json Dialect

variable {d : Dialect} {u : Uri} {tree x y : Json} {base : Reference} {t : Tracker Component}
  {s s₀ s' : Session} {c : Component} {p : Pointer}

theorem origin?_eq (hurl : base.url = some u) :
    origin? base t = some (.atPointer u (.ofPath (place base t))) := by
  simp [origin?, hurl, place, Pointer.join, Tracker.pointer, Pointer.ofPath, Pointer.keys,
    Function.comp_def, Segment.token]

theorem ofPath_keys (p : Pointer) : Pointer.ofPath p.keys = p := by
  simp [Pointer.ofPath, Pointer.keys, Function.comp_def, Segment.token]

/-- Where nothing is defined, collecting descends. -/
theorem collect_descends (hmachine : t.machine = d.machine)
    (h : t.current.bind d.definedAt? = none) : Ends (collect base y t) s (.ok .descend) s := by
  unfold collect
  rw [defined?_site hmachine, h]
  exact ends_pure.mpr ⟨rfl, rfl⟩

/-- Where nothing is defined at a node and below it, collecting does nothing. -/
theorem collect_idle (hmachine : t.machine = d.machine)
    (h : ∀ rest, (d.machine.run t.current rest).bind d.definedAt? = none) :
    Walk.Comes scope (fun b => visitor (scanFrom b) .collect base) [] y t s (y, none) s := by
  generalize hn : sizeOf y = n
  induction n using Nat.strongRecOn generalizing y t with
  | ind n ih =>
  subst hn
  obtain ⟨ys, s', hthread, hs', -⟩ := Walk.Threaded.of_forall y.kids (t := t)
    (R := fun y t s y' e s' => Walk.Comes scope (fun b => visitor (scanFrom b) .collect base) [] y
      t s (y', e) s' ∧ y' = y) (I := (· = s)) (D := fun (_ : Unit) _ => True) (C := fun _ _ => True)
    (fun k hk s' hs' => by
      subst hs'
      have hbelow : ∀ rest, (d.machine.run (t.move k.1).current rest).bind d.definedAt? = none := by
        intro rest
        rw [← h (k.1 :: rest), ← hmachine]
        rfl
      exact ⟨k.2, s', ⟨ih _ (kids_lt hk) hmachine hbelow rfl, rfl⟩, rfl, fun _ _ => trivial⟩) rfl
  subst hs'
  have hsame : y.withKids ys = y := (hthread.kidwise (Q := fun _ a b => b = a) fun h => h.2).eq
  have hcome : Walk.Come scope (fun b => visitor (scanFrom b) .collect base) t y.kids s' ys none s' :=
    hthread.mono fun h => h.1
  have hkids := hcome.children
  rw [hsame] at hkids
  by_cases hsite : t.site = .anonymous
  · exact comes_hop hsite hkids
  · exact Walk.comes_descend (eligible_iff.mpr hsite)
      (comes_of_ends (collect_descends hmachine (h []))) rfl hkids Bounded.comes_pure

/-- What a registry is while a canonical document is collected. -/
structure Enrolls (d : Dialect) (u : Uri) (tree : Json) (s s' : Session) : Prop where
  into : CollectsInto d u s s'
  grounded : ∀ e ∈ s'.registry.entries, ∃ p, e.origin.id = (Reference.atPointer u p).id ∧
    d.Defines tree e.component p

/-- There is an entry for what is defined at a place. -/
def Enters (u : Uri) (p : Pointer) (s : Session) : Prop :=
  ∃ e, s.registry.find? (Reference.atPointer u p).id = some e

/-- A definition of a canonical document is given an entry. -/
theorem collect_definition (h : Stands d u tree base t x) (hs : Enrolls d u tree s₀ s)
    (hc : t.current.bind d.definedAt? = some c) : ∃ s',
    Ends (collect base y t) s (.ok .done) s' ∧ Enrolls d u tree s₀ s' ∧
      ∀ p, Enters u p s ∨ Covers d tree base t p → Enters u p s' := by
  have hcurrent := h.state.eq_of_defined hc
  obtain ⟨q, hq, hdefined⟩ := Option.bind_eq_some_iff.mp hc
  have hrun := hcurrent.symm.trans hq
  obtain ⟨home, name, hhome, hplace, hnamed⟩ := place_of_definition hrun hdefined
  rw [← Pointer.keys_push] at hplace
  have hdefines : d.Defines tree c (home.push name) :=
    ⟨hplace ▸ Option.isSome_of_eq_some h.node, by rw [← hplace, hrun]; exact hdefined⟩
  have hordinary : name ≠ refKey := by
    rintro rfl
    exact hdefines.refKey_notMem (List.mem_append_right _ (List.mem_singleton_self _))
  obtain ⟨e, registry, hoist⟩ := Registry.localize_ok s.registry
    (if c.info.merge then y.withoutRef else y) u hhome (home.push name)
  have hcollects : CollectsInto d u s (s.withRegistry registry) :=
    ⟨rfl, .step .refl hdefines.mem_components hhome hnamed hordinary hoist⟩
  refine ⟨s.withRegistry registry, ?_, ⟨hs.into.trans hcollects, ?_⟩, fun p hp => ?_⟩
  · unfold collect
    rw [defined?_site h.machine, hc, h.url, origin?_eq h.url, hplace, ofPath_keys]
    simp only
    rw [ends_get_bind]
    exact (ends_bind_of (ends_ofExcept.mpr ⟨hoist.symm, rfl⟩)).mpr
      (ends_setRegistry_bind.mpr (ends_pure.mpr ⟨rfl, rfl⟩))
  · intro e' he'
    rcases Registry.localize_cases hoist with ⟨rfl, -⟩ | ⟨home', -, -, rfl, rfl⟩
    · exact hs.grounded e' he'
    · rcases List.mem_append.mp he' with hold | hnew
      · exact hs.grounded e' hold
      · cases List.mem_singleton.mp hnew
        exact ⟨_, rfl, hdefines⟩
  · rcases hp with ⟨e', he'⟩ | hcovers
    · obtain ⟨e'', he'', -⟩ := (Registry.extends_localize hoist).find? he'
      exact ⟨e'', he''⟩
    · obtain ⟨c', hdefines'⟩ := hcovers.defined
      obtain ⟨rest, hrest⟩ := hcovers.below
      obtain ⟨q', hq', hdefined'⟩ := Option.bind_eq_some_iff.mp hdefines'.component
      rw [← hrest] at hq'
      cases definition_unnested hrun hdefined hq' hdefined'
      rw [List.append_nil, hplace] at hrest
      rw [← Pointer.keys_inj hrest]
      exact ⟨e, Registry.find?_localize hoist⟩

/-- Collecting a canonical document gives an entry to each of its definitions, and to nothing else. -/
theorem collect_fares (hhost : d.Hosts u tree) (h : Stands d u tree base t x)
    (hxy : Dressed u x y) (hs : Enrolls d u tree s₀ s) :
    Fares d u tree .collect (Enrolls d u tree s₀) (Enters u) base y t s := by
  refine fares hhost ?held ?plain h hxy hs
  case held =>
    intro x y t s h href hxy hs
    obtain ⟨c, p, hrefers, -⟩ := h.refers hhost href
    have hidle : ∀ rest, (d.machine.run t.current rest).bind d.definedAt? = none := by
      intro rest
      rw [hrefers.current, ← Machine.run_append]
      exact hrefers.cited.unnested _ hrefers.tag
    exact ⟨y, s, collect_idle h.machine hidle, ⟨x, h.node, hxy⟩, hs,
      fun _ hp => hp.resolve_right hrefers.not_covers⟩
  case plain =>
    intro x y t s h hplain hsite hxy hs
    cases hc : t.current.bind d.definedAt? with
    | none =>
      refine .inr ⟨none, fun y s' hy hs' => ⟨s', Bounded.comes_pure, hs', fun p hp => ?_⟩,
        comes_of_ends (collect_descends h.machine hc)⟩
      refine hp.resolve_right fun hhere => ?_
      obtain ⟨hcovers, hkeys⟩ := hhere
      obtain ⟨c, hc'⟩ := hcovers.definedAt? hkeys
      cases hc.symm.trans hc'
    | some c =>
      obtain ⟨s', hvisit, hs', hdone⟩ := collect_definition (y := y) h hs hc
      exact .inl ⟨y, s', Walk.comes_done (eligible_iff.mpr hsite) (comes_of_ends hvisit) rfl
        Bounded.comes_pure, ⟨x, h.node, hxy⟩, hs', hdone⟩

/-- Collecting a canonical document enrolls it. -/
theorem collect_comes_alone {content : Content} (hhost : d.Hosts u tree) (h : s.Alone d u tree)
    (hempty : s.registry = .empty) (hc : s.store.content? 0 = some content) :
    ∃ y s', Comes (fun b => scanFrom b 0 .collect (some d.model)) s (.ok (some y)) s' ∧
      s'.Alone d u tree ∧ s'.registry.Enrolled d u tree := by
  have hwhole : content.reference.pointer = .root := by
    cases h.store.own hc with
    | root sharp valid whole dressed => exact whole
    | place inner => exact absurd rfl inner
  obtain ⟨x, y, hx, hy, hxy⟩ := h.store.tree? hc
  have hstate : d.StandsIn (some d.model)
      (d.machine.run (some d.model) content.reference.pointer.keys) := by
    rw [hwhole]
    exact .same _
  have hstart : Enrolls d u tree s s := ⟨⟨rfl, .refl⟩, fun e he => by
    rw [hempty] at he
    cases he⟩
  obtain ⟨y', s', hwalk, -, hs', hdone⟩ :=
    collect_fares hhost (stands_start h hc hstate hx) hxy hstart
  have hcollects := hs'.into.2
  rw [hempty] at hcollects
  have hown := hcollects.keeps_names (.empty d) fun _ hh => absurd hh List.not_mem_nil
  refine ⟨y', s', scanFrom_comes hc hy hwalk (by rw [if_neg (by decide)]), ?_, ?_, fun e he => ?_,
    fun c p hdefines => ?_⟩
  · rw [hs'.into.1]
    exact ⟨h.store, h.dialect, h.inlined⟩
  · exact (Registry.Orderly.empty d).reaches hcollects.reaches
  · have hplace := hown e.head (List.mem_map_of_mem he)
    obtain ⟨p, hp, hdefines⟩ := hs'.grounded e he
    obtain ⟨-, rfl⟩ := Reference.eq_of_id_atPointer (hp.symm.trans hplace)
    exact ⟨hplace, hdefines⟩
  · refine hdone p (.inr ⟨?_, ⟨c, hdefines⟩, ?_⟩)
    · rw [place, hwhole]
      rfl
    · rw [place, hwhole]
      exact List.nil_prefix

end Scan

end ApiBundle
