import ApiBundle.Proofs.Ending
import ApiBundle.Proofs.Reference.Resolve
import ApiBundle.Proofs.Registry.Coherence
import ApiBundle.Proofs.Tree.Insert

/-!
# Where assembling puts entries

Assembling reads the members of every container once, before anything is written, overlays them with
the entries, and writes one container after the other. No container lies inside another one, so no
write touches what another one has written, and no two entries have one place. `Registry.Assembled`
says what comes of it: where every entry is, and what is as it was.
-/

namespace ApiBundle

namespace Dialect

variable {d : Dialect} {p q : Pointer}

/-- A container that lies on the way to another one is that one. -/
theorem eq_of_prefix_keys (hp : p ∈ d.homes) (hq : q ∈ d.homes) (h : p.keys <+: q.keys) :
    p = q := by
  have key : ∀ d ∈ [swagger2, openApi3], ∀ p ∈ d.homes, ∀ q ∈ d.homes,
      p.keys.isPrefixOf q.keys → p = q := by decide +kernel
  exact key d (by cases d <;> simp) p hp q hq (List.isPrefixOf_iff_prefix.mpr h)

/-- A place below a container lies apart from all other ones. -/
theorem apart_of_below (hp : p ∈ d.homes) (hq : q ∈ d.homes) (hne : p ≠ q)
    (path : List Segment) : ¬ p.keys ++ path <+: q.keys ∧ ¬ q.keys <+: p.keys ++ path := by
  constructor
  · intro h
    exact hne (eq_of_prefix_keys hp hq ((List.prefix_append _ _).trans h))
  · intro h
    rcases List.prefix_or_prefix_of_prefix h (List.prefix_append p.keys path) with hpq | hpq
    · exact hne (eq_of_prefix_keys hq hp hpq).symm
    · exact hne (eq_of_prefix_keys hp hq hpq)

/-- Containers are found by names alone. -/
theorem find?_of_home (hp : p ∈ d.homes) (tree : Json) : p.find? tree = tree.follow? p.keys := by
  have key : ∀ d ∈ [swagger2, openApi3], ∀ p ∈ d.homes, ∀ token ∈ p.tokens,
      Pointer.index? token = none := by decide
  have hindex := key d (by cases d <;> simp) p hp
  obtain ⟨tokens⟩ := p
  unfold Pointer.find? Pointer.keys
  simp only at hindex ⊢
  clear hp
  induction tokens generalizing tree with
  | nil => rfl
  | cons token rest ih =>
    have hchild : Pointer.child? tree token = tree.step? (.key token) := by
      cases tree with
      | array items => simp [Pointer.child?, Json.step?, hindex token (List.mem_cons_self ..)]
      | _ => rfl
    unfold Pointer.lookup
    rw [List.map_cons, Json.follow?, hchild]
    congr 1
    funext child
    exact ih child fun token ht => hindex token (List.mem_cons_of_mem _ ht)

end Dialect

namespace Registry

variable {d : Dialect} {r : Registry} {tree out : Json} {e : Entry} {p : Pointer}
  {path : List Segment} {cs : List (Pointer × List (String × Json))}
  {c : Pointer × List (String × Json)}

/-! ## Filling containers -/

/-- The members of a container when entries have been put over what a tree has there. -/
def filled (tree : Json) (es : List Entry) (p : Pointer) : List (String × Json) :=
  OrderedMap.overlay (presentMembers tree p)
    ((es.filter fun e => e.container = p).map fun e => (e.name, e.node))

theorem filled_append (tree : Json) (es : List Entry) (e : Entry) (p : Pointer) :
    filled tree (es ++ [e]) p = if e.container = p then
      OrderedMap.put (filled tree es p) e.name e.node else filled tree es p := by
  unfold filled OrderedMap.overlay
  by_cases h : e.container = p <;> simp [List.filter_append, h]

theorem filled_of_not_mem {es : List Entry} (h : p ∉ es.map Entry.container) :
    filled tree es p = presentMembers tree p := by
  have hnil : es.filter (fun e => e.container = p) = [] := by
    rw [List.filter_eq_nil_iff]
    intro e he heq
    exact h (List.mem_map.mpr ⟨e, he, by simpa using heq⟩)
  unfold filled
  rw [hnil]
  rfl

/-- Putting entries one by one into their containers fills every one of these. -/
theorem collect_spec (tree : Json) (es : List Entry) :
    (OrderedMap.keys (es.foldl (collectEntry tree) [])).Nodup ∧
      ∀ p, OrderedMap.find? (es.foldl (collectEntry tree) []) p =
        if p ∈ es.map Entry.container then some (filled tree es p) else none := by
  induction es using List.reverseRecOn with
  | nil => exact ⟨List.nodup_nil, fun p => rfl⟩
  | append_singleton es e ih =>
    obtain ⟨hnodup, hfind⟩ := ih
    have hmembers : (OrderedMap.find? (es.foldl (collectEntry tree) []) e.container).getD
        (presentMembers tree e.container) = filled tree es e.container := by
      rw [hfind]
      split
      · rfl
      · next h => exact (filled_of_not_mem h).symm
    have hstep : (es ++ [e]).foldl (collectEntry tree) [] =
        OrderedMap.put (es.foldl (collectEntry tree) []) e.container
          (OrderedMap.put (filled tree es e.container) e.name e.node) := by
      rw [List.foldl_append, ← hmembers]
      rfl
    rw [hstep]
    refine ⟨OrderedMap.nodup_keys_put hnodup _ _, fun p => ?_⟩
    rw [OrderedMap.find?_put, hfind, filled_append]
    by_cases h : e.container = p
    · simp [h]
    · simp [h, Ne.symm h]

theorem nodup_containers : ((r.containers tree).map Prod.fst).Nodup :=
  (collect_spec tree r.grouped).1

theorem mem_containers : c ∈ r.containers tree ↔
    (∃ e ∈ r.entries, e.container = c.1) ∧ c.2 = filled tree r.grouped c.1 := by
  have hspec := (collect_spec tree r.grouped).2 c.1
  have hmem : c.1 ∈ r.grouped.map Entry.container ↔ ∃ e ∈ r.entries, e.container = c.1 := by
    simp only [List.mem_map, mem_grouped]
  constructor
  · intro h
    have hfind := OrderedMap.find?_of_nodup nodup_containers h
    rw [containers, hspec] at hfind
    split at hfind
    · next hc => exact ⟨hmem.mp hc, (Option.some.inj hfind).symm⟩
    · cases hfind
  · rintro ⟨hentry, hmembers⟩
    rw [if_pos (hmem.mpr hentry), ← hmembers] at hspec
    exact OrderedMap.mem_of_find? hspec

theorem container_mem (he : e ∈ r.entries) :
    (e.container, filled tree r.grouped e.container) ∈ r.containers tree :=
  mem_containers.mpr ⟨⟨e, he, rfl⟩, rfl⟩

namespace Orderly

variable (h : Orderly d r)
include h

/-- What a filled container has under a name: the entry of that name, or what was there. -/
theorem find?_filled (tree : Json) (p : Pointer) (name : String) :
    OrderedMap.find? (filled tree r.grouped p) name =
      ((r.grouped.find? fun e => e.container = p ∧ e.name = name).map Entry.node).or
        (OrderedMap.find? (presentMembers tree p) name) := by
  have hnodup : (((r.grouped.filter fun e => e.container = p).map fun e => (e.name, e.node)).map
      Prod.fst).Nodup := by
    rw [List.map_map]
    have hgrouped : (r.grouped.filter fun e => e.container = p).Nodup :=
      (h.grouped_perm.nodup_iff.mpr h.entries_nodup).filter _
    refine hgrouped.map_on fun e he e' he' hname => ?_
    obtain ⟨hmem, hc⟩ := List.mem_filter.mp he
    obtain ⟨hmem', hc'⟩ := List.mem_filter.mp he'
    refine h.eq_of_place (mem_grouped.mp hmem) (mem_grouped.mp hmem') ?_ hname
    simp only [decide_eq_true_eq] at hc hc'
    exact hc.trans hc'.symm
  unfold filled
  rw [OrderedMap.find?_overlay hnodup, OrderedMap.find?_map, List.find?_filter]
  congr 2
  simp [and_comm]

theorem find?_filled_of_entry (he : e ∈ r.entries) :
    OrderedMap.find? (filled tree r.grouped e.container) e.name = some e.node := by
  rw [h.find?_filled]
  cases hfind : r.grouped.find? fun x => x.container = e.container ∧ x.name = e.name with
  | none => simpa using List.find?_eq_none.mp hfind e (mem_grouped.mpr he)
  | some x =>
    obtain ⟨hcontainer, hname⟩ : x.container = e.container ∧ x.name = e.name := by
      simpa using List.find?_some hfind
    have hx := mem_grouped.mp (List.mem_of_find?_eq_some hfind)
    rw [h.eq_of_place hx he hcontainer hname]
    rfl

theorem find?_filled_of_other {name : String}
    (hother : ∀ e ∈ r.entries, e.container = p → e.name ≠ name) :
    OrderedMap.find? (filled tree r.grouped p) name =
      OrderedMap.find? (presentMembers tree p) name := by
  have hnone : (r.grouped.find? fun e => e.container = p ∧ e.name = name) = none := by
    rw [List.find?_eq_none]
    intro e he heq
    obtain ⟨hcontainer, hname⟩ : e.container = p ∧ e.name = name := by simpa using heq
    exact hother e (mem_grouped.mp he) hcontainer hname
  rw [h.find?_filled, hnone]
  rfl

theorem home (he : e ∈ r.entries) : e.container ∈ d.homes := by
  obtain ⟨hmem, hhome⟩ := h.container he
  exact List.mem_filterMap.mpr ⟨e.component, hmem, hhome⟩

theorem homes_containers : ∀ c ∈ r.containers tree, c.1 ∈ d.homes := by
  intro c hc
  obtain ⟨⟨e, he, heq⟩, -⟩ := mem_containers.mp hc
  exact heq ▸ h.home he

end Orderly

/-! ## Writing containers -/

theorem writeContainer_eq {new : Json} (h : writeContainer tree c = .ok new) :
    tree.insertAt (.object c.2) c.1.keys = some new := by
  unfold writeContainer at h
  unfold Pointer.keys
  split at h
  · next hinsert =>
    cases h
    exact hinsert
  · cases h

theorem writeContainers_cons (h : (c :: cs).foldlM writeContainer tree = .ok out) :
    ∃ new, tree.insertAt (.object c.2) c.1.keys = some new ∧
      cs.foldlM writeContainer new = .ok out := by
  rw [List.foldlM_cons] at h
  cases hwrite : writeContainer tree c with
  | error e =>
    rw [hwrite] at h
    cases h
  | ok new =>
    rw [hwrite] at h
    exact ⟨new, writeContainer_eq hwrite, h⟩

/-- What lies at or below no container has at most grown. -/
theorem grown_of_writeContainers (hbelow : ∀ c ∈ cs, ¬ c.1.keys <+: path)
    (h : cs.foldlM writeContainer tree = .ok out) :
    Json.Grown (tree.follow? path) (out.follow? path) := by
  induction cs generalizing tree with
  | nil =>
    cases h
    exact .refl _
  | cons c cs ih =>
    obtain ⟨new, hinsert, hrest⟩ := writeContainers_cons h
    have hfirst := Json.grown_insertAt hinsert (hbelow c (List.mem_cons_self ..))
    exact hfirst.trans (ih (fun c hc => hbelow c (List.mem_cons_of_mem _ hc)) hrest)

/-- What lies apart from all containers is left alone. -/
theorem apart_of_writeContainers
    (hapart : ∀ c ∈ cs, ¬ path <+: c.1.keys ∧ ¬ c.1.keys <+: path)
    (h : cs.foldlM writeContainer tree = .ok out) : out.follow? path = tree.follow? path := by
  induction cs generalizing tree with
  | nil =>
    cases h
    rfl
  | cons c cs ih =>
    obtain ⟨new, hinsert, hrest⟩ := writeContainers_cons h
    obtain ⟨habove, hbelow⟩ := hapart c (List.mem_cons_self ..)
    rw [ih (fun c hc => hapart c (List.mem_cons_of_mem _ hc)) hrest]
    exact Json.follow?_insertAt_apart_keys hinsert habove hbelow

section Homes

variable (hhomes : ∀ c ∈ cs, c.1 ∈ d.homes) (hnodup : (cs.map Prod.fst).Nodup)
  (h : cs.foldlM writeContainer tree = .ok out)
include hhomes hnodup h

/-- Every container is there with its members. -/
theorem below_of_writeContainers (hc : c ∈ cs) (path : List Segment) :
    out.follow? (c.1.keys ++ path) = (Json.object c.2).follow? path := by
  induction cs generalizing tree with
  | nil => cases hc
  | cons first cs ih =>
    obtain ⟨new, hinsert, hrest⟩ := writeContainers_cons h
    obtain ⟨hfirst, hnodup⟩ := List.nodup_cons.mp hnodup
    have hhomes' : ∀ c ∈ cs, c.1 ∈ d.homes := fun c hc => hhomes c (List.mem_cons_of_mem _ hc)
    rcases List.mem_cons.mp hc with rfl | hc
    · have hapart : ∀ other ∈ cs, ¬ c.1.keys ++ path <+: other.1.keys ∧
          ¬ other.1.keys <+: c.1.keys ++ path := by
        intro other hother
        have hne : c.1 ≠ other.1 := fun heq => hfirst (heq ▸ List.mem_map_of_mem hother)
        exact Dialect.apart_of_below (hhomes c (List.mem_cons_self ..)) (hhomes' other hother)
          hne path
      rw [apart_of_writeContainers hapart hrest]
      exact Json.follow?_insertAt_below hinsert path
    · exact ih hhomes' hnodup hrest hc

/-- On the way to a container there are objects, which have at most grown. -/
theorem above_of_writeContainers (hc : c ∈ cs) (habove : path <+: c.1.keys)
    (hne : path ≠ c.1.keys) :
    ∃ ms', out.follow? path = some (.object ms') ∧ ∀ ms,
      tree.follow? path = some (.object ms) → OrderedMap.keys ms <+: OrderedMap.keys ms' := by
  have hstrict : ∀ c' ∈ cs, ¬ c'.1.keys <+: path := by
    intro c' hc' hway
    have heq := Dialect.eq_of_prefix_keys (hhomes c' hc') (hhomes c hc) (hway.trans habove)
    exact hne (habove.eq_of_length_le (heq ▸ hway.length_le))
  have hobject : ∃ ms', out.follow? path = some (.object ms') := by
    induction cs generalizing tree with
    | nil => cases hc
    | cons first cs ih =>
      obtain ⟨new, hinsert, hrest⟩ := writeContainers_cons h
      rcases List.mem_cons.mp hc with rfl | hc
      · obtain ⟨ms, hms, -⟩ := Json.follow?_insertAt_above hinsert habove hne
        have hgrown := grown_of_writeContainers
          (fun c' hc' => hstrict c' (List.mem_cons_of_mem _ hc')) hrest
        rw [hms] at hgrown
        obtain ⟨ms', hms', -⟩ := hgrown.object
        exact ⟨ms', hms'⟩
      · exact ih (fun c hc => hhomes c (List.mem_cons_of_mem _ hc)) (List.nodup_cons.mp hnodup).2
          hrest hc fun c' hc' => hstrict c' (List.mem_cons_of_mem _ hc')
  obtain ⟨ms', hms'⟩ := hobject
  refine ⟨ms', hms', fun ms hms => ?_⟩
  have hgrown := grown_of_writeContainers hstrict h
  rw [hms, hms'] at hgrown
  obtain ⟨ms'', heq, hkeys⟩ := hgrown.object
  cases heq
  exact hkeys

end Homes

/-! ## The assembled tree -/

/-- What assembling makes of a tree. -/
structure Assembled (r : Registry) (tree out : Json) : Prop where
  /-- Every entry is in its slot. -/
  slot : ∀ e ∈ r.entries, out.follow? (e.container.push e.name).keys = some e.node
  /-- A member of a container is left alone where no entry has its name. -/
  other : ∀ e ∈ r.entries, ∀ name,
    (∀ e' ∈ r.entries, e'.container = e.container → e'.name ≠ name) →
    out.follow? (e.container.push name).keys = tree.follow? (e.container.push name).keys
  /-- What is neither on the way to a container nor at or below one is left alone. -/
  apart : ∀ path, (∀ e ∈ r.entries, ¬ path <+: e.container.keys ∧ ¬ e.container.keys <+: path) →
    out.follow? path = tree.follow? path
  /-- Containers and what is on the way to them are objects; members that were there stay first. -/
  way : ∀ e ∈ r.entries, ∀ path, path <+: e.container.keys →
    ∃ ms', out.follow? path = some (.object ms') ∧ ∀ ms,
      tree.follow? path = some (.object ms) → OrderedMap.keys ms <+: OrderedMap.keys ms'
  /-- A reference to an entry that is named after its container leads to its content. -/
  target : ∀ e ∈ r.entries, ∀ containers, e.component.info.naming = .container containers →
    ∀ (base : Uri) (c : Option Component), let ref := Reference.resolve e.refText (some base) c
      ref.error = none ∧ ref.url = some base.withoutFragment ∧ ref.pointer.find? out = some e.node

/-- What is found by names alone is found by a pointer. -/
theorem find?_of_follow? {x : Json} (h : tree.follow? p.keys = some x) :
    p.find? tree = some x := by
  obtain ⟨tokens⟩ := p
  unfold Pointer.find?
  unfold Pointer.keys at h
  simp only at h ⊢
  induction tokens generalizing tree with
  | nil => exact h
  | cons token rest ih =>
    obtain ⟨child, hchild, hrest⟩ := Option.bind_eq_some_iff.mp h
    cases tree with
    | object ms =>
      unfold Pointer.lookup
      rw [show Pointer.child? (.object ms) token = some child from hchild]
      exact ih hrest
    | _ => cases hchild

/-- A name in a container needs no percent escapes. -/
theorem isPlain_push {p : Pointer} {name : String} (hp : p ∈ d.homes) (hname : IsName name) :
    ∀ token ∈ (p.push name).tokens, ∀ c ∈ token.toList, Percent.IsPlain c := by
  intro token htoken c hc
  rcases List.mem_append.mp htoken with hcontainer | hlast
  · have key : ∀ d ∈ [Dialect.swagger2, .openApi3], ∀ p ∈ d.homes, ∀ token ∈ p.tokens,
        IsName token := by decide +kernel
    exact isPlain_of_isNameChar (key d (by cases d <;> simp) p hp token hcontainer c hc)
  · cases List.mem_singleton.mp hlast
    exact isPlain_of_isNameChar (hname c hc)

namespace Orderly

variable (h : Orderly d r) (hout : r.assemble tree = .ok out)
include h hout

theorem follow?_container (he : e ∈ r.entries) (path : List Segment) :
    out.follow? (e.container.keys ++ path) =
      (Json.object (filled tree r.grouped e.container)).follow? path := by
  exact below_of_writeContainers h.homes_containers nodup_containers hout (container_mem he) path

theorem follow?_member (he : e ∈ r.entries) (name : String) :
    out.follow? (e.container.push name).keys =
      OrderedMap.find? (filled tree r.grouped e.container) name := by
  rw [Pointer.keys_push, h.follow?_container hout he]
  show (OrderedMap.find? (filled tree r.grouped e.container) name).bind _ = _
  cases OrderedMap.find? (filled tree r.grouped e.container) name <;> rfl

omit hout in
/-- The reference to an entry leads to it. -/
theorem target_of_slot (he : e ∈ r.entries) {containers : List String}
    (hnaming : e.component.info.naming = .container containers) (base : Uri)
    (c : Option Component) (hslot : out.follow? (e.container.push e.name).keys = some e.node) :
    let ref := Reference.resolve e.refText (some base) c
    ref.error = none ∧ ref.url = some base.withoutFragment ∧
      ref.pointer.find? out = some e.node := by
  have hplain := isPlain_push (h.home he) (h.isName he hnaming)
  rw [refText_eq, Reference.resolve_here (Pointer.push_ne_root _ _) hplain]
  exact ⟨rfl, rfl, find?_of_follow? hslot⟩

end Orderly

/-- Entries of an orderly registry get their slots, and nothing else changes. -/
theorem Orderly.assembled (h : Orderly d r) (hout : r.assemble tree = .ok out) :
    Assembled r tree out := by
  have hslot : ∀ e ∈ r.entries, out.follow? (e.container.push e.name).keys = some e.node := by
    intro e he
    rw [h.follow?_member hout he, h.find?_filled_of_entry he]
  constructor
  case slot => exact hslot
  case other =>
    intro e he name hother
    rw [h.follow?_member hout he, h.find?_filled_of_other hother, Pointer.keys_push,
      Json.follow?_append]
    unfold presentMembers
    rw [Dialect.find?_of_home (h.home he)]
    cases hfollow : tree.follow? e.container.keys with
    | none => rfl
    | some x =>
      cases x with
      | object ms =>
        show OrderedMap.find? ms name = (OrderedMap.find? ms name).bind _
        cases OrderedMap.find? ms name <;> rfl
      | _ => rfl
  case apart =>
    intro path hpath
    refine apart_of_writeContainers (fun c hc => ?_) hout
    obtain ⟨⟨e, he, heq⟩, -⟩ := mem_containers.mp hc
    exact heq ▸ hpath e he
  case way =>
    intro e he path hpath
    by_cases hne : path = e.container.keys
    · subst hne
      have hmembers := h.follow?_container hout he []
      rw [List.append_nil] at hmembers
      refine ⟨_, hmembers, fun ms hms => ?_⟩
      have hpresent : presentMembers tree e.container = ms := by
        unfold presentMembers
        rw [Dialect.find?_of_home (h.home he), hms]
        rfl
      unfold filled
      rw [hpresent]
      exact OrderedMap.keys_prefix_overlay _ _
    · exact above_of_writeContainers h.homes_containers nodup_containers hout
        (container_mem he) hpath hne
  case target =>
    intro e he containers hnaming base c
    exact h.target_of_slot he hnaming base c (hslot e he)

/-- Entries that come about in a run of one dialect get their slots, and nothing else changes. -/
theorem assembled_of_reaches (hr : Reaches d .empty r) (hout : r.assemble tree = .ok out) :
    Assembled r tree out :=
  ((Orderly.empty d).reaches hr).assembled hout

end Registry

namespace Pets

/-- A description with a member that no entry is made for. -/
def tree : Json :=
  .object [("swagger", .string "2.0"), ("definitions", .object [("x-vendor", .string "keep")]),
    ("paths", .object [])]

/-- The description with the definitions of all files. -/
def assembled : Json :=
  .object [("swagger", .string "2.0"),
    ("definitions", .object [("x-vendor", .string "keep"), ("Pet", .object []),
      ("Pet_1", .object []), ("Pet_2", .object [])]),
    ("paths", .object [])]

theorem assemble_eq : (Registry.empty.after calls).assemble tree = .ok assembled :=
  ok_of_toOption (by rfl)

end Pets

theorem Registry.assembled_of_reaches_pets :
    Reaches .swagger2 .empty (Registry.empty.after Pets.calls) ∧
      (Registry.empty.after Pets.calls).assemble Pets.tree = .ok Pets.assembled ∧
      Assembled (Registry.empty.after Pets.calls) Pets.tree Pets.assembled :=
  ⟨⟨Pets.calls, by decide, rfl⟩, Pets.assemble_eq,
    Registry.assembled_of_reaches (d := .swagger2) ⟨Pets.calls, by decide, rfl⟩ Pets.assemble_eq⟩

end ApiBundle
