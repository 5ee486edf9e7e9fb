import ApiBundle.Bundle
import ApiBundle.Proofs.Dialect.Conditions
import ApiBundle.Proofs.Registry.Heads
import ApiBundle.Proofs.Tree.Insert

/-!
# Writing containers

Hoisted content is written into containers, which are objects somewhere near the root of the
output. This works as long as no other kind of node stands in the way (`Json.Opens`), and since no
container lies inside another one, writing one of them keeps the way to the others open. So
`Registry.assemble` does not fail on a tree that is open for every container of the dialect.
-/

namespace ApiBundle

namespace Json

/-- Whatever stands on a way down from a node is an object, or a null that may become one. -/
def Opens (node : Json) : List String → Prop
  | [] => ∃ ms, node = .object ms
  | name :: rest => ∃ ms, node = .object ms ∧
      ∀ x, OrderedMap.find? ms name = some x → x = .null ∨ x.Opens rest

/-- Decides whether a way down from a node is open. -/
def decOpens : (x : Json) → (names : List String) → Decidable (x.Opens names)
  | .object ms, [] => isTrue ⟨ms, rfl⟩
  | .object ms, name :: rest =>
    match h : OrderedMap.find? ms name with
    | none => isTrue ⟨ms, rfl, by simp [h]⟩
    | some x =>
      have := decOpens x rest
      decidable_of_iff (x = .null ∨ x.Opens rest)
        ⟨fun hx => ⟨ms, rfl, by simpa [h] using hx⟩, by
          rintro ⟨ms', heq, hx⟩
          cases heq
          exact hx x h⟩
  | .null, names | .bool _, names | .number _, names | .string _, names | .array _, names =>
    isFalse (by cases names <;> simp [Opens])

instance (x : Json) (names : List String) : Decidable (x.Opens names) := decOpens x names

theorem opens_empty (names : List String) : (object []).Opens names := by
  cases names with
  | nil => exact ⟨[], rfl⟩
  | cons name rest => exact ⟨[], rfl, nofun⟩

/-- What stands in a slot on an open way is open for the rest of it. -/
theorem opens_slotOr {slot : Option Json} {names rest : List String}
    (h : ∀ x, slot = some x → x = .null ∨ x.Opens names) :
    (slotOr slot (rest.map Segment.key)).Opens names := by
  cases slot with
  | none =>
    rw [slotOr, containerFor_keys]
    exact opens_empty names
  | some x =>
    rcases h x rfl with rfl | hopen
    · rw [slotOr, containerFor_keys]
      exact opens_empty names
    · cases x with
      | null =>
        rw [slotOr, containerFor_keys]
        exact opens_empty names
      | _ => exact hopen

/-- A value can be stored at the end of an open way. -/
theorem insertAt_of_opens {names : List String} {node : Json} (h : node.Opens names)
    (value : Json) : ∃ new, node.insertAt value (names.map Segment.key) = some new := by
  induction names generalizing node with
  | nil => exact ⟨value, insertAt_nil node value⟩
  | cons name rest ih =>
    obtain ⟨ms, rfl, hrest⟩ := h
    have hslot : (slotOr (OrderedMap.find? ms name) (rest.map Segment.key)).Opens rest :=
      opens_slotOr hrest
    obtain ⟨new, hnew⟩ := ih hslot
    exact ⟨.object (OrderedMap.put ms name new), by simp [insertAt, hnew]⟩

/-- A way stays open when something is stored that does not block it. -/
theorem opens_of_insertAt {names other : List String} {node value new : Json}
    (hother : node.Opens other) (hvalue : ∀ rest, other = names ++ rest → value.Opens rest)
    (hnew : node.insertAt value (names.map Segment.key) = some new) : new.Opens other := by
  induction names generalizing node other new with
  | nil =>
    rw [List.map_nil, insertAt_nil] at hnew
    cases hnew
    exact hvalue other rfl
  | cons name rest ih =>
    obtain ⟨ms, below, rfl, rfl, hbelow⟩ := insertAt_cons_cases hnew
    cases other with
    | nil => exact ⟨_, rfl⟩
    | cons name' others =>
      obtain ⟨ms', heq, hrest⟩ := hother
      cases heq
      refine ⟨_, rfl, fun x hx => ?_⟩
      rw [OrderedMap.find?_put] at hx
      split at hx
      · next hname =>
        cases hx
        subst hname
        refine .inr (ih (opens_slotOr hrest) (fun rest' heq => hvalue rest' ?_) hbelow)
        rw [heq, List.cons_append]
      · exact hrest x hx

end Json

namespace Dialect

/-- No container lies inside another one. -/
theorem homes_apart (d : Dialect) {p q : Pointer} (hp : p ∈ d.homes) (hq : q ∈ d.homes)
    {rest : List String} (h : q.tokens = p.tokens ++ rest) : rest = [] := by
  have key : ∀ d ∈ [swagger2, openApi3], ∀ p ∈ d.homes, ∀ q ∈ d.homes,
      p.tokens.isPrefixOf q.tokens → p.tokens.length = q.tokens.length := by decide +kernel
  have hlen := key d (by cases d <;> simp) p hp q hq (by simp [h])
  rw [h, List.length_append] at hlen
  exact List.eq_nil_of_length_eq_zero (by omega)

end Dialect

namespace Registry

variable {r : Registry} {tree : Json}

theorem mem_entries_of_mem_grouped {e : Entry} (h : e ∈ r.grouped) : e ∈ r.entries := by
  obtain ⟨c, -, he⟩ := List.mem_flatMap.mp h
  exact (List.mem_filter.mp he).1

/-- Only containers of entries are filled. -/
theorem mem_entries_of_containers {c : Pointer × List (String × Json)}
    (h : c ∈ r.containers tree) : ∃ e ∈ r.entries, e.container = c.1 := by
  have key : ∀ (es : List Entry) (filled : Containers),
      ∀ p ∈ OrderedMap.keys (es.foldl (collectEntry tree) filled),
        p ∈ OrderedMap.keys filled ∨ ∃ e ∈ es, e.container = p := by
    intro es
    induction es with
    | nil => exact fun _ _ hp => .inl hp
    | cons e es ih =>
      intro filled p hp
      rcases ih _ p hp with hold | ⟨e', he', heq⟩
      · unfold collectEntry at hold
        rw [OrderedMap.keys_put] at hold
        split at hold
        · exact .inl hold
        · rcases List.mem_append.mp hold with hold | hnew
          · exact .inl hold
          · exact .inr ⟨e, List.mem_cons_self .., (List.mem_singleton.mp hnew).symm⟩
      · exact .inr ⟨e', List.mem_cons_of_mem _ he', heq⟩
  rcases key r.grouped [] c.1 (List.mem_map_of_mem h) with hnil | ⟨e, he, heq⟩
  · cases hnil
  · exact ⟨e, mem_entries_of_mem_grouped he, heq⟩

/-- Open containers can all be written, one after the other. -/
theorem writeContainers_ok {d : Dialect} {cs : List (Pointer × List (String × Json))}
    (hcs : ∀ c ∈ cs, c.1 ∈ d.homes) (hopen : ∀ p ∈ d.homes, tree.Opens p.tokens) :
    ∃ out, cs.foldlM writeContainer tree = .ok out := by
  induction cs generalizing tree with
  | nil => exact ⟨tree, rfl⟩
  | cons c cs ih =>
    have hhome := hcs c (List.mem_cons_self ..)
    obtain ⟨new, hnew⟩ := Json.insertAt_of_opens (hopen c.1 hhome) (.object c.2)
    have hopen' : ∀ p ∈ d.homes, new.Opens p.tokens := by
      intro p hp
      refine Json.opens_of_insertAt (hopen p hp) (fun rest heq => ?_) hnew
      rw [d.homes_apart hhome hp heq]
      exact ⟨_, rfl⟩
    obtain ⟨out, hout⟩ := ih (fun c hc => hcs c (List.mem_cons_of_mem _ hc)) hopen'
    refine ⟨out, ?_⟩
    rw [List.foldlM_cons]
    simp only [writeContainer, hnew]
    exact hout

/-- Entries for components of a dialect can be written into a tree that is open for them. -/
theorem assemble_ok {d : Dialect} (hhomed : ∀ h ∈ r.heads, h.Homed d)
    (hopen : ∀ p ∈ d.homes, tree.Opens p.tokens) : ∃ out, r.assemble tree = .ok out := by
  refine writeContainers_ok (fun c hc => ?_) hopen
  obtain ⟨e, he, hcontainer⟩ := mem_entries_of_containers hc
  obtain ⟨hmem, hhome⟩ := hhomed e.head (List.mem_map_of_mem he)
  rw [← hcontainer]
  exact List.mem_filterMap.mpr ⟨e.component, hmem, hhome⟩

end Registry

end ApiBundle
