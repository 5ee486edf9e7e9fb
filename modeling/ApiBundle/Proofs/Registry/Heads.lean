import ApiBundle.Registry

/-!
# Entries keep their places

The content of an entry may change during a run; the entry itself does not. `Entry.head` is all of
an entry but its content. Every operation of the registry leaves the heads alone or adds one at the
end (`Registry.Extends`), so a reference into the registry stays good for the rest of a run.
-/

namespace ApiBundle

/-- What there is to an entry besides its content. -/
structure Head where
  /-- The component. -/
  component : Component
  /-- The name in the container. -/
  name : String
  /-- Where the content comes from. -/
  origin : Reference
  /-- Where the entry is collected. -/
  container : Pointer

/-- All of an entry but its content. -/
def Entry.head (e : Entry) : Head := ⟨e.component, e.name, e.origin, e.container⟩

/-- A reference to an entry is read off its head. -/
theorem Entry.refNode_of_head {e e' : Entry} (h : e'.head = e.head) : e'.refNode = e.refNode := by
  obtain ⟨-, hname, -, hcontainer⟩ := Head.mk.inj h
  unfold refNode refText
  rw [hname, hcontainer]

/-- A head of a dialect's component that is collected where the component says. -/
def Head.Homed (d : Dialect) (h : Head) : Prop :=
  h.component ∈ d.components ∧ h.component.container? = some h.container

namespace Registry

/-- The heads of all entries, oldest first. -/
def heads (r : Registry) : List Head := r.entries.map Entry.head

/-- Entries are only added, at the end. -/
def Extends (r r' : Registry) : Prop := r.heads <+: r'.heads

theorem Extends.refl (r : Registry) : r.Extends r := List.prefix_refl _

theorem Extends.trans {r r' r'' : Registry} (h : r.Extends r') (h' : r'.Extends r'') :
    r.Extends r'' :=
  List.IsPrefix.trans h h'

variable {r r' : Registry} {node : Json}

@[simp] theorem heads_updateNode (i : RefId) (f : Json → Json) :
    (r.updateNode i f).heads = r.heads := by
  unfold updateNode heads
  rw [List.map_map]
  refine List.map_congr_left fun e _ => ?_
  simp only [Function.comp_apply]
  split <;> rfl

@[simp] theorem heads_refresh (i : RefId) : (r.refresh i node).heads = r.heads :=
  heads_updateNode i _

/-- A merge leaves the heads alone. -/
theorem heads_merge {place : Pointer} {base : Uri} (h : r.merge node place base = .ok r') :
    r'.heads = r.heads := by
  unfold merge at h
  simp only at h
  split at h
  · cases h
    exact heads_updateNode _ _
  · cases h

/-- Making an entry finds the one there is, or adds one. -/
theorem localize_cases {c : Component} {place : Pointer} {base : Uri} {e : Entry}
    (h : r.localize node c place base = .ok (e, r')) :
    (r' = r ∧ r.find? (Reference.atPointer base place).id = some e) ∨
      ∃ container, c.container? = some container ∧
        r.find? (Reference.atPointer base place).id = none ∧
        e = ⟨c, freeName (r.names c) (c.preferredName place (some base)), node,
          .atPointer base place, container⟩ ∧ r' = ⟨r.entries ++ [e]⟩ := by
  unfold localize at h
  simp only at h
  cases hfind : r.find? (Reference.atPointer base place).id with
  | some e' =>
    simp only [hfind] at h
    cases h
    exact .inl ⟨rfl, rfl⟩
  | none =>
    simp only [hfind] at h
    cases hc : c.container? with
    | none =>
      simp only [hc] at h
      cases h
    | some container =>
      simp only [hc] at h
      cases h
      exact .inr ⟨container, rfl, rfl, rfl, rfl⟩

theorem extends_localize {c : Component} {place : Pointer} {base : Uri} {e : Entry}
    (h : r.localize node c place base = .ok (e, r')) : r.Extends r' := by
  rcases localize_cases h with ⟨rfl, -⟩ | ⟨_, -, -, -, rfl⟩
  · exact .refl _
  · unfold Extends heads
    rw [List.map_append]
    exact List.prefix_append _ _

/-- An entry that is made for a dialect's component is collected where the component says. -/
theorem homed_localize {d : Dialect} {c : Component} {place : Pointer} {base : Uri} {e : Entry}
    (hc : c ∈ d.components) (h : r.localize node c place base = .ok (e, r')) :
    ∀ head ∈ r'.heads, head ∈ r.heads ∨ head.Homed d := by
  intro head hhead
  rcases localize_cases h with ⟨rfl, -⟩ | ⟨container, hcontainer, -, rfl, rfl⟩
  · exact .inl hhead
  · unfold heads at hhead ⊢
    rw [List.map_append, List.mem_append] at hhead
    rcases hhead with hold | hnew
    · exact .inl hold
    · cases List.mem_singleton.mp hnew
      exact .inr ⟨hc, hcontainer⟩

theorem extends_of_heads_eq (h : r'.heads = r.heads) : r.Extends r' := by
  show r.heads <+: r'.heads
  exact h.symm ▸ List.prefix_refl r.heads

/-- An entry with the head of an earlier one. -/
theorem Extends.find? (h : r.Extends r') {i : RefId} {e : Entry}
    (he : r.find? i = some e) : ∃ e', r'.find? i = some e' ∧ e'.head = e.head := by
  have key : ∀ r : Registry, (r.find? i).map Entry.head =
      r.heads.find? fun h => h.origin.id = i := by
    intro r
    unfold Registry.find? Registry.heads
    rw [List.find?_map]
    rfl
  obtain ⟨rest, hrest⟩ := h
  have hfind : (r'.find? i).map Entry.head = some e.head := by
    rw [key, ← hrest, List.find?_append, ← key, he]
    rfl
  obtain ⟨e', he', hhead⟩ := Option.map_eq_some_iff.mp hfind
  exact ⟨e', he', hhead⟩

theorem Extends.contains (h : r.Extends r') {i : RefId} (hi : r.contains i = true) :
    r'.contains i = true := by
  obtain ⟨e, he⟩ := Option.isSome_iff_exists.mp hi
  obtain ⟨e', he', -⟩ := h.find? he
  exact Option.isSome_of_eq_some he'

end Registry

end ApiBundle
