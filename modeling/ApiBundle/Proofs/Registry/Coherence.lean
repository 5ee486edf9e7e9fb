import ApiBundle.Proofs.Registry.Assembly
import ApiBundle.Proofs.Registry.Tables

/-!
# What holds of the registry after any calls

After any sequence of calls for components of one dialect, failing ones included, the two tables are
in bijection (`Tables.Matched`), no two entries share a place or the text of a reference, and every
further call does to the entries what it is there for and nothing else (`Tables.Lawful`): an entry,
once made, keeps its place, its name and its position for good, so a reference to it that was written
into some document stays right however the run goes on.
-/

namespace ApiBundle

namespace Tables

/-- The two tables are in bijection. -/
structure Matched (t : Tables) : Prop where
  components : (OrderedMap.keys t.entries).Nodup
  names : ∀ c, (OrderedMap.keys (t.shelf c)).Nodup
  origins : (OrderedMap.keys t.byOrigin).Nodup
  /-- Where an origin leads, there is the entry with that origin. -/
  entry : ∀ i c name, OrderedMap.find? t.byOrigin i = some (c, name) →
    ∃ e, OrderedMap.find? (t.shelf c) name = some e ∧ e.origin.id = i
  /-- An entry stands under its component and name, and its origin leads there. -/
  origin : ∀ c name e, OrderedMap.find? (t.shelf c) name = some e →
    e.component = c ∧ e.name = name ∧ OrderedMap.find? t.byOrigin e.origin.id = some (c, name)
  size : t.size = t.all.length

/-- What a call may do to tables. -/
structure Lawful (t : Tables) (call : Call) : Prop where
  /-- A call that fails changes nothing. -/
  failed : ∀ error, (t.answer call).1 = .error error → (t.answer call).2 = t
  /-- A place that has an entry gets no other one. -/
  known : ∀ node c place base e, call = .localize node c place base →
    t.get? (Reference.atPointer base place).id = some e → t.answer call = (.ok (.entry e), t)
  /-- A place that has none gets one, with the first candidate for its name that is free. -/
  fresh : ∀ node c place base container, call = .localize node c place base →
    t.get? (Reference.atPointer base place).id = none → c.container? = some container →
    ∃ k, let name := Registry.candidate (c.preferredName place (some base))
      let e : Entry := ⟨c, name k, node, .atPointer base place, container⟩
      (∀ j < k, name j ∈ OrderedMap.keys (t.shelf c)) ∧
        name k ∉ OrderedMap.keys (t.shelf c) ∧ t.answer call = (.ok (.entry e), t.insert e)
  /-- The components with entries keep their order. -/
  components : OrderedMap.keys t.entries <+: OrderedMap.keys (t.answer call).2.entries
  /-- An entry keeps its position and all but its content, which only its own origin changes. -/
  kept : ∀ c (j : Nat) name (e : Entry), (t.shelf c)[j]? = some (name, e) →
    ∃ e' : Entry, ((t.answer call).2.shelf c)[j]? = some (name, e') ∧ e'.head = e.head ∧
      (call.target? ≠ some e.origin.id → e' = e)
  /-- Origins lead where they led. -/
  origins : ∀ i slot, OrderedMap.find? t.byOrigin i = some slot →
    OrderedMap.find? (t.answer call).2.byOrigin i = some slot

/-- What holds after a sequence of calls, and of every call that may follow. -/
structure Coherent (d : Dialect) (calls : List Call) : Prop where
  /-- Both forms of the registry have the same entries. -/
  same : empty.after calls = (Registry.empty.after calls).tables
  matched : (empty.after calls).Matched
  place : ∀ e ∈ (empty.after calls).all, ∀ e' ∈ (empty.after calls).all,
    e.container = e'.container → e.name = e'.name → e = e'
  refText : ∀ e ∈ (empty.after calls).all, ∀ e' ∈ (empty.after calls).all,
    e.refText = e'.refText → e = e'
  /-- Both forms give the same answers. -/
  reply : ∀ call : Call, call.For d →
    ((empty.after calls).answer call).1 = ((Registry.empty.after calls).answer call).1
  lawful : ∀ call : Call, call.For d → (empty.after calls).Lawful call

end Tables

namespace Registry

variable {d : Dialect} {r : Registry} {call : Call}

/-- A call leaves the entries, adds one that is new, or changes the content of its own. -/
theorem answer_cases (r : Registry) (call : Call) : (r.answer call).2 = r ∨
    (∃ e, r.find? e.origin.id = none ∧ (r.answer call).2 = ⟨r.entries ++ [e]⟩) ∨
    ∃ i f, call.target? = some i ∧ (r.answer call).2 = r.updateNode i f := by
  cases call with
  | localize node c place base =>
    simp only [answer]
    cases hr : r.localize node c place base with
    | error error => exact .inl rfl
    | ok made =>
      rcases localize_cases hr with ⟨hsame, -⟩ | ⟨container, -, hnew, he, hr'⟩
      · exact .inl hsame
      · exact .inr (.inl ⟨made.1, by rw [he]; exact hnew, hr'⟩)
  | merge node place base =>
    simp only [answer, merge]
    by_cases h : r.contains (Reference.atPointer base place).id
    · simp only [h, if_true]
      exact .inr (.inr ⟨_, _, rfl, rfl⟩)
    · simp only [h]
      exact .inl rfl
  | refresh origin node => exact .inr (.inr ⟨origin.id, fun _ => node, rfl, rfl⟩)

theorem mem_grouped {e : Entry} : e ∈ r.grouped ↔ e ∈ r.entries := by
  unfold grouped
  simp only [List.mem_flatMap, mem_entriesOf]
  constructor
  · rintro ⟨_, -, he, -⟩
    exact he
  · intro he
    exact ⟨e.component, mem_components.mpr ⟨e, he, rfl⟩, he, rfl⟩

theorem all_tables (r : Registry) : r.tables.all = r.grouped := by
  unfold Tables.all tables grouped
  simp [List.flatMap_map, shelf, OrderedMap.values, Function.comp_def]

/-- A call leaves every entry where it is, and its content unless it is for its origin. -/
theorem shelf_answer {c : Component} {j : Nat} {name : String} {e : Entry}
    (hj : (r.shelf c)[j]? = some (name, e)) :
    ∃ e', ((r.answer call).2.shelf c)[j]? = some (name, e') ∧ e'.head = e.head ∧
      (call.target? ≠ some e.origin.id → e' = e) := by
  rcases r.answer_cases call with heq | ⟨new, -, heq⟩ | ⟨i, f, htarget, heq⟩
  · rw [heq]
    exact ⟨e, hj, rfl, fun _ => rfl⟩
  · refine ⟨e, ?_, rfl, fun _ => rfl⟩
    obtain ⟨hlt, -⟩ := List.getElem?_eq_some_iff.mp hj
    have hshelf : shelf ⟨r.entries ++ [new]⟩ c =
        r.shelf c ++ (([new].filter fun e => e.component = c).map fun e => (e.name, e)) := by
      simp only [shelf, entriesOf, List.filter_append, List.map_append]
    rw [heq, hshelf, List.getElem?_append_left hlt]
    exact hj
  · unfold shelf at hj
    rw [List.getElem?_map] at hj
    obtain ⟨x, hx, hslot⟩ := Option.map_eq_some_iff.mp hj
    cases hslot
    rw [heq, shelf_updateNode, List.getElem?_map, hx]
    refine ⟨_, rfl, ?_, fun hne => if_neg fun hi => hne (htarget.trans (congrArg some hi.symm))⟩
    split <;> rfl

namespace Orderly

variable (h : Orderly d r)
include h

theorem entries_nodup : r.entries.Nodup := by
  have horigins := h.origins
  unfold heads at horigins
  rw [List.map_map] at horigins
  exact horigins.of_map _

/-- Grouping the entries by component only puts them into another order. -/
theorem grouped_perm : r.grouped.Perm r.entries := by
  refine (List.perm_ext_iff_of_nodup ?_ h.entries_nodup).mpr fun e => mem_grouped
  unfold grouped
  refine List.nodup_flatMap.mpr ⟨fun c _ => h.entries_nodup.filter _, ?_⟩
  refine r.components_spec.1.imp fun {c c'} hne e he he' => hne ?_
  exact (mem_entriesOf.mp he).2.symm.trans (mem_entriesOf.mp he').2

theorem matched : r.tables.Matched where
  components := by
    rw [keys_entries_tables]
    exact r.components_spec.1
  names := fun c => by
    rw [shelf_tables, keys_shelf]
    exact h.names_nodup c
  origins := by
    have horigins := h.origins
    unfold heads at horigins
    rw [List.map_map] at horigins
    simpa [tables, OrderedMap.keys, Function.comp_def, Entry.head] using horigins
  entry := by
    intro i c name hfind
    rw [find?_byOrigin_tables] at hfind
    obtain ⟨e, he, hslot⟩ := Option.map_eq_some_iff.mp hfind
    obtain ⟨hmem, hid⟩ := mem_of_find? he
    cases hslot
    rw [shelf_tables]
    exact ⟨e, h.find?_shelf.mpr ⟨hmem, rfl, rfl⟩, hid⟩
  origin := by
    intro c name e hfind
    rw [shelf_tables] at hfind
    obtain ⟨hmem, hc, hname⟩ := h.find?_shelf.mp hfind
    refine ⟨hc, hname, ?_⟩
    rw [find?_byOrigin_tables, h.find? hmem, Option.map_some, hc, hname]
  size := by
    rw [all_tables, h.grouped_perm.length_eq]
    simp [Tables.size, tables]

theorem lawful (hcall : call.For d) : r.tables.Lawful call where
  failed := by
    intro error herror
    rw [h.answer_tables hcall] at herror ⊢
    cases call with
    | localize node c place base =>
      simp only [Registry.answer] at herror ⊢
      cases hr : r.localize node c place base <;> simp_all
    | merge node place base =>
      simp only [Registry.answer] at herror ⊢
      cases hr : r.merge node place base <;> simp_all
    | refresh origin node => cases herror
  known := by
    rintro node c place base e rfl hget
    rw [h.get?_tables] at hget
    rw [h.answer_tables hcall]
    simp [Registry.answer, Registry.localize, hget]
  fresh := by
    rintro node c place base container rfl hget hcontainer
    rw [h.get?_tables] at hget
    obtain ⟨k, heq, hfree, htaken⟩ :=
      freeName_spec (r.names c) (c.preferredName place (some base))
    refine ⟨k, ?_⟩
    simp only [shelf_tables, keys_shelf]
    refine ⟨htaken, hfree, ?_⟩
    rw [h.answer_tables hcall, insert_tables hget hfree]
    simp [Registry.answer, Registry.localize, hget, hcontainer, heq]
  components := by
    rw [h.answer_tables hcall]
    simp only [keys_entries_tables]
    rcases r.answer_cases call with heq | ⟨new, -, heq⟩ | ⟨i, f, -, heq⟩
    · simp only [heq, List.prefix_refl]
    · rw [heq, components_append]
      split
      · exact List.prefix_refl _
      · exact List.prefix_append _ _
    · simp only [heq, components_updateNode, List.prefix_refl]
  kept := by
    intro c j name e hj
    rw [shelf_tables] at hj
    rw [h.answer_tables hcall, shelf_tables]
    exact shelf_answer hj
  origins := by
    intro i slot hslot
    rw [h.answer_tables hcall]
    rcases r.answer_cases call with heq | ⟨new, -, heq⟩ | ⟨i', f, -, heq⟩
    · rw [heq]
      exact hslot
    · rw [find?_byOrigin_tables] at hslot ⊢
      obtain ⟨e, he, rfl⟩ := Option.map_eq_some_iff.mp hslot
      rw [heq, find?_append, he, Option.some_or, Option.map_some]
    · unfold tables at hslot ⊢
      rw [heq, byOrigin_updateNode]
      exact hslot

end Orderly

end Registry

/-- The registry is coherent after all calls for components of one dialect. -/
theorem Tables.coherent_of_calls {d : Dialect} {calls : List Call}
    (hcalls : ∀ call ∈ calls, call.For d) : Tables.Coherent d calls := by
  have h := (Registry.Orderly.empty d).after hcalls
  have hsame : Tables.empty.after calls = (Registry.empty.after calls).tables :=
    (Registry.Orderly.empty d).after_tables hcalls
  have hall : ∀ e, e ∈ (Tables.empty.after calls).all ↔ e ∈ (Registry.empty.after calls).entries := by
    intro e
    rw [hsame, Registry.all_tables, Registry.mem_grouped]
  constructor
  case same => exact hsame
  case matched => exact hsame ▸ h.matched
  case place =>
    exact fun e he e' he' => h.eq_of_place ((hall e).mp he) ((hall e').mp he')
  case refText =>
    exact fun e he e' he' => h.eq_of_refText ((hall e).mp he) ((hall e').mp he')
  case reply =>
    intro call hcall
    rw [hsame, h.answer_tables hcall]
  case lawful =>
    intro call hcall
    rw [hsame]
    exact h.lawful hcall

namespace Pets

/-- A file with a definition. -/
def file (name : String) : Uri := ⟨"file", some (.ofHost none), "/" ++ name, none, none⟩

/-- Hoisting a definition of one name from a file. -/
def hoist (name : String) : Call :=
  .localize (.object []) ⟨.swagger2, .schema⟩ ⟨["definitions", "Pet"]⟩ (file name)

/-- Definitions of one name from three files, with calls that fail in between. -/
def calls : List Call :=
  [hoist "a.yaml", .merge .null ⟨["paths", "/p"]⟩ (file "a.yaml"), hoist "b.yaml",
    .localize .null ⟨.swagger2, .model⟩ .root (file "b.yaml"), hoist "a.yaml", hoist "c.yaml"]

end Pets

theorem Tables.coherent_of_calls_pets :
    (∀ call ∈ Pets.calls, call.For .swagger2) ∧ Tables.Coherent .swagger2 Pets.calls :=
  ⟨by decide, Tables.coherent_of_calls (by decide)⟩

example : OrderedMap.keys ((Tables.empty.after Pets.calls).shelf ⟨.swagger2, .schema⟩) =
    ["Pet", "Pet_1", "Pet_2"] := by decide +kernel

end ApiBundle
