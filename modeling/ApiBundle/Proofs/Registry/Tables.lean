import ApiBundle.Proofs.OrderedMap
import ApiBundle.Proofs.Registry.Calls
import Mathlib.Data.List.Induction

/-!
# The registry as two tables

A registry that is asked often keeps its entries by component and name, and beside them a second
table that says for each origin where its entry is. `Tables` has the operations in that form: a name
is looked for in the table of a component, an entry is reached by way of its origin, and an entry
that should be there and is not is an error of its own.

`Registry.tables` gives the tables of a list of entries. Every call does the same to both
(`Tables.answer_tables`), so the two tables fit together after any sequence of calls, and everything
that holds of the one form holds of the other.
-/

namespace ApiBundle

/-- The registry as two tables. -/
structure Tables where
  /-- The entries of each component by their names. -/
  entries : OrderedMap Component (OrderedMap String Entry)
  /-- Where the entry for an origin is. -/
  byOrigin : OrderedMap RefId (Component × String)
  deriving DecidableEq, Repr

namespace Tables

/-- Tables without entries. -/
def empty : Tables := ⟨[], []⟩

/-- The entries of a component by their names. -/
def shelf (t : Tables) (c : Component) : OrderedMap String Entry :=
  (OrderedMap.find? t.entries c).getD []

/-- All entries, component by component. -/
def all (t : Tables) : List Entry := t.entries.flatMap fun shelf => OrderedMap.values shelf.2

/-- The number of entries. -/
def size (t : Tables) : Nat := t.byOrigin.length

/-- The entry for an origin. -/
def get? (t : Tables) (origin : RefId) : Option Entry := do
  let (c, name) ← OrderedMap.find? t.byOrigin origin
  OrderedMap.find? (← OrderedMap.find? t.entries c) name

/-- Puts an entry into both tables. -/
def insert (t : Tables) (e : Entry) : Tables :=
  ⟨OrderedMap.put t.entries e.component (OrderedMap.put (t.shelf e.component) e.name e),
    OrderedMap.put t.byOrigin e.origin.id (e.component, e.name)⟩

/-- Changes the content of the entry for an origin, if there is one. -/
def updateNode (t : Tables) (origin : RefId) (f : Json → Json) : Tables :=
  match OrderedMap.find? t.byOrigin origin with
  | some (c, name) =>
    let change (e : Entry) : Entry := { e with node := f e.node }
    { t with entries := OrderedMap.modify t.entries c (OrderedMap.modify · name change) }
  | none => t

/-- Makes an entry for the content at a place unless there is one. -/
def register (t : Tables) (node : Json) (c : Component) (place : Pointer) (base : Uri) :
    Except BundleError Unit × Tables :=
  let origin := Reference.atPointer base place
  if OrderedMap.contains t.byOrigin origin.id then (.ok (), t)
  else
    match c.container? with
    | none => (.error (.noContainer c.name), t)
    | some container =>
      let taken := OrderedMap.keys (t.shelf c)
      let name := Registry.freeName taken (c.preferredName place (some base))
      (.ok (), t.insert ⟨c, name, node, origin, container⟩)

/-- Gives the entry for the content at a place, which is made if there is none. -/
def localize (t : Tables) (node : Json) (c : Component) (place : Pointer) (base : Uri) :
    Except BundleError Entry × Tables :=
  let origin := Reference.atPointer base place
  match t.register node c place base with
  | (.error error, t) => (.error error, t)
  | (.ok (), t) =>
    match t.get? origin.id with
    | some e => (.ok e, t)
    | none => (.error (.entryVanished origin.display), t)

/-- Overlays the content of the entry for a place with the members of a node. -/
def merge (t : Tables) (node : Json) (place : Pointer) (base : Uri) :
    Except BundleError Unit × Tables :=
  let origin := Reference.atPointer base place
  match t.get? origin.id with
  | some _ => (.ok (), t.updateNode origin.id (·.mergeFields node))
  | none => (.error (.mergeBeforeLocalize origin.display), t)

/-- Replaces the content of the entry for an origin; says whether there is one. -/
def refresh (t : Tables) (origin : RefId) (node : Json) : Bool × Tables :=
  match t.get? origin with
  | some _ => (true, t.updateNode origin fun _ => node)
  | none => (false, t)

/-- A call: what it gives back, and the tables that it leaves. -/
def answer (t : Tables) : Call → Except BundleError Reply × Tables
  | .localize node c place base =>
    let (result, t) := t.localize node c place base
    (result.map .entry, t)
  | .merge node place base =>
    let (result, t) := t.merge node place base
    (result.map fun _ => .merged, t)
  | .refresh origin node =>
    let (found, t) := t.refresh origin.id node
    (.ok (.refreshed found), t)

/-- What a sequence of calls makes of tables. -/
def after (t : Tables) (calls : List Call) : Tables :=
  calls.foldl (fun t call => (t.answer call).2) t

end Tables

namespace Registry

/-- The entries of a component by their names. -/
def shelf (r : Registry) (c : Component) : OrderedMap String Entry :=
  (r.entriesOf c).map fun e => (e.name, e)

/-- The tables of a list of entries. -/
def tables (r : Registry) : Tables :=
  ⟨r.components.map fun c => (c, r.shelf c),
    r.entries.map fun e => (e.origin.id, e.component, e.name)⟩

variable {d : Dialect} {r r' : Registry} {e : Entry} {node : Json} {c : Component}
  {place : Pointer} {base : Uri} {i : RefId} {name : String}

theorem mem_entriesOf : e ∈ r.entriesOf c ↔ e ∈ r.entries ∧ e.component = c := by
  unfold entriesOf
  simp

/-- A component has a shelf from its first entry on. -/
theorem components_append (r : Registry) (e : Entry) : components ⟨r.entries ++ [e]⟩ =
    if e.component ∈ r.components then r.components else r.components ++ [e.component] := by
  unfold components
  rw [List.foldl_append]
  simp

theorem components_spec (r : Registry) :
    r.components.Nodup ∧ ∀ c, c ∈ r.components ↔ ∃ e ∈ r.entries, e.component = c := by
  obtain ⟨entries⟩ := r
  induction entries using List.reverseRecOn with
  | nil => exact ⟨.nil, by simp [components]⟩
  | append_singleton entries e ih =>
    obtain ⟨hnodup, hmem⟩ := ih
    rw [components_append ⟨entries⟩ e]
    split
    · next hold =>
      refine ⟨hnodup, fun c => (hmem c).trans ?_⟩
      obtain ⟨e', he', heq⟩ := (hmem _).mp hold
      constructor
      · rintro ⟨e₁, he₁, rfl⟩
        exact ⟨e₁, List.mem_append_left _ he₁, rfl⟩
      · rintro ⟨e₁, he₁, rfl⟩
        rcases List.mem_append.mp he₁ with hleft | hright
        · exact ⟨e₁, hleft, rfl⟩
        · exact ⟨e', he', heq.trans (List.mem_singleton.mp hright ▸ rfl)⟩
    · next hnew =>
      refine ⟨?_, fun c => ?_⟩
      · rw [List.nodup_append]
        refine ⟨hnodup, List.nodup_singleton _, fun c hc c' hc' heq => hnew ?_⟩
        exact List.mem_singleton.mp hc' ▸ heq ▸ hc
      · rw [List.mem_append, hmem, List.mem_singleton]
        simp only [List.mem_append, List.mem_singleton, or_and_right, exists_or, exists_eq_left]
        exact or_congr_right eq_comm

theorem mem_components : c ∈ r.components ↔ ∃ e ∈ r.entries, e.component = c :=
  r.components_spec.2 c

@[simp] theorem tables_empty : empty.tables = .empty := rfl

@[simp] theorem keys_shelf : OrderedMap.keys (r.shelf c) = r.names c := by
  simp [shelf, names, OrderedMap.keys]

@[simp] theorem keys_entries_tables : OrderedMap.keys r.tables.entries = r.components := by
  simp [tables, OrderedMap.keys, Function.comp_def]

@[simp] theorem shelf_tables (r : Registry) (c : Component) : r.tables.shelf c = r.shelf c := by
  unfold Tables.shelf tables
  rw [OrderedMap.find?_graph]
  split
  · rfl
  · next h =>
    have hnone : r.entriesOf c = [] := by
      rw [List.eq_nil_iff_forall_not_mem]
      intro e he
      obtain ⟨hmem, hc⟩ := mem_entriesOf.mp he
      exact h (mem_components.mpr ⟨e, hmem, hc⟩)
    simp [shelf, hnone]

theorem find?_byOrigin_tables (r : Registry) (i : RefId) :
    OrderedMap.find? r.tables.byOrigin i = (r.find? i).map fun e => (e.component, e.name) :=
  OrderedMap.find?_map r.entries (fun e => e.origin.id) (fun e => (e.component, e.name)) i

/-- An entry goes to the end of its shelf, and to the end of the origins. -/
theorem insert_tables (horigin : r.find? e.origin.id = none)
    (hname : e.name ∉ r.names e.component) :
    r.tables.insert e = tables ⟨r.entries ++ [e]⟩ := by
  have hshelf : OrderedMap.put (r.shelf e.component) e.name e =
      shelf ⟨r.entries ++ [e]⟩ e.component := by
    rw [OrderedMap.put_of_not_mem (by simpa using hname)]
    simp [shelf, entriesOf]
  have hother : ∀ c, c ≠ e.component → shelf ⟨r.entries ++ [e]⟩ c = r.shelf c := by
    intro c hc
    simp [shelf, entriesOf, hc.symm]
  have hby : e.origin.id ∉ OrderedMap.keys r.tables.byOrigin := by
    intro hmem
    obtain ⟨slot, hslot, heq⟩ := List.mem_map.mp hmem
    obtain ⟨e', he', rfl⟩ := List.mem_map.mp hslot
    exact find?_eq_none.mp horigin e' he' heq
  unfold Tables.insert
  rw [shelf_tables, hshelf, OrderedMap.put_of_not_mem hby]
  unfold tables
  rw [components_append]
  congr 1
  · split
    · next hold =>
      rw [OrderedMap.put_of_mem (by simpa [OrderedMap.keys] using hold)]
      refine (OrderedMap.modify_graph r.components_spec.1 _ _).trans ?_
      refine List.map_congr_left fun c _ => ?_
      split
      · next hc => rw [hc]
      · next hc => rw [hother c hc]
    · next hnew =>
      rw [OrderedMap.put_of_not_mem (by simpa [OrderedMap.keys] using hnew), List.map_append]
      congr 1
      refine List.map_congr_left fun c hc => ?_
      rw [hother c fun heq => hnew (heq ▸ hc)]
  · simp

theorem components_updateNode (i : RefId) (f : Json → Json) :
    (r.updateNode i f).components = r.components := by
  unfold components updateNode
  rw [List.foldl_map]
  congr 1
  funext found e
  split <;> rfl

theorem shelf_updateNode (i : RefId) (f : Json → Json) (c : Component) :
    (r.updateNode i f).shelf c = (r.entriesOf c).map fun e =>
      (e.name, if e.origin.id = i then { e with node := f e.node } else e) := by
  unfold shelf entriesOf updateNode
  rw [List.filter_map, List.map_map]
  have hfilter : ∀ e : Entry, (if e.origin.id = i then { e with node := f e.node } else e).component
      = e.component := fun e => by split <;> rfl
  simp only [Function.comp_def, hfilter]
  refine List.map_congr_left fun e _ => ?_
  split <;> rfl

theorem byOrigin_updateNode (i : RefId) (f : Json → Json) :
    ((r.updateNode i f).entries.map fun e => (e.origin.id, e.component, e.name)) =
      r.entries.map fun e => (e.origin.id, e.component, e.name) := by
  unfold updateNode
  rw [List.map_map]
  refine List.map_congr_left fun e _ => ?_
  simp only [Function.comp_apply]
  split <;> rfl

theorem updateNode_of_none {i : RefId} (hfind : r.find? i = none) (f : Json → Json) :
    r.updateNode i f = r := by
  have hsame : r.entries.map (fun e => if e.origin.id = i then { e with node := f e.node } else e)
      = r.entries.map id :=
    List.map_congr_left fun e he => by rw [if_neg (find?_eq_none.mp hfind e he), id]
  unfold updateNode
  rw [hsame, List.map_id]

/-- An entry that was just made is there. -/
theorem find?_localize (hr : r.localize node c place base = .ok (e, r')) :
    r'.find? (Reference.atPointer base place).id = some e := by
  rcases localize_cases hr with ⟨rfl, hfind⟩ | ⟨container, -, hnew, rfl, rfl⟩
  · exact hfind
  · rw [find?_append, hnew]
    simp

namespace Orderly

variable (h : Orderly d r)
include h

theorem names_nodup (c : Component) : (r.names c).Nodup := by
  have hslots := h.slots
  unfold heads at hslots
  rw [List.map_map] at hslots
  have hof : (r.entriesOf c).Nodup := (List.Nodup.of_map _ hslots).filter _
  refine hof.map_on fun e he e' he' hname => ?_
  obtain ⟨hmem, hc⟩ := mem_entriesOf.mp he
  obtain ⟨hmem', hc'⟩ := mem_entriesOf.mp he'
  exact h.eq_of_slot hmem hmem' (hc.trans hc'.symm) hname

/-- The shelf of a component has its entries under their names. -/
theorem find?_shelf : OrderedMap.find? (r.shelf c) name = some e ↔
    e ∈ r.entries ∧ e.component = c ∧ e.name = name := by
  unfold shelf
  rw [OrderedMap.find?_map]
  constructor
  · intro hfind
    simp only [Option.map_id_fun', id_eq] at hfind
    obtain ⟨hmem, hc⟩ := mem_entriesOf.mp (List.mem_of_find?_eq_some hfind)
    exact ⟨hmem, hc, by simpa using List.find?_some hfind⟩
  · rintro ⟨hmem, hc, hname⟩
    cases hfind : (r.entriesOf c).find? fun x => x.name = name with
    | none =>
      have := List.find?_eq_none.mp hfind e (mem_entriesOf.mpr ⟨hmem, hc⟩)
      simp [hname] at this
    | some e' =>
      obtain ⟨hmem', hc'⟩ := mem_entriesOf.mp (List.mem_of_find?_eq_some hfind)
      have hname' : e'.name = name := by simpa using List.find?_some hfind
      have := h.eq_of_slot hmem' hmem (hc'.trans hc.symm) (hname'.trans hname.symm)
      rw [this, Option.map_some]

/-- Both forms have the same entry for an origin. -/
theorem get?_tables (i : RefId) : r.tables.get? i = r.find? i := by
  unfold Tables.get?
  rw [find?_byOrigin_tables]
  cases hfind : r.find? i with
  | none => rfl
  | some e =>
    obtain ⟨hmem, -⟩ := mem_of_find? hfind
    have hc : e.component ∈ r.components := mem_components.mpr ⟨e, hmem, rfl⟩
    have hshelf := h.find?_shelf.mpr ⟨hmem, rfl, rfl⟩
    have hentries : OrderedMap.find? r.tables.entries e.component = some (r.shelf e.component) := by
      unfold tables
      rw [OrderedMap.find?_graph, if_pos hc]
    simpa [hentries] using hshelf

/-- What a change of content makes of a shelf. -/
theorem shelf_updateNode_eq {i : RefId} (hfind : r.find? i = some e) (f : Json → Json) :
    (r.updateNode i f).shelf c = if c = e.component then
        OrderedMap.modify (r.shelf c) e.name fun e => { e with node := f e.node }
      else r.shelf c := by
  obtain ⟨hmem, hid⟩ := mem_of_find? hfind
  have hown : ∀ x ∈ r.entriesOf c, x.origin.id = i → x = e := fun x hx hxi =>
    h.eq_of_origin (mem_entriesOf.mp hx).1 hmem (hxi.trans hid.symm)
  rw [shelf_updateNode]
  split
  · next hc =>
    refine .trans ?_ (OrderedMap.modify_map (h.names_nodup c) _).symm
    refine List.map_congr_left fun x hx => ?_
    by_cases hxi : x.origin.id = i
    · rw [if_pos hxi, if_pos (hown x hx hxi ▸ rfl)]
    · have hne : x.name ≠ e.name := fun hname => by
        obtain ⟨hxmem, hxc⟩ := mem_entriesOf.mp hx
        exact hxi (h.eq_of_slot hxmem hmem (hxc.trans hc) hname ▸ hid)
      rw [if_neg hxi, if_neg hne]
  · next hc =>
    refine List.map_congr_left fun x hx => ?_
    rw [if_neg fun hxi => hc ?_]
    rw [← hown x hx hxi, (mem_entriesOf.mp hx).2]

/-- A change of content is made in the shelf that the origin leads to. -/
theorem updateNode_tables (i : RefId) (f : Json → Json) :
    r.tables.updateNode i f = (r.updateNode i f).tables := by
  unfold Tables.updateNode
  rw [find?_byOrigin_tables]
  cases hfind : r.find? i with
  | none => rw [updateNode_of_none hfind, Option.map_none]
  | some e =>
    unfold tables
    rw [components_updateNode, byOrigin_updateNode]
    simp only [Option.map_some]
    congr 1
    refine (OrderedMap.modify_graph r.components_spec.1 _ _).trans ?_
    exact List.map_congr_left fun c _ => by rw [h.shelf_updateNode_eq hfind]

/-! ## Calls -/

omit h in
theorem register_tables (node : Json) (c : Component) (place : Pointer) (base : Uri) :
    r.tables.register node c place base = match r.localize node c place base with
      | .ok (_, r') => (.ok (), r'.tables)
      | .error error => (.error error, r.tables) := by
  unfold Tables.register Registry.localize OrderedMap.contains
  simp only [find?_byOrigin_tables]
  cases hfind : r.find? (Reference.atPointer base place).id with
  | some e => simp
  | none =>
    cases hc : c.container? with
    | none => simp
    | some container =>
      let e : Entry := ⟨c, freeName (r.names c) (c.preferredName place (some base)), node,
        .atPointer base place, container⟩
      have hinsert : r.tables.insert e = tables ⟨r.entries ++ [e]⟩ :=
        insert_tables hfind (freeName_not_mem _ _)
      simpa using hinsert

theorem localize_tables (hc : c ∈ d.components) (node : Json) (place : Pointer) (base : Uri) :
    r.tables.localize node c place base = match r.localize node c place base with
      | .ok (e, r') => (.ok e, r'.tables)
      | .error error => (.error error, r.tables) := by
  unfold Tables.localize
  rw [register_tables]
  cases hr : r.localize node c place base with
  | error error => rfl
  | ok made =>
    obtain ⟨e, r'⟩ := made
    have horder := h.localize hc hr
    simp only
    rw [horder.get?_tables, find?_localize hr]

theorem merge_tables (node : Json) (place : Pointer) (base : Uri) :
    r.tables.merge node place base = match r.merge node place base with
      | .ok r' => (.ok (), r'.tables)
      | .error error => (.error error, r.tables) := by
  unfold Tables.merge merge contains
  simp only [h.get?_tables, h.updateNode_tables]
  cases r.find? (Reference.atPointer base place).id <;> rfl

theorem refresh_tables (i : RefId) (node : Json) :
    r.tables.refresh i node = (r.contains i, (r.refresh i node).tables) := by
  unfold Tables.refresh refresh contains
  rw [h.get?_tables, h.updateNode_tables]
  cases hfind : r.find? i with
  | none => simp [updateNode_of_none hfind]
  | some e => rfl

/-- Every call gives the same answer in both forms and leaves the same entries. -/
theorem answer_tables {call : Call} (hcall : call.For d) :
    r.tables.answer call = ((r.answer call).1, (r.answer call).2.tables) := by
  cases call with
  | localize node c place base =>
    simp only [Tables.answer, Registry.answer, h.localize_tables hcall]
    cases r.localize node c place base <;> rfl
  | merge node place base =>
    simp only [Tables.answer, Registry.answer, h.merge_tables]
    cases r.merge node place base <;> rfl
  | refresh origin node => simp only [Tables.answer, Registry.answer, h.refresh_tables]

/-- So does every sequence of calls. -/
theorem after_tables {calls : List Call} (hcalls : ∀ call ∈ calls, call.For d) :
    r.tables.after calls = (r.after calls).tables := by
  induction calls generalizing r with
  | nil => rfl
  | cons call calls ih =>
    have hcall := hcalls call (List.mem_cons_self ..)
    have hrest := ih (h.answer hcall) fun call hcall => hcalls call (List.mem_cons_of_mem _ hcall)
    unfold Tables.after Registry.after at hrest ⊢
    rw [List.foldl_cons, List.foldl_cons, h.answer_tables hcall, hrest]

end Orderly

end Registry

end ApiBundle
