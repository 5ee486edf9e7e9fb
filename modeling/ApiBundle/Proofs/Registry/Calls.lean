import ApiBundle.Proofs.Pointer.Text
import ApiBundle.Proofs.Registry.Heads
import ApiBundle.Proofs.Registry.Naming

/-!
# Calls of the registry

Whoever uses the registry can make an entry, overlay one or replace the content of one, and nothing
else. `Registry.after` is what a sequence of such calls makes of a registry; `Registry.Reaches` says
that one registry comes from another one in that way by calls for components of one dialect.

The heads of a registry that is reached from the empty one are in order (`Registry.Orderly`): no two
entries have one origin, no two have one name in one component, and every container is the one of
its component. The contents play no part in this.
-/

namespace ApiBundle

/-- What the registry can be asked to do. -/
inductive Call where
  /-- Make an entry for the content at a place. -/
  | localize (node : Json) (component : Component) (place : Pointer) (base : Uri)
  /-- Overlay the content of the entry for a place. -/
  | merge (node : Json) (place : Pointer) (base : Uri)
  /-- Replace the content of the entry for an origin. -/
  | refresh (origin : Reference) (node : Json)
  deriving DecidableEq, Repr

/-- What a call that does not fail gives back. -/
inductive Reply where
  /-- The entry for the place. -/
  | entry (e : Entry)
  /-- The content is overlaid. -/
  | merged
  /-- Whether there was an entry. -/
  | refreshed (found : Bool)
  deriving DecidableEq, Repr

/-- A head with a name that its place would like to have, maybe with a number behind it. -/
def Head.Named (h : Head) : Prop :=
  ∃ base place k, h.origin = .atPointer base place ∧
    h.name = Registry.candidate (h.component.preferredName place (some base)) k

namespace Call

/-- A call that makes entries for components of one dialect only. -/
def For (d : Dialect) : Call → Prop
  | localize _ c _ _ => c ∈ d.components
  | merge .. | refresh .. => True

instance (d : Dialect) (call : Call) : Decidable (call.For d) := by
  cases call <;> unfold For <;> infer_instance

/-- The origin whose content a call may change. -/
def target? : Call → Option RefId
  | localize .. => none
  | merge _ place base => some (Reference.atPointer base place).id
  | refresh origin _ => some origin.id

end Call

namespace Registry

/-- A call: what it gives back, and the registry that it leaves. -/
def answer (r : Registry) : Call → Except BundleError Reply × Registry
  | .localize node c place base =>
    match r.localize node c place base with
    | .ok (e, r') => (.ok (.entry e), r')
    | .error error => (.error error, r)
  | .merge node place base =>
    match r.merge node place base with
    | .ok r' => (.ok .merged, r')
    | .error error => (.error error, r)
  | .refresh origin node => (.ok (.refreshed (r.contains origin.id)), r.refresh origin.id node)

/-- What a sequence of calls makes of a registry. -/
def after (r : Registry) (calls : List Call) : Registry :=
  calls.foldl (fun r call => (r.answer call).2) r

/-- A registry that comes from another one by calls for a dialect's components. -/
def Reaches (d : Dialect) (r r' : Registry) : Prop :=
  ∃ calls : List Call, (∀ call ∈ calls, call.For d) ∧ r' = r.after calls

/-- Origins are known once, names are given once in a component, and entries are at home. -/
structure Orderly (d : Dialect) (r : Registry) : Prop where
  origins : (r.heads.map fun h => h.origin.id).Nodup
  slots : (r.heads.map fun h => (h.component, h.name)).Nodup
  homed : ∀ h ∈ r.heads, h.Homed d
  named : ∀ h ∈ r.heads, h.Named

variable {d : Dialect} {r r' r'' : Registry} {e e' : Entry} {node : Json} {c : Component}
  {place : Pointer} {base : Uri}

namespace Reaches

theorem refl (d : Dialect) (r : Registry) : Reaches d r r :=
  ⟨[], fun _ h => absurd h List.not_mem_nil, rfl⟩

theorem trans (h : Reaches d r r') (h' : Reaches d r' r'') : Reaches d r r'' := by
  obtain ⟨calls, hcalls, rfl⟩ := h
  obtain ⟨calls', hcalls', rfl⟩ := h'
  refine ⟨calls ++ calls', fun call hcall => ?_, ?_⟩
  · exact (List.mem_append.mp hcall).elim (hcalls call) (hcalls' call)
  · exact List.foldl_append.symm

theorem single {call : Call} (h : call.For d) : Reaches d r (r.answer call).2 :=
  ⟨[call], by simpa using h, rfl⟩

theorem localize (hc : c ∈ d.components) (h : r.localize node c place base = .ok (e, r')) :
    Reaches d r r' := by
  have := single (r := r) (show (Call.localize node c place base).For d from hc)
  simpa only [answer, h] using this

theorem merge (h : r.merge node place base = .ok r') : Reaches d r r' := by
  have := single (d := d) (r := r) (show (Call.merge node place base).For d from trivial)
  simpa only [answer, h] using this

theorem refresh (origin : Reference) (node : Json) :
    Reaches d r (r.refresh origin.id node) :=
  single (show (Call.refresh origin node).For d from trivial)

end Reaches

/-! ## Places -/

/-- The reference to an entry names the place where the entry is collected. -/
theorem refText_eq (e : Entry) : e.refText = "#" ++ (e.container.push e.name).text := by
  simp [Entry.refText, Pointer.text_push, String.append_assoc]

/-- Components of one dialect do not share a container. -/
theorem eq_of_container {c c' : Component} (hc : c ∈ d.components) (hc' : c' ∈ d.components)
    {home : Pointer} (h : c.container? = some home) (h' : c'.container? = some home) : c = c' := by
  have key : ∀ d ∈ [Dialect.swagger2, .openApi3], ∀ c ∈ d.components, ∀ c' ∈ d.components,
      c.container?.isSome → c.container? = c'.container? → c = c' := by decide +kernel
  exact key d (by cases d <;> simp) c hc c' hc' (h ▸ rfl) (h.trans h'.symm)

/-! ## Order -/

theorem heads_append (r : Registry) (e : Entry) :
    heads ⟨r.entries ++ [e]⟩ = r.heads ++ [e.head] :=
  List.map_append

/-- An entry that does not want the name of the text of a reference does not get it. -/
theorem names_localize (hname : c.preferredName place (some base) ≠ refKey)
    (h : r.localize node c place base = .ok (e, r')) :
    ∀ head ∈ r'.heads, head ∈ r.heads ∨ head.name ≠ refKey := by
  intro head hhead
  rcases localize_cases h with ⟨rfl, -⟩ | ⟨container, -, -, rfl, rfl⟩
  · exact .inl hhead
  · rw [heads_append, List.mem_append] at hhead
    rcases hhead with hold | hnew
    · exact .inl hold
    · cases List.mem_singleton.mp hnew
      obtain ⟨k, hk, -⟩ := freeName_spec (r.names c) (c.preferredName place (some base))
      right
      show freeName _ _ ≠ refKey
      rw [hk]
      exact candidate_ne_refKey hname k

theorem find?_append (r : Registry) (e : Entry) (i : RefId) :
    find? ⟨r.entries ++ [e]⟩ i = (r.find? i).or (if e.origin.id = i then some e else none) := by
  unfold find?
  rw [List.find?_append]
  by_cases h : e.origin.id = i <;> simp [h]

theorem mem_of_find? {i : RefId} (h : r.find? i = some e) : e ∈ r.entries ∧ e.origin.id = i := by
  unfold find? at h
  exact ⟨List.mem_of_find?_eq_some h, by simpa using List.find?_some h⟩

theorem find?_eq_none {i : RefId} : r.find? i = none ↔ ∀ e ∈ r.entries, e.origin.id ≠ i := by
  unfold find?
  simp

theorem mem_names : ∀ {name : String}, name ∈ r.names c ↔
    ∃ e ∈ r.entries, e.component = c ∧ e.name = name := by
  intro name
  unfold names entriesOf
  simp [and_assoc]

namespace Orderly

theorem empty (d : Dialect) : Orderly d .empty :=
  ⟨.nil, .nil, fun _ h => absurd h List.not_mem_nil, fun _ h => absurd h List.not_mem_nil⟩

theorem of_heads_eq (h : Orderly d r) (heq : r'.heads = r.heads) : Orderly d r' :=
  ⟨heq ▸ h.origins, heq ▸ h.slots, heq ▸ h.homed, heq ▸ h.named⟩

/-- One origin has one entry. -/
theorem eq_of_origin (h : Orderly d r) (he : e ∈ r.entries) (he' : e' ∈ r.entries)
    (heq : e.origin.id = e'.origin.id) : e = e' := by
  have hnodup := h.origins
  unfold heads at hnodup
  rw [List.map_map] at hnodup
  exact List.inj_on_of_nodup_map hnodup he he' heq

/-- One name in one component has one entry. -/
theorem eq_of_slot (h : Orderly d r) (he : e ∈ r.entries) (he' : e' ∈ r.entries)
    (hcomponent : e.component = e'.component) (hname : e.name = e'.name) : e = e' := by
  have hnodup := h.slots
  unfold heads at hnodup
  rw [List.map_map] at hnodup
  exact List.inj_on_of_nodup_map hnodup he he' (Prod.ext hcomponent hname)

theorem find? (h : Orderly d r) (he : e ∈ r.entries) : r.find? e.origin.id = some e := by
  cases hfind : r.find? e.origin.id with
  | none => exact absurd rfl (find?_eq_none.mp hfind e he)
  | some e' =>
    obtain ⟨he', hid⟩ := mem_of_find? hfind
    exact congrArg some (h.eq_of_origin he' he hid)

theorem container (h : Orderly d r) (he : e ∈ r.entries) :
    e.component ∈ d.components ∧ e.component.container? = some e.container :=
  h.homed e.head (List.mem_map_of_mem he)

/-- One place has one entry. -/
theorem eq_of_place (h : Orderly d r) (he : e ∈ r.entries) (he' : e' ∈ r.entries)
    (hcontainer : e.container = e'.container) (hname : e.name = e'.name) : e = e' := by
  obtain ⟨hc, hhome⟩ := h.container he
  obtain ⟨hc', hhome'⟩ := h.container he'
  exact h.eq_of_slot he he' (eq_of_container hc hc' hhome (hcontainer ▸ hhome')) hname

/-- References to different entries have different texts. -/
theorem eq_of_refText (h : Orderly d r) (he : e ∈ r.entries) (he' : e' ∈ r.entries)
    (heq : e.refText = e'.refText) : e = e' := by
  rw [refText_eq, refText_eq, String.append_right_inj] at heq
  have htokens := congrArg Pointer.tokens (Pointer.text_inj heq)
  obtain ⟨hcontainer, hname⟩ := List.append_inj' htokens rfl
  exact h.eq_of_place he he' (congrArg Pointer.mk hcontainer) (List.singleton_inj.mp hname)

/-- Names in containers are made of name characters. -/
theorem isName (h : Orderly d r) (he : e ∈ r.entries) {containers : List String}
    (hnaming : e.component.info.naming = .container containers) : IsName e.name := by
  obtain ⟨base, place, k, -, hname⟩ := h.named e.head (List.mem_map_of_mem he)
  have hcandidate := isName_candidate (Component.isName_preferredName hnaming place (some base)) k
  exact (show e.name = _ from hname) ▸ hcandidate

/-- An entry with an origin and a name of its own fits in. -/
theorem append (h : Orderly d r) (horigin : r.find? e.origin.id = none)
    (hname : e.name ∉ r.names e.component) (hhomed : e.head.Homed d) (hnamed : e.head.Named) :
    Orderly d ⟨r.entries ++ [e]⟩ where
  origins := by
    have hnot : e.origin.id ∉ r.heads.map fun h => h.origin.id := by
      unfold heads
      rw [List.map_map]
      intro hmem
      obtain ⟨e', he', heq⟩ := List.mem_map.mp hmem
      exact find?_eq_none.mp horigin e' he' heq
    rw [heads_append, List.map_append, List.nodup_append]
    refine ⟨h.origins, List.nodup_singleton _, fun i hi j hj heq => hnot ?_⟩
    cases List.mem_singleton.mp hj
    subst heq
    exact hi
  slots := by
    have hnot : (e.component, e.name) ∉ r.heads.map fun h => (h.component, h.name) := by
      unfold heads
      rw [List.map_map]
      intro hmem
      obtain ⟨e', he', heq⟩ := List.mem_map.mp hmem
      exact hname (mem_names.mpr ⟨e', he', congrArg Prod.fst heq, congrArg Prod.snd heq⟩)
    rw [heads_append, List.map_append, List.nodup_append]
    refine ⟨h.slots, List.nodup_singleton _, fun slot hslot other hother heq => hnot ?_⟩
    cases List.mem_singleton.mp hother
    subst heq
    exact hslot
  homed := by
    intro head hhead
    rw [heads_append, List.mem_append] at hhead
    rcases hhead with hold | hnew
    · exact h.homed head hold
    · exact List.mem_singleton.mp hnew ▸ hhomed
  named := by
    intro head hhead
    rw [heads_append, List.mem_append] at hhead
    rcases hhead with hold | hnew
    · exact h.named head hold
    · exact List.mem_singleton.mp hnew ▸ hnamed

theorem localize (h : Orderly d r) (hc : c ∈ d.components)
    (hr : r.localize node c place base = .ok (e, r')) : Orderly d r' := by
  rcases localize_cases hr with ⟨rfl, -⟩ | ⟨container, hcontainer, hnew, rfl, rfl⟩
  · exact h
  · obtain ⟨k, hname, -⟩ := freeName_spec (r.names c) (c.preferredName place (some base))
    exact h.append hnew (freeName_not_mem _ _) ⟨hc, hcontainer⟩ ⟨base, place, k, rfl, hname⟩

/-- Every call keeps the order. -/
theorem answer (h : Orderly d r) {call : Call} (hcall : call.For d) :
    Orderly d (r.answer call).2 := by
  cases call with
  | localize node c place base =>
    cases hr : r.localize node c place base with
    | ok made =>
      have hmade := h.localize hcall hr
      simpa only [Registry.answer, hr] using hmade
    | error error => simpa only [Registry.answer, hr] using h
  | merge node place base =>
    cases hr : r.merge node place base with
    | ok r' =>
      have hmerged := h.of_heads_eq (heads_merge hr)
      simpa only [Registry.answer, hr] using hmerged
    | error error => simpa only [Registry.answer, hr] using h
  | refresh origin node => exact h.of_heads_eq (heads_refresh _)

theorem after (h : Orderly d r) {calls : List Call} (hcalls : ∀ call ∈ calls, call.For d) :
    Orderly d (r.after calls) := by
  induction calls generalizing r with
  | nil => exact h
  | cons call calls ih =>
    have hfirst := h.answer (hcalls call (List.mem_cons_self ..))
    exact ih hfirst fun call hcall => hcalls call (List.mem_cons_of_mem _ hcall)

/-- What is reached from an orderly registry is orderly. -/
theorem reaches (h : Orderly d r) (hr : Reaches d r r') : Orderly d r' := by
  obtain ⟨calls, hcalls, rfl⟩ := hr
  exact h.after hcalls

end Orderly

end Registry

end ApiBundle
