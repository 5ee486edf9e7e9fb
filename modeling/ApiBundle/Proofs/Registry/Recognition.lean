import ApiBundle.Proofs.Dialect.Routes
import ApiBundle.Proofs.Machine.Retracing
import ApiBundle.Proofs.Registry.Calls

/-!
# Hoisted content as definitions

In a container, names of definitions lead to where its component is defined, and all other names
lead nowhere (`Dialect.run_push`). The names that hoisted content gets are made of name characters,
but the other two conditions on names of definitions are left to chance: a key or a file's stem that
starts with `x-` is kept, and so is an empty key, unless the empty name is taken.
-/

namespace ApiBundle

/-! ## Where names lead -/

namespace Dialect

variable {d : Dialect} {c : Component} {home : Pointer} {containers : List String}

/-- A tracker that has moved from the whole description to a place. -/
def trackerAt (d : Dialect) (p : Pointer) : Tracker Component :=
  p.keys.foldl Tracker.move (.start d.machine (some d.model))

theorem current_trackerAt (d : Dialect) (p : Pointer) :
    (d.trackerAt p).current = d.machine.run (some d.model) p.keys ∧
      (d.trackerAt p).machine = d.machine :=
  ⟨Tracker.current_moves _ _, Tracker.machine_moves _ _⟩

/-- The component that is defined where a tracker stands. -/
def definedOn (t : Tracker Component) : Option Component := t.site.tag?.bind Component.defined?

theorem definedOn_trackerAt (d : Dialect) (p : Pointer) :
    definedOn (d.trackerAt p) = (d.machine.run (some d.model) p.keys).bind d.definedAt? := by
  obtain ⟨hcurrent, hmachine⟩ := d.current_trackerAt p
  unfold definedOn Tracker.site
  rw [hcurrent, hmachine]
  cases d.machine.run (some d.model) p.keys with
  | none => rfl
  | some q =>
    simp only [Option.bind_some, definedAt?]
    cases d.machine.tag q <;> rfl

theorem container_of_naming (hc : c ∈ d.components)
    (hnaming : c.info.naming = .container containers) : ∃ home, c.container? = some home := by
  have hleads := List.all_eq_true.mp d.isRouted.leads c hc
  unfold leadsToDefinition at hleads
  rw [hnaming] at hleads
  cases hhome : c.container? with
  | none => simp [hhome] at hleads
  | some home => exact ⟨home, rfl⟩

/-- From a container, names of definitions lead to a definition, and all other names lead away. -/
theorem run_push (hc : c ∈ d.components) (hnaming : c.info.naming = .container containers)
    (hhome : c.container? = some home) : ∃ q, d.definedAt? q = some c ∧
      ∀ name, d.machine.run (some d.model) (home.push name).keys =
        if IsDefinitionName name then some q else none := by
  have hleads := List.all_eq_true.mp d.isRouted.leads c hc
  unfold leadsToDefinition at hleads
  rw [hnaming, hhome] at hleads
  simp only at hleads
  split at hleads
  · next e hedges =>
    obtain ⟨hlabel, hdefined⟩ := Bool.and_eq_true_iff.mp hleads
    obtain ⟨hop, hrun, hhop⟩ := Option.bind_eq_some_iff.mp hedges
    obtain ⟨s, hs, hpair⟩ := Option.map_eq_some_iff.mp hhop
    obtain ⟨hexact, hothers⟩ := Prod.mk.inj hpair
    refine ⟨e.target, of_decide_eq_true hdefined, fun name => ?_⟩
    have hallows : e.label.allows name = true ↔ IsDefinitionName name := by
      rw [of_decide_eq_true hlabel]
      exact Label.allows_definitionPattern
    have hstep : d.machine.step hop (.key name) =
        if IsDefinitionName name then some e.target else none := by
      simp only [Machine.step, Machine.stepKey, hs, Option.bind_some, StateRecord.onKey, hexact,
        hothers, List.find?_cons, List.find?_nil]
      by_cases hname : IsDefinitionName name
      · simp [hallows.mpr hname, hname, OrderedMap.find?]
      · simp [Bool.eq_false_iff.mpr (mt hallows.mp hname), hname, OrderedMap.find?]
    rw [Pointer.keys_push, Machine.run_append, hrun, ← hstep]
    rfl
  · cases hleads

end Dialect

/-! ## The names of hoisted content -/

theorem extensionMark_prefix_append {name rest : String} :
    extensionMark <+: (name ++ "_" ++ rest).toList ↔ extensionMark <+: name.toList := by
  simp only [extensionMark_prefix_iff, String.toList_append]
  rcases name.toList with _ | ⟨a, _ | ⟨b, cs⟩⟩ <;> simp

theorem extensionMark_prefix_fixName {text : String} :
    extensionMark <+: (fixName text).toList ↔ extensionMark <+: text.toList := by
  have key : ∀ x, isNameChar x = true → x ≠ '_' →
      ∀ c, (if isNameChar c then c else '_') = x ↔ c = x := by
    intro x hx hne c
    split
    · rfl
    · next hc =>
      constructor
      · exact fun heq => absurd heq.symm hne
      · rintro rfl
        exact absurd hx hc
  have hx := key 'x' (by decide) (by decide)
  have hhyphen := key '-' (by decide) (by decide)
  simp only [extensionMark_prefix_iff, fixName, String.toList_ofList]
  rcases text.toList with _ | ⟨a, _ | ⟨b, cs⟩⟩ <;> simp [hx, hhyphen]

namespace Component

variable {c : Component} {containers : List String}

/-- What a name in a container is made from: a key in one of the containers, or else the stem of a
file. -/
def namedAfter? (c : Component) (place : Pointer) (location : Option Uri) : Option String :=
  match c.info.naming with
  | .container containers =>
    ((containers.find? (isMemberOf place)).bind fun _ => place.last?).or
      (location.bind Uri.fileStem?)
  | _ => none

theorem not_extensionMark_prefix_name (c : Component) : ¬extensionMark <+: c.name.toList := by
  have h : ∀ kind : Kind, ¬extensionMark <+: kind.name.toList := by
    intro kind
    cases kind <;> decide
  exact h c.kind

theorem extensionMark_prefix_preferredName (hnaming : c.info.naming = .container containers)
    (place : Pointer) (location : Option Uri) :
    extensionMark <+: (c.preferredName place location).toList ↔
      ∃ text ∈ c.namedAfter? place location, extensionMark <+: text.toList := by
  unfold preferredName namedAfter?
  rw [hnaming]
  simp only
  cases (containers.find? (isMemberOf place)).bind fun _ => place.last? with
  | some key => simp [extensionMark_prefix_fixName]
  | none =>
    unfold fileName
    cases location.bind Uri.fileStem? with
    | some stem =>
      rw [extensionMark_prefix_append, extensionMark_prefix_fixName]
      simp
    | none => simp [c.not_extensionMark_prefix_name]

end Component

namespace Registry

variable {d : Dialect} {r : Registry} {c : Component} {taken : List String} {preferred : String}

/-- A preferred name of name characters becomes a definition's, unless it is marked as an extension
or empty and free. -/
theorem isDefinitionName_freeName (h : IsName preferred) :
    IsDefinitionName (freeName taken preferred) ↔
      ¬extensionMark <+: preferred.toList ∧ (preferred = "" → "" ∈ taken) := by
  obtain ⟨k, hk, hfree, hbelow⟩ := freeName_spec taken preferred
  rw [hk]
  cases k with
  | zero =>
    constructor
    · exact fun hname => ⟨hname.2.2, fun hempty => absurd hempty hname.2.1⟩
    · refine fun hname => ⟨h, fun hempty => hfree ?_, hname.1⟩
      rw [hempty]
      exact hname.2 hempty
  | succ k =>
    have hne : candidate preferred (k + 1) ≠ "" := by
      intro heq
      simpa [candidate, String.toList_append] using congrArg String.toList heq
    have htaken : preferred ∈ taken := hbelow 0 (Nat.succ_pos k)
    constructor
    · exact fun hname => ⟨fun hmark => hname.2.2 (extensionMark_prefix_append.mpr hmark),
        fun hempty => hempty ▸ htaken⟩
    · exact fun hname => ⟨isName_candidate h _, hne,
        fun hmark => hname.1 (extensionMark_prefix_append.mp hmark)⟩

end Registry

/-- An entry stands where its component is defined if its name is one of a definition, and else
where nothing is known. -/
structure Entry.Recognized (d : Dialect) (e : Entry) : Prop where
  home : e.component.container? = some e.container
  defined : Dialect.definedOn (d.trackerAt (e.container.push e.name)) = some e.component ↔
    IsDefinitionName e.name
  offRoad : ¬IsDefinitionName e.name → (d.trackerAt (e.container.push e.name)).isOffRoad = true

theorem Entry.recognized {d : Dialect} {e : Entry} {containers : List String}
    (hc : e.component ∈ d.components) (hhome : e.component.container? = some e.container)
    (hnaming : e.component.info.naming = .container containers) : e.Recognized d := by
  obtain ⟨q, hdefined, hrun⟩ := Dialect.run_push hc hnaming hhome
  refine ⟨hhome, ?_, fun hname => ?_⟩
  · rw [Dialect.definedOn_trackerAt, hrun]
    by_cases hname : IsDefinitionName e.name
    · simp [hname, hdefined]
    · simp [hname]
  · unfold Tracker.isOffRoad
    rw [(d.current_trackerAt _).1, hrun, if_neg hname]
    rfl

/-- Content that is named after its container is recognized where it is collected, unless it gets
its name from a text that starts like an extension's, or from an empty key. -/
theorem Registry.recognized_localize {d : Dialect} {r : Registry} {c : Component}
    {containers : List String} (hr : Reaches d .empty r) (hc : c ∈ d.components)
    (hnaming : c.info.naming = .container containers) (node : Json) (place : Pointer) (base : Uri) :
    ∃ e r', r.localize node c place base = .ok (e, r') ∧
      (∀ own, e.component.info.naming = .container own → e.Recognized d) ∧
      (r.find? (Reference.atPointer base place).id = none → e.component = c ∧
        (IsDefinitionName e.name ↔
          (∀ text ∈ c.namedAfter? place (some base), ¬extensionMark <+: text.toList) ∧
            (c.preferredName place (some base) = "" → "" ∈ r.names c))) := by
  obtain ⟨home, hhome⟩ := Dialect.container_of_naming hc hnaming
  have horderly := (Orderly.empty d).reaches hr
  cases hfind : r.find? (Reference.atPointer base place).id with
  | some e =>
    refine ⟨e, r, by simp [localize, hfind], fun own hown => ?_, nofun⟩
    obtain ⟨hmem, hcontainer⟩ := horderly.container (mem_of_find? hfind).1
    exact Entry.recognized hmem hcontainer hown
  | none =>
    refine ⟨_, _, by simp [localize, hfind, hhome]; exact ⟨rfl, rfl⟩, ?_, fun _ => ⟨rfl, ?_⟩⟩
    · exact fun own hown => Entry.recognized hc hhome hown
    · have hname := Component.isName_preferredName hnaming place (some base)
      rw [isDefinitionName_freeName hname,
        Component.extensionMark_prefix_preferredName hnaming]
      simp

/-- What is hoisted from a file with the name of an extension is not found again, while content of
another file is. -/
theorem recognized_localize_files :
    (∃ e r', Registry.localize .empty (.object []) ⟨.swagger2, .schema⟩ ⟨["A"]⟩
        ⟨"mem", none, "/x-o.json", none, none⟩ = .ok (e, r') ∧
      (Dialect.swagger2.trackerAt (e.container.push e.name)).isOffRoad = true) ∧
    ∃ e r', Registry.localize .empty (.object []) ⟨.swagger2, .schema⟩ ⟨["A"]⟩
        ⟨"mem", none, "/o.json", none, none⟩ = .ok (e, r') ∧
      Dialect.definedOn (Dialect.swagger2.trackerAt (e.container.push e.name)) =
        some ⟨.swagger2, .schema⟩ := by
  have hmade := Registry.recognized_localize (Registry.Reaches.refl .swagger2 .empty)
    (c := ⟨.swagger2, .schema⟩) (by decide) rfl (.object []) ⟨["A"]⟩
  constructor
  · obtain ⟨e, r', h, hplace, hnew⟩ := hmade ⟨"mem", none, "/x-o.json", none, none⟩
    obtain ⟨hcomponent, hname⟩ := hnew rfl
    refine ⟨e, r', h, (hplace _ (by rw [hcomponent]; rfl)).offRoad fun hdefinition => ?_⟩
    exact (hname.mp hdefinition).1 "x-o" (by decide) (by decide)
  · obtain ⟨e, r', h, hplace, hnew⟩ := hmade ⟨"mem", none, "/o.json", none, none⟩
    obtain ⟨hcomponent, hname⟩ := hnew rfl
    refine ⟨e, r', h, ?_⟩
    rw [← hcomponent]
    exact (hplace _ (by rw [hcomponent]; rfl)).defined.mpr
      (hname.mpr ⟨by decide, by decide⟩)

end ApiBundle
