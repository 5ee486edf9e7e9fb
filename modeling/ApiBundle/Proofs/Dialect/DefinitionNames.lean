import ApiBundle.Proofs.Registry.Recognition

/-!
# The names under which content is defined

From the containers of a dialect, a name leads to the state of what is defined there exactly if it
consists of letters, digits, dots, underscores and hyphens, is not empty, and does not start with
the mark of a vendor extension. All other names lead off the machine.
-/

namespace ApiBundle

namespace Dialect

variable {d : Dialect} {c : Component} {way : List String} {kind : Kind}

/-- The containers of definitions: the names that lead to each, and what stands in it. -/
def definitionContainers : Dialect → List (List String × Kind)
  | swagger2 => [(["definitions"], .schemaDef), (["responses"], .responseDef),
      (["parameters"], .parameterDef)]
  | openApi3 => [(["components", "schemas"], .schemaDef),
      (["components", "responses"], .responseDef), (["components", "parameters"], .parameterDef),
      (["components", "examples"], .exampleItemDef),
      (["components", "requestBodies"], .requestBodyDef), (["components", "headers"], .headerDef),
      (["components", "securitySchemes"], .securitySchemeDef), (["components", "links"], .linkDef),
      (["components", "callbacks"], .callbackDef)]

/-- Whether a component is collected in a container under names, and defined by one kind only. -/
def collects (d : Dialect) (way : List String) (kind : Kind) (c : Component) : Bool :=
  c.container? = some ⟨way⟩ && (c.info.naming matches .container _) &&
    d.kinds.all fun k => decide ((Component.mk d k).defined? = some c ↔ k = kind)

/-- What is defined in a container is collected there, under the names that it is defined by. -/
theorem exists_collected (h : (way, kind) ∈ d.definitionContainers) :
    kind ∈ d.kinds ∧ ∃ c ∈ d.components, ∃ containers, c.info.naming = .container containers ∧
      c.container? = some ⟨way⟩ ∧
        ∀ k ∈ d.kinds, (Component.mk d k).defined? = some c ↔ k = kind := by
  have key : ∀ d ∈ [swagger2, openApi3], ∀ entry ∈ d.definitionContainers,
      entry.2 ∈ d.kinds ∧ ∃ c ∈ d.components, d.collects entry.1 entry.2 c = true := by
    decide +kernel
  obtain ⟨hkind, c, hc, hcollects⟩ := key d (by cases d <;> simp) _ h
  simp only [collects, Bool.and_eq_true, decide_eq_true_eq, List.all_eq_true] at hcollects
  obtain ⟨⟨hhome, hnaming⟩, honly⟩ := hcollects
  refine ⟨hkind, c, hc, ?_⟩
  split at hnaming
  · next containers heq => exact ⟨containers, heq, hhome, honly⟩
  · cases hnaming

/-- A component that one kind only defines is defined at the state of that kind. -/
theorem eq_stateOf_of_definedAt? {q : Nat} (hkind : kind ∈ d.kinds)
    (honly : ∀ k ∈ d.kinds, (Component.mk d k).defined? = some c ↔ k = kind)
    (hq : d.definedAt? q = some c) : q = d.stateOf kind ∧ d.machine.tag q = some ⟨d, kind⟩ := by
  obtain ⟨tag, htag, hdefined⟩ := Option.bind_eq_some_iff.mp hq
  obtain ⟨k, hk, rfl⟩ := List.mem_map.mp (tag_mem_components htag)
  cases (honly k hk).mp hdefined
  have hstate : d.state? ⟨d, kind⟩ = some (d.stateOf kind) := if_pos ⟨rfl, hkind⟩
  exact ⟨Option.some.inj ((state?_eq_some_iff.mpr htag).symm.trans hstate), htag⟩

theorem isDefinitionName_iff {name : String} : IsDefinitionName name ↔
    name ≠ "" ∧ (∀ c ∈ name.toList, c.isAlphanum ∨ c = '.' ∨ c = '_' ∨ c = '-') ∧
      ¬['x', '-'] <+: name.toList := by
  simp only [IsDefinitionName, IsName, isNameChar, extensionMark, Bool.or_eq_true,
    decide_eq_true_eq, or_assoc]
  exact and_left_comm

/-- Names of definitions lead from their container to the definition, all others off-road. -/
theorem reaches_definition (h : (way, kind) ∈ d.definitionContainers) (name : String) :
    ((d.trackerAt ⟨way ++ [name]⟩).current = some (d.stateOf kind) ↔
      name ≠ "" ∧ (∀ c ∈ name.toList, c.isAlphanum ∨ c = '.' ∨ c = '_' ∨ c = '-') ∧
        ¬['x', '-'] <+: name.toList) ∧
    (d.trackerAt ⟨way ++ [name]⟩).site =
      if (d.trackerAt ⟨way ++ [name]⟩).current = some (d.stateOf kind) then .named ⟨d, kind⟩
      else .offRoad := by
  obtain ⟨hkind, c, hc, containers, hnaming, hhome, honly⟩ := exists_collected h
  obtain ⟨q, hdefined, hrun⟩ := run_push hc hnaming hhome
  obtain ⟨rfl, htag⟩ := eq_stateOf_of_definedAt? hkind honly hdefined
  obtain ⟨hcurrent, hmachine⟩ := d.current_trackerAt ⟨way ++ [name]⟩
  have hplace : (d.trackerAt ⟨way ++ [name]⟩).current =
      if IsDefinitionName name then some (d.stateOf kind) else none := hcurrent.trans (hrun name)
  rw [← isDefinitionName_iff, Tracker.site, hplace, hmachine]
  by_cases hname : IsDefinitionName name
  · simp [hname, htag]
  · simp [hname]

theorem reaches_definition_body :
    (["components", "requestBodies"], .requestBodyDef) ∈ openApi3.definitionContainers ∧
      (openApi3.trackerAt ⟨["components", "requestBodies", "x"]⟩).current =
        some (openApi3.stateOf .requestBodyDef) ∧
      (openApi3.trackerAt ⟨["components", "requestBodies", "x-y"]⟩).site = .offRoad := by
  have h : (["components", "requestBodies"], .requestBodyDef) ∈ openApi3.definitionContainers := by
    decide
  obtain ⟨hcurrent, -⟩ := reaches_definition h "x"
  obtain ⟨hcurrent', hsite⟩ := reaches_definition h "x-y"
  refine ⟨h, hcurrent.mpr ⟨by decide, by simp, by decide⟩, hsite.trans (if_neg fun heq => ?_)⟩
  exact (hcurrent'.mp heq).2.2 (by decide)

end Dialect

end ApiBundle
