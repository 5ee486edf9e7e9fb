import ApiBundle.Proofs.Dialect.Routes
import ApiBundle.Proofs.Registry.Slots
import ApiBundle.Proofs.Tree.Dressed

/-!
# Canonical documents

A document is canonical if its references are those of a bundled document: each one stands where the
dialect knows references to content of some component, and leads to a definition of that component
in the document itself (`Dialect.Canonical`). Content is scanned in the same way where it is defined
and where it is referred to (`Dialect.StandsIn`), and nothing is defined where a reference may
stand, or below it.
-/

namespace ApiBundle

namespace Dialect

/-- Content of a component is defined at a place of a document. -/
structure Defines (d : Dialect) (tree : Json) (c : Component) (p : Pointer) : Prop where
  found : (tree.follow? p.keys).isSome
  component : (d.machine.run (some d.model) p.keys).bind d.definedAt? = some c

/-- A component that is referred to, without merging what is beside the reference. -/
structure IsCited (c : Component) : Prop where
  conforming : c.info.conforming = true
  unmerged : c.info.merge = false

/--
A reference node that has nothing but its text, which is the place of a definition in the container
of a component.
-/
def Cites (d : Dialect) (tree : Json) (c : Component) (x : Json) : Prop :=
  ∃ container home name, c.info.container = some container ∧ Pointer.parse container = .ok home ∧
    x = Json.refNode ("#" ++ container ++ "/" ++ name) ∧ d.Defines tree c (home.push name)

/-- Every reference node stands at a site of a component and leads to a definition of it. -/
def Canonical (d : Dialect) (tree : Json) : Prop :=
  ∀ path x, tree.follow? path = some x → x.isRefNode = true →
    ∃ c, (d.machine.run (some d.model) path).bind d.machine.tag = some c ∧ IsCited c ∧
      d.Cites tree c x

variable {d : Dialect} {tree x : Json} {c : Component} {p home : Pointer}
  {path rest : List Segment} {q q' : Option Nat}

/-! ## Components -/

/-- What is referred to without merging defines nothing itself, and has a container. -/
theorem IsCited.info_eq (h : IsCited c) :
    ∃ container containers, c.info = .site container containers := by
  obtain ⟨hconforming, hunmerged⟩ := h
  obtain ⟨d, k⟩ := c
  cases d <;> cases k <;> first
    | exact ⟨_, _, rfl⟩
    | exact absurd hconforming (by decide)
    | exact absurd hunmerged (by decide)

theorem IsCited.defined?_eq_none (h : IsCited c) : c.defined? = none := by
  obtain ⟨container, containers, hinfo⟩ := h.info_eq
  unfold Component.defined?
  rw [hinfo]
  rfl

/-- Without inlining, a valid reference at such a site is hoisted. -/
theorem IsCited.treatment (h : IsCited c) {r : Reference} {o : Options}
    (hvalid : r.error = none) (hc : r.component = some c) (hinlined : o.inlined = []) :
    r.treatment o = .localize := by
  obtain ⟨container, containers, hinfo⟩ := h.info_eq
  simp [Reference.treatment, Reference.isValid, Options.inlines, hvalid, hc, hinlined, hinfo,
    ComponentInfo.site]

/-! ## Definitions -/

namespace Defines

theorem mem_components (h : d.Defines tree c p) : c ∈ d.components := by
  obtain ⟨q, -, hc⟩ := Option.bind_eq_some_iff.mp h.component
  exact mem_components_of_definedAt? hc

/-- A definition is a member of the container of its component. -/
theorem place (h : d.Defines tree c p) : ∃ home name, c.container? = some home ∧
    p = home.push name ∧ ∀ location, c.preferredName p location = name := by
  obtain ⟨q, hq, hc⟩ := Option.bind_eq_some_iff.mp h.component
  obtain ⟨home, name, hhome, hkeys, hnamed⟩ := place_of_definition hq hc
  rw [← Pointer.keys_push] at hkeys
  have hp := Pointer.keys_inj hkeys
  exact ⟨home, name, hhome, hp, hp ▸ hnamed⟩

end Defines

/-- The place of a definition that references lead to. -/
structure Citable (d : Dialect) (tree : Json) (c : Component) (p : Pointer) : Prop
    extends d.Defines tree c p where
  inside : p ≠ .root
  plain : ∀ token ∈ p.tokens, ∀ c ∈ token.toList, Percent.IsPlain c
  named : refKey ∉ p.tokens

theorem refKey_notMem_tokens (hp : p ∈ d.homes) : refKey ∉ p.tokens := by
  have key : ∀ d ∈ [swagger2, openApi3], ∀ p ∈ d.homes, refKey ∉ p.tokens := by decide +kernel
  exact key d (by cases d <;> simp) p hp

/-- Nothing is defined at what would make its container a reference node. -/
theorem Defines.refKey_notMem (h : d.Defines tree c p) : refKey ∉ p.tokens := by
  obtain ⟨home, name, hhome, rfl, -⟩ := h.place
  obtain ⟨q, hq, hc⟩ := Option.bind_eq_some_iff.mp h.component
  rw [Pointer.keys_push] at hq
  intro href
  rcases List.mem_append.mp href with hfront | hlast
  · exact refKey_notMem_tokens (mem_homes h.mem_components hhome) hfront
  · exact ne_refKey_of_definition hq hc (List.mem_singleton.mp hlast).symm

theorem Defines.isName {name : String} (h : d.Defines tree c (home.push name)) (hc : IsCited c) :
    IsName name := by
  obtain ⟨container, containers, hinfo⟩ := hc.info_eq
  have hnaming : c.info.naming = .container containers := by rw [hinfo]; rfl
  obtain ⟨home', name', -, hplace, hnamed⟩ := h.place
  have htokens := (List.append_inj' (congrArg Pointer.tokens hplace) rfl).2
  rw [List.singleton_inj.mp htokens, ← hnamed none]
  exact Component.isName_preferredName hnaming _ none

theorem Defines.citable (h : d.Defines tree c p) (hc : IsCited c) : d.Citable tree c p := by
  obtain ⟨home, name, hhome, rfl, -⟩ := h.place
  have hname := h.isName hc
  have hmem : home ∈ d.homes := mem_homes h.mem_components hhome
  refine ⟨h, Pointer.push_ne_root _ _, Registry.isPlain_push hmem hname, fun href => ?_⟩
  rcases List.mem_append.mp href with hhome | hlast
  · exact refKey_notMem_tokens hmem hhome
  · have hdollar : IsName refKey := List.mem_singleton.mp hlast ▸ hname
    exact absurd hdollar (by decide)

theorem Citable.key_notMem (h : d.Citable tree c p) : .key refKey ∉ p.keys :=
  Pointer.key_notMem_keys h.named

/-- What a reference node of a canonical document looks like. -/
theorem Cites.eq_refNode (h : d.Cites tree c x) (hc : IsCited c) :
    ∃ p, d.Citable tree c p ∧ x = Json.refNode ("#" ++ p.text) := by
  obtain ⟨container, home, name, -, hparse, rfl, hdefines⟩ := h
  refine ⟨home.push name, hdefines.citable hc, ?_⟩
  have hescape : Pointer.escape name = name := Pointer.escape_eq fun c hchar => by
    constructor <;> rintro rfl <;> exact absurd (hdefines.isName hc _ hchar) (by decide)
  rw [Pointer.text_push, hescape, Pointer.text_of_parse hparse]
  simp [String.append_assoc]

/-- The references of a canonical document are written out. -/
theorem Canonical.direct (h : d.Canonical tree) (hwf : tree.WellFormed) :
    tree.Throughout Json.Direct := by
  refine Json.throughout_of_follow? hwf fun path x hx href => ?_
  obtain ⟨c, -, hc, hcites⟩ := h path x hx href
  obtain ⟨p, -, rfl⟩ := hcites.eq_refNode hc
  exact ⟨p, rfl⟩

/-! ## States -/

/-- Nothing is defined where a reference stands, or below it. -/
theorem IsCited.unnested (h : IsCited c) (rest : List Segment)
    (htag : (d.machine.run (some d.model) path).bind d.machine.tag = some c) :
    (d.machine.run (some d.model) (path ++ rest)).bind d.definedAt? = none := by
  cases hdefined : (d.machine.run (some d.model) (path ++ rest)).bind d.definedAt? with
  | none => rfl
  | some c' =>
    obtain ⟨q, hq, hc'⟩ := Option.bind_eq_some_iff.mp hdefined
    obtain ⟨home, name, hhome, hway, -⟩ := place_of_definition hq hc'
    have hmem : home ∈ d.homes := mem_homes (mem_components_of_definedAt? hc') hhome
    rcases List.eq_nil_or_concat rest with rfl | ⟨front, last, rfl⟩
    · rw [List.append_nil] at hq
      rw [hq, Option.bind_some] at htag
      unfold definedAt? at hc'
      rw [htag, Option.bind_some, h.defined?_eq_none] at hc'
      cases hc'
    · rw [List.concat_eq_append, ← List.append_assoc] at hway
      have hfront := (List.append_inj' hway rfl).1
      have hmerge := merge_of_prefix hmem ⟨front, hfront⟩ htag h.conforming
      rw [h.unmerged] at hmerge
      cases hmerge

/--
A state that content is scanned from: the one of its place, or that of a site where there is a
reference to what is defined at the place.
-/
inductive StandsIn (d : Dialect) : Option Nat → Option Nat → Prop where
  | same (q : Option Nat) : StandsIn d q q
  | site {site q : Nat} {c : Component} (tag : d.machine.tag site = some c) (cited : IsCited c)
      (defined : d.definedAt? q = some c) : StandsIn d (some site) (some q)

namespace StandsIn

theorem step (h : d.StandsIn q q') (segment : Segment) :
    q.bind (d.machine.step · segment) = q'.bind (d.machine.step · segment) := by
  cases h with
  | same => rfl
  | site tag cited defined => exact congrFun (step_eq_of_definition tag defined) segment

/-- References are met in the state of their place only. -/
theorem eq_of_tag (h : d.StandsIn q q') (htag : q'.bind d.machine.tag = some c) (hc : IsCited c) :
    q = q' := by
  cases h with
  | same => rfl
  | @site site q c' tag cited defined =>
    obtain ⟨tag', htag', hdefined⟩ := Option.bind_eq_some_iff.mp defined
    cases htag.symm.trans htag'
    rw [hc.defined?_eq_none] at hdefined
    cases hdefined

/-- Definitions are met in the state of their place only. -/
theorem eq_of_defined (h : d.StandsIn q q') (hc : q.bind d.definedAt? = some c) : q = q' := by
  cases h with
  | same => rfl
  | @site site q c' tag cited defined =>
    obtain ⟨tag', htag', hdefined⟩ := Option.bind_eq_some_iff.mp
      (show d.definedAt? site = some c from hc)
    cases tag.symm.trans htag'
    rw [cited.defined?_eq_none] at hdefined
    cases hdefined

end StandsIn

end Dialect

end ApiBundle
