import ApiBundle.Proofs.Reference.Wearing

/-!
# Reading adorned references back

A node that was adorned gives its reference back, whatever stands beside the text and whatever
adornment was there before. What an adornment does not tell is where a reference leads if something
is wrong with it: its place is read off the fragment, and its URL is parsed again.
-/

namespace ApiBundle

theorem Component.ofJson?_toJson {c : Component} (h : c ∈ c.dialect.components) :
    ofJson? c.toJson = some c := by
  have swagger2 : ∀ c ∈ Dialect.swagger2.components, ofJson? c.toJson = some c := by
    decide +kernel
  have openApi3 : ∀ c ∈ Dialect.openApi3.components, ofJson? c.toJson = some c := by
    decide +kernel
  cases hd : c.dialect with
  | swagger2 => exact swagger2 c (hd ▸ h)
  | openApi3 => exact openApi3 c (hd ▸ h)

namespace Reference

variable {r : Reference}

/-- The references that are made from texts and places, and what becomes of them. -/
inductive Built : Reference → Prop where
  | resolve (text : String) (base : Option Uri) {c : Option Component}
      (hc : ∀ c' ∈ c, c' ∈ c'.dialect.components) : Built (Reference.resolve text base c)
  | forDocument (u : Uri) : Built (Reference.forDocument u)
  | atPointer (u : Uri) (p : Pointer) : Built (Reference.atPointer u p)
  | documentRef {r : Reference} (h : Built r) : Built r.documentRef
  | expandName {r : Reference} (h : Built r) : Built r.expandName
  | withComponent {r : Reference} (h : Built r) {c : Option Component}
      (hc : ∀ c' ∈ c, c' ∈ c'.dialect.components) : Built (r.withComponent c)
  | markInvalid {r : Reference} (h : Built r) (e : ReferenceError) : Built (r.markInvalid e)

/--
A reference has a URL unless that is what is wrong with it, and a place that its fragment tells
unless something is wrong.
-/
structure Consistent (r : Reference) : Prop where
  located : (∃ u, r.url = some u ∧ r.urlText = u.text ∧ u.withoutFragment = u) ∨
    ∃ detail, r.error = some (.malformedUrl detail)
  placed : r.error = none → r.fragment = if r.pointer.isRoot then none else some r.pointer.text
  component : ∀ c ∈ r.component, c ∈ c.dialect.components

theorem consistent_resolve (text : String) (base : Option Uri) {c : Option Component}
    (hc : ∀ c' ∈ c, c' ∈ c'.dialect.components) : (resolve text base c).Consistent where
  located := by
    by_cases hbad : ∃ detail, (resolve text base c).error = some (.malformedUrl detail)
    · exact .inr hbad
    · exact .inl (located_resolve fun detail heq => hbad ⟨detail, heq⟩)
  placed hvalid := (sharp_resolve hvalid).choose_spec.fragment
  component := by
    rw [component_resolve]
    exact hc

theorem consistent_atPointer (u : Uri) (p : Pointer) : (atPointer u p).Consistent where
  located := .inl ⟨_, rfl, rfl, Uri.withoutFragment_withoutFragment u⟩
  placed _ := rfl
  component := nofun

namespace Consistent

theorem documentRef (h : r.Consistent) : r.documentRef.Consistent where
  located := by
    rcases h.located with hurl | ⟨detail, herror⟩
    · exact .inl hurl
    · exact .inr ⟨detail, by simp [Reference.documentRef, herror]⟩
  placed _ := rfl
  component := nofun

theorem expandName (h : r.Consistent) : r.expandName.Consistent := by
  unfold Reference.expandName expandName?
  cases htarget : r.simpleTarget? with
  | none => exact h
  | some target =>
    obtain ⟨hroot, htext⟩ := text_of_simpleTarget? htarget
    refine ⟨?_, fun _ => ?_, h.component⟩
    · rcases h.located with hurl | ⟨detail, herror⟩
      · exact .inl hurl
      · exact .inr ⟨detail, by simp [herror]⟩
    · simp [hroot, htext]

theorem withComponent (h : r.Consistent) {c : Option Component}
    (hc : ∀ c' ∈ c, c' ∈ c'.dialect.components) : (r.withComponent c).Consistent :=
  ⟨h.located, h.placed, hc⟩

theorem markInvalid (h : r.Consistent) (e : ReferenceError) : (r.markInvalid e).Consistent where
  located := by
    rcases h.located with hurl | ⟨detail, herror⟩
    · exact .inl hurl
    · exact .inr ⟨detail, by simp [Reference.markInvalid, herror]⟩
  placed hvalid := h.placed (Option.or_eq_none_iff.mp hvalid).1
  component := h.component

theorem sharp (h : r.Consistent) (hvalid : r.error = none) : ∃ u, r.Sharp u := by
  rcases h.located with ⟨u, hurl, htext, hwhole⟩ | ⟨detail, herror⟩
  · exact ⟨u, hurl, htext, hwhole, h.placed hvalid⟩
  · rw [hvalid] at herror
    cases herror

theorem component_kept (h : r.Consistent) : r.kept.component = r.component := by
  show (r.component.bind fun c => Component.ofJson? c.toJson) = r.component
  cases hc : r.component with
  | none => rfl
  | some c => exact Component.ofJson?_toJson (h.component c hc)

end Consistent

theorem Built.consistent (h : Built r) : r.Consistent := by
  induction h with
  | resolve text base hc => exact consistent_resolve text base hc
  | forDocument u => exact consistent_resolve u.text none nofun
  | atPointer u p => exact consistent_atPointer u p
  | documentRef _ ih => exact ih.documentRef
  | expandName _ ih => exact ih.expandName
  | withComponent _ hc ih => exact ih.withComponent hc
  | markInvalid _ e ih => exact ih.markInvalid e

/-- A reference has the identity of another one, and the same is done with it. -/
structure StandsFor (r' r : Reference) : Prop where
  text : r'.text = r.text
  urlText : r'.urlText = r.urlText
  fragment : r'.fragment = r.fragment
  component : r'.component = r.component
  error : r'.error = r.error
  id : r'.id = r.id
  treatment : ∀ o, r'.treatment o = r.treatment o
  pointer : r.error = none → r'.pointer = r.pointer
  /-- That the text of a URL is read as the URL is no law of URLs, only of those that are read. -/
  url : r.error = none → (∀ u, r.url = some u → Uri.parse u.text = .ok u) → r'.url = r.url

theorem Consistent.standsFor_kept (h : r.Consistent) : r.kept.StandsFor r where
  text := rfl
  urlText := rfl
  fragment := rfl
  component := h.component_kept
  error := recordedError_adornment r
  id := rfl
  treatment _ := treatment_congr error_kept h.component_kept
  pointer hvalid := by
    obtain ⟨u, hsharp⟩ := h.sharp hvalid
    exact hsharp.pointer_eq
  url hvalid hread := by
    obtain ⟨u, hsharp⟩ := h.sharp hvalid
    rw [hsharp.kept_eq (hread u hsharp.url) hvalid]
    rfl

/-- What a node is adorned with is what it gives back. -/
theorem Built.ofNode?_adorned (h : Built r) {node : Json} {text : String}
    (hnode : node.refText? = some text) :
    ∃ r', ofNode? (Scan.adorned node r) = some r' ∧ r'.StandsFor r :=
  ⟨r.kept, (Scan.holds_adorned hnode r).ofNode?, h.consistent.standsFor_kept⟩

/-- The same for a bare name that was expanded, beside other members and an older adornment. -/
theorem ofNode?_adorned_beside :
    ∃ r', ofNode? (Scan.adorned
        (.object [(adornmentKey, .object [("valid", .bool false)]),
          (refKey, .string "mem://a/o.json#T"), ("type", .string "string")])
        (resolve "mem://a/o.json#T" none (some ⟨.swagger2, .schema⟩)).expandName) = some r' ∧
      r'.error = none ∧ r'.id.text = "mem://a/o.json#/definitions/T" ∧
      r'.pointer = ⟨["definitions", "T"]⟩ ∧ r'.url.map Uri.text = some "mem://a/o.json" := by
  have hbuilt : Built (resolve "mem://a/o.json#T" none (some ⟨.swagger2, .schema⟩)).expandName :=
    .expandName (.resolve _ _ (by decide))
  have hnode : (Json.object [(adornmentKey, .object [("valid", .bool false)]),
      (refKey, .string "mem://a/o.json#T"), ("type", .string "string")]).refText? =
      some "mem://a/o.json#T" := by decide
  generalize hr : (resolve "mem://a/o.json#T" none (some ⟨.swagger2, .schema⟩)).expandName = r
    at hbuilt ⊢
  obtain ⟨r', hr', h⟩ := hbuilt.ofNode?_adorned hnode
  have hvalid : r.error = none := by
    subst hr
    decide +kernel
  have hread : ∀ u, r.url = some u → Uri.parse u.text = .ok u := by
    have hurl : r.url = some ⟨"mem", some (.ofHost (some (.name "a"))), "/o.json", none, none⟩ := by
      subst hr
      decide +kernel
    intro u hu
    rw [hurl] at hu
    cases hu
    rfl
  refine ⟨r', hr', h.error.trans hvalid, ?_, (h.pointer hvalid).trans ?_, ?_⟩
  · rw [h.id]
    subst hr
    decide +kernel
  · subst hr
    decide +kernel
  · rw [h.url hvalid hread]
    subst hr
    decide +kernel

end Reference

end ApiBundle
