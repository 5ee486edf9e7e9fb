import ApiBundle.Proofs.Pointer.Text
import ApiBundle.Proofs.Text.Percent
import ApiBundle.Proofs.Uri.Document
import ApiBundle.Reference

/-!
# What resolving makes of a reference

Resolving and expanding a bare name decide the document and the place that a reference leads to. The
component stays that of the site. A fragment that is no pointer does not keep the document of a
reference from being asked for; a URL that is none does.
-/

namespace ApiBundle.Reference

variable {r : Reference} {text : String} {base : Option Uri} {c : Option Component}

@[simp]
theorem component_setUrl (u : Except String Uri) : (r.setUrl u).component = r.component := by
  cases u <;> rfl

@[simp]
theorem component_setFragment (fragment : String) :
    (r.setFragment fragment).component = r.component := by
  unfold setFragment
  split <;> rfl

@[simp]
theorem component_resolve : (resolve text base c).component = c := by
  unfold resolve
  rcases cutFragment text with ⟨part, _ | fragment⟩ <;> simp

@[simp]
theorem component_expandName : r.expandName.component = r.component := by
  unfold expandName expandName?
  cases r.simpleTarget? <;> rfl

@[simp]
theorem url_setFragment (fragment : String) : (r.setFragment fragment).url = r.url := by
  unfold setFragment
  split <;> rfl

/-! ## The document that a reference leads into -/

theorem documentRef_documentRef : r.documentRef.documentRef = r.documentRef := by
  unfold documentRef
  cases r.error with
  | none => rfl
  | some e => cases e <;> rfl

/-- A fragment that is no pointer leaves the document alone. -/
theorem error_documentRef_setFragment (fragment : String) :
    (r.setFragment fragment).documentRef.error = r.documentRef.error := by
  unfold setFragment
  split
  · rfl
  · unfold markInvalid documentRef
    cases r.error <;> rfl

/-- A reference that was given a URL leads to a document that can be asked for. -/
theorem error_documentRef_resolve {url : Uri} (h : (resolve text base c).url = some url) :
    (resolve text base c).documentRef.error = none := by
  unfold resolve at h ⊢
  generalize cutFragment text = pieces at h ⊢
  obtain ⟨part, fragment⟩ := pieces
  have located : ∀ r : Reference, r.error = none → r.url = none →
      (r.setUrl (resolveUrl part base)).url = some url →
      (r.setUrl (resolveUrl part base)).documentRef.error = none := by
    intro r hr hnone hurl
    cases hu : resolveUrl part base with
    | ok u => simp [setUrl, documentRef, hr]
    | error e => simp [hu, setUrl, markInvalid, hnone] at hurl
  cases fragment with
  | none => exact located _ rfl rfl h
  | some fragment =>
    simp only at h ⊢
    rw [url_setFragment] at h
    rw [error_documentRef_setFragment]
    exact located _ rfl rfl h

/-! ## Identities -/

/-- The identity of a place in the document of a URL. -/
def placeId (url : String) (p : Pointer) : RefId := ⟨url, if p.isRoot then none else some p.text⟩

/-- Different places have different identities. -/
theorem placeId_eq_iff {url url' : String} {p q : Pointer} :
    placeId url p = placeId url' q ↔ url = url' ∧ p = q := by
  constructor
  · intro h
    refine ⟨congrArg RefId.url h, ?_⟩
    have hfragment : (if p.isRoot then none else some p.text) =
        if q.isRoot then none else some q.text := congrArg RefId.fragment h
    by_cases hp : p.isRoot
    · by_cases hq : q.isRoot
      · rw [Pointer.isRoot_iff.mp hp, Pointer.isRoot_iff.mp hq]
      · simp [hp, hq] at hfragment
    · by_cases hq : q.isRoot
      · simp [hp, hq] at hfragment
      · simp only [hp, hq, Bool.false_eq_true, if_false, Option.some.injEq] at hfragment
        exact Pointer.text_inj hfragment
  · rintro ⟨rfl, rfl⟩
    rfl

theorem eq_of_id_atPointer {u v : Uri} {p q : Pointer}
    (h : (atPointer u p).id = (atPointer v q).id) :
    u.withoutFragment.text = v.withoutFragment.text ∧ p = q :=
  placeId_eq_iff.mp h

/-! ## Sharp references -/

/-- The document and the place of a reference are what its identity says. -/
structure Sharp (r : Reference) (u : Uri) : Prop where
  url : r.url = some u
  urlText : r.urlText = u.text
  whole : u.withoutFragment = u
  fragment : r.fragment = if r.pointer.isRoot then none else some r.pointer.text

namespace Sharp

variable {u : Uri}

theorem withComponent (h : r.Sharp u) (c : Option Component) : (r.withComponent c).Sharp u :=
  ⟨h.url, h.urlText, h.whole, h.fragment⟩

/-- The identity of a sharp reference is that of its document and place. -/
theorem id_eq (h : r.Sharp u) : r.id = (atPointer u r.pointer).id := by
  simp only [id, atPointer, h.whole, h.urlText, h.fragment]

theorem pointer_of_fragment (h : r.Sharp u) {f : String} (hf : r.fragment = some f) :
    Pointer.parse f = .ok r.pointer := by
  rw [h.fragment] at hf
  split at hf
  · cases hf
  · cases hf
    exact Pointer.parse_text _

theorem pointer_of_whole (h : r.Sharp u) (hf : r.fragment = none) : r.pointer = .root := by
  rw [h.fragment] at hf
  split at hf
  · next hroot => exact Pointer.isRoot_iff.mp hroot
  · cases hf

end Sharp

/-- What resolving a URL gives is the URL of a whole document. -/
theorem withoutFragment_of_resolveUrl {part : String} {u : Uri}
    (h : resolveUrl part base = .ok u) : u.withoutFragment = u := by
  unfold resolveUrl at h
  simp only at h
  split at h
  · split at h
    · cases h
      exact Uri.withoutFragment_withoutFragment _
    · cases h
  · split at h
    · cases h
      exact Uri.withoutFragment_withoutFragment _
    · cases h

theorem url_expandName : r.expandName.url = r.url := by
  unfold expandName expandName?
  cases r.simpleTarget? <;> rfl

/-- The URL of a reference that was resolved is that of a whole document. -/
theorem withoutFragment_of_resolve {u : Uri} (h : (resolve text base c).url = some u) :
    u.withoutFragment = u := by
  have located : ∀ {r : Reference} {part : String}, r.url = none →
      (r.setUrl (resolveUrl part base)).url = some u → u.withoutFragment = u := by
    intro r part hnone hurl
    cases hu : resolveUrl part base with
    | ok u' =>
      rw [hu] at hurl
      cases hurl
      exact withoutFragment_of_resolveUrl hu
    | error e =>
      rw [hu] at hurl
      simp [setUrl, markInvalid, hnone] at hurl
  unfold resolve at h
  generalize cutFragment text = pieces at h
  obtain ⟨part, fragment⟩ := pieces
  cases fragment with
  | none => exact located rfl h
  | some f =>
    simp only [url_setFragment] at h
    exact located rfl h

/-- A reference whose URL was resolved is sharp up to its place. -/
theorem located_resolve (h : ∀ detail, (resolve text base c).error ≠ some (.malformedUrl detail)) :
    ∃ u, (resolve text base c).url = some u ∧ (resolve text base c).urlText = u.text ∧
      u.withoutFragment = u := by
  have fragmentless : ∀ {r : Reference} {part : String}, r.error = none →
      (∀ detail, (r.setUrl (resolveUrl part base)).error ≠ some (.malformedUrl detail)) →
      ∃ u, (r.setUrl (resolveUrl part base)).url = some u ∧
        (r.setUrl (resolveUrl part base)).urlText = u.text ∧ u.withoutFragment = u := by
    intro r part hr herr
    cases hu : resolveUrl part base with
    | ok u => exact ⟨u, rfl, rfl, withoutFragment_of_resolveUrl hu⟩
    | error detail =>
      rw [hu] at herr
      exact absurd (by simp [setUrl, markInvalid, hr]) (herr detail)
  unfold resolve at h ⊢
  generalize cutFragment text = pieces at h ⊢
  obtain ⟨part, fragment⟩ := pieces
  cases fragment with
  | none => exact fragmentless rfl h
  | some f =>
    simp only [setFragment] at h ⊢
    split
    · next hp =>
      simp only [hp] at h
      exact fragmentless rfl h
    · next hp =>
      simp only [hp] at h
      refine fragmentless rfl fun detail heq => h detail ?_
      simp only [markInvalid, heq, Option.some_or]

theorem cutFragment_ne_empty {part f : String} (h : cutFragment text = (part, some f)) :
    f.toList ≠ [] := by
  unfold cutFragment at h
  simp only [Prod.mk.injEq] at h
  obtain ⟨cs, hcs, rfl⟩ := Option.map_eq_some_iff.mp h.2
  have hne := (Option.filter_eq_some_iff.mp hcs).2
  rw [String.toList_ofList]
  rintro rfl
  simp at hne

/-- A fragment that is a pointer is the text of the place. -/
theorem fragment_setFragment {f : String} (hne : f.toList ≠ [])
    (h : (r.setFragment f).error = none) : (r.setFragment f).fragment =
      if (r.setFragment f).pointer.isRoot then none else some (r.setFragment f).pointer.text := by
  have hp : ∃ p, Pointer.ofFragment f = .ok p := by
    cases hp : Pointer.ofFragment f with
    | ok p => exact ⟨p, rfl⟩
    | error e =>
      simp only [setFragment, hp, markInvalid] at h
      cases (Option.or_eq_none_iff.mp h).2
  obtain ⟨p, hp⟩ := hp
  have hroot : p.isRoot = false := by
    refine Bool.eq_false_iff.mpr fun hroot => hne ?_
    have htext := Pointer.text_of_parse (show Pointer.parse _ = .ok p from hp)
    rw [Pointer.isRoot_iff.mp hroot] at htext
    refine Percent.eq_nil_of_decode ?_
    have hchars := congrArg String.toList htext
    simpa [Pointer.root, Pointer.text, Pointer.chars] using hchars.symm
  simp only [setFragment, hp, hroot, Bool.false_eq_true, if_false]

/-- A reference that was resolved without a fault is sharp. -/
theorem sharp_resolve (h : (resolve text base c).error = none) :
    ∃ u, (resolve text base c).Sharp u := by
  obtain ⟨u, hurl, htext, hwhole⟩ := located_resolve fun detail heq => by rw [h] at heq; cases heq
  refine ⟨u, hurl, htext, hwhole, ?_⟩
  unfold resolve at h ⊢
  cases hcut : cutFragment text with
  | mk part fragment =>
    rw [hcut] at h
    cases fragment with
    | none =>
      simp only
      unfold setUrl
      split <;> rfl
    | some f => exact fragment_setFragment (cutFragment_ne_empty hcut) h

/-- A bare name leads to the member of that name in the container of the component. -/
theorem simpleTarget?_cases {target : String × Pointer} (h : r.simpleTarget? = some target) :
    ∃ container name, (r.component.bind fun c => c.info.container) = some container ∧
      r.fragment = some name ∧ isSimpleName name.toList = true ∧
      target.1 = container ++ "/" ++ name ∧ Pointer.parse target.1 = .ok target.2 := by
  unfold simpleTarget? at h
  obtain ⟨container, hcontainer, h⟩ := Option.bind_eq_some_iff.mp h
  obtain ⟨name, hname, h⟩ := Option.bind_eq_some_iff.mp h
  simp only at h
  split at h
  · next hsimple =>
    obtain ⟨p, hp, hsome⟩ := Option.bind_eq_some_iff.mp h
    cases hsome
    refine ⟨container, name, hcontainer, hname, hsimple, rfl, ?_⟩
    cases hc : Pointer.parse (container ++ "/" ++ name) with
    | error e => simp [hc, Except.toOption] at hp
    | ok p' =>
      rw [hc] at hp
      exact congrArg _ (Option.some.inj hp)
  · cases h

/-- Where a bare name leads is no document, and is told by its text. -/
theorem text_of_simpleTarget? {target : String × Pointer} (h : r.simpleTarget? = some target) :
    target.2.isRoot = false ∧ target.2.text = target.1 := by
  obtain ⟨container, name, -, -, -, htarget, hparse⟩ := simpleTarget?_cases h
  have htext := Pointer.text_of_parse hparse
  refine ⟨Bool.eq_false_iff.mpr fun hroot => ?_, htext⟩
  rw [Pointer.isRoot_iff.mp hroot, htarget] at htext
  have hchars := congrArg String.toList htext
  simp [Pointer.root, Pointer.text, Pointer.chars] at hchars

/-- The same for a bare name that was expanded. -/
theorem sharp_expandName (h : (resolve text base c).expandName.error = none) :
    ∃ u, (resolve text base c).expandName.Sharp u := by
  generalize hr : resolve text base c = r at h ⊢
  unfold expandName expandName? at h ⊢
  cases htarget : r.simpleTarget? with
  | none =>
    rw [htarget] at h
    subst hr
    exact sharp_resolve h
  | some target =>
    rw [htarget] at h
    obtain ⟨u, hurl, hurlText, hwhole⟩ : ∃ u, r.url = some u ∧ r.urlText = u.text ∧
        u.withoutFragment = u := by
      subst hr
      refine located_resolve fun detail heq => ?_
      simp [heq] at h
    refine ⟨u, hurl, hurlText, hwhole, ?_⟩
    obtain ⟨hroot, htext⟩ := text_of_simpleTarget? htarget
    simp [hroot, htext]

/-! ## References within a document -/

theorem mem_escapeToken {cs : List Char} {x : Char} (h : x ∈ Pointer.escapeToken cs) :
    x ∈ cs ∨ x = '~' ∨ x = '0' ∨ x = '1' := by
  induction cs with
  | nil => cases h
  | cons c cs ih =>
    unfold Pointer.escapeToken at h
    repeat' split at h
    all_goals
      simp only [List.mem_cons] at h ⊢
      grind

/-- A place whose tokens need no percent escapes is read from its text as it stands. -/
theorem ofFragment_text {p : Pointer}
    (h : ∀ token ∈ p.tokens, ∀ c ∈ token.toList, Percent.IsPlain c) :
    Pointer.ofFragment p.text = .ok p := by
  have hplain : ∀ c ∈ p.text.toList, Percent.IsPlain c := by
    intro c hc
    unfold Pointer.text Pointer.chars at hc
    rw [String.toList_ofList] at hc
    obtain ⟨token, htoken, hc⟩ := List.mem_flatMap.mp hc
    rcases List.mem_cons.mp hc with rfl | hc
    · unfold Percent.IsPlain
      decide
    · rcases mem_escapeToken hc with hc | rfl | rfl | rfl
      · exact h token htoken c hc
      all_goals
        unfold Percent.IsPlain
        decide
  unfold Pointer.ofFragment
  rw [Percent.decode_of_plain hplain, String.ofList_toList, Pointer.parse_text]

/-- The fragments of places are no bare names. -/
theorem expandName_eq_self {f : String} (hf : r.fragment = some f) (hslash : '/' ∈ f.toList) :
    r.expandName = r := by
  have hcomplex : isSimpleName f.toList = false := by
    have hall : f.toList.all (fun c => isNameEnd c || c = '-') = false :=
      List.all_eq_false.mpr ⟨'/', hslash, by decide⟩
    simp [isSimpleName, hall]
  have hnone : r.simpleTarget? = none := by
    unfold simpleTarget?
    simp [hf, hcomplex]
  simp [expandName, expandName?, hnone]

/-- A reference that is a fragment only stays in its document. -/
theorem resolve_hash {f : String} (hf : f.toList ≠ []) (u : Uri) (c : Option Component) :
    resolve ("#" ++ f) (some u) c = setFragment ⟨"#" ++ f, some u.withoutFragment,
      u.withoutFragment.text, some f, .root, c, none⟩ f := by
  have hcut : cutFragment ("#" ++ f) = ("", some f) := by
    unfold cutFragment
    rw [String.toList_append]
    simp [Text.cut, Option.filter, hf]
  unfold resolve
  rw [hcut]
  simp [resolveUrl, setUrl]

theorem text_toList_ne_nil {p : Pointer} (hp : p ≠ .root) : p.text.toList ≠ [] := fun hnil =>
  hp (Pointer.text_eq_empty (String.toList_inj.mp (by simpa using hnil)))

/-- A reference to a place of the document that it stands in. -/
theorem resolve_here {p : Pointer} (hp : p ≠ .root)
    (h : ∀ token ∈ p.tokens, ∀ c ∈ token.toList, Percent.IsPlain c) (u : Uri)
    (c : Option Component) :
    resolve ("#" ++ p.text) (some u) c = ⟨"#" ++ p.text, some u.withoutFragment,
      u.withoutFragment.text, some p.text, p, c, none⟩ := by
  rw [resolve_hash (text_toList_ne_nil hp)]
  simp [setFragment, ofFragment_text h]

end ApiBundle.Reference
