import ApiBundle.Proofs.Pattern.Names
import ApiBundle.Proofs.Reference.Identity

/-!
# Bare names

Behind the first `#` of a reference, a bare name stands for the member of that name in the container
of the component. No bare name is a pointer, nor does it hold an escape, so resolving leaves it in
the fragment as it stands and records that it is no pointer. Expanding it gives what the long
spelling resolves to (`Reference.expandName?_resolve`): it takes back just that one failure, and
keeps the one of a URL that does not resolve.
-/

namespace ApiBundle

/-- A text in `[-A-Za-z0-9_]` that starts in `[A-Za-z_]` and ends in `[A-Za-z0-9_]`. -/
structure IsBareName (name : String) : Prop where
  first : ∃ c, name.toList.head? = some c ∧ (c.isAlpha ∨ c = '_')
  last : ∃ c, name.toList.getLast? = some c ∧ (c.isAlphanum ∨ c = '_')
  all : ∀ c ∈ name.toList, c.isAlphanum ∨ c = '_' ∨ c = '-'

theorem isSimpleName_iff {name : String} :
    Reference.isSimpleName name.toList = true ↔ IsBareName name := by
  simp only [Reference.isSimpleName, Reference.isNameStart, Reference.isNameEnd, Bool.and_eq_true,
    List.all_eq_true, Option.any_eq_true, Bool.or_eq_true, decide_eq_true_eq, or_assoc]
  constructor
  · rintro ⟨⟨all, first⟩, last⟩
    exact ⟨first, last, all⟩
  · rintro ⟨first, last, all⟩
    exact ⟨⟨all, first⟩, last⟩

/-! ## The pattern of bare names -/

namespace CharSet

def nameStarts : CharSet := ⟨[(65, 90), (95, 95), (97, 122)]⟩

def nameEnds : CharSet := ⟨[(48, 57), (65, 90), (95, 95), (97, 122)]⟩

def nameInsides : CharSet := ⟨[(45, 45), (48, 57), (65, 90), (95, 95), (97, 122)]⟩

theorem mem_nameStarts (c : Char) : nameStarts.mem c = Reference.isNameStart c :=
  mem_eq (by decide) (fun c h => by grind [isNameChar, Reference.isNameStart, Char.isAlphanum])
    (by decide) c

theorem mem_nameEnds (c : Char) : nameEnds.mem c = Reference.isNameEnd c :=
  mem_eq (by decide) (fun c h => by grind [isNameChar, Reference.isNameEnd]) (by decide) c

theorem mem_nameInsides (c : Char) :
    nameInsides.mem c = (Reference.isNameEnd c || c = '-') :=
  mem_eq (f := fun c => Reference.isNameEnd c || c = '-') (by decide)
    (fun c h => by grind [isNameChar, Reference.isNameEnd]) (by decide) c

end CharSet

open Pattern

def bareNameText : String := "^[_A-Za-z]([-A-Za-z0-9_]*[_A-Za-z0-9])?$"

/-- What may stand behind the first character. -/
def bareNameRest : Pattern :=
  repeated (seq (repeated (char .nameInsides) 0 none) (char .nameEnds)) 0 (some 1)

/-- The pattern that bare names have. -/
def bareNamePattern : Pattern :=
  seq (boundary .textStart)
    (seq (char .nameStarts) (seq bareNameRest (boundary .textEnd)))

theorem parse_bareNameText : Pattern.parse bareNameText = .ok bareNamePattern := by
  decide +kernel

/-- Behind its first character a bare name ends, or goes on up to a last one. -/
theorem isSimpleName_cons {c : Char} {cs : List Char} :
    Reference.isSimpleName (c :: cs) = true ↔ Reference.isNameStart c = true ∧
      (cs = [] ∨ ∃ ds e, cs = ds ++ [e] ∧
        (∀ d ∈ ds, Reference.isNameEnd d || d = '-') ∧ Reference.isNameEnd e = true) := by
  have hend : Reference.isNameStart c = true → Reference.isNameEnd c = true := by
    grind [Reference.isNameStart, Reference.isNameEnd, Char.isAlphanum]
  rcases List.eq_nil_or_concat' cs with rfl | ⟨ds, e, rfl⟩
  · grind [Reference.isSimpleName]
  · grind [Reference.isSimpleName]

theorem spans_bareNamePattern {before after : Option Char} {cs : List Char} :
    Spans bareNamePattern before cs after ↔
      before = none ∧ after = none ∧ Reference.isSimpleName cs = true := by
  simp only [bareNamePattern, bareNameRest, spans_textStart_seq, spans_char_seq, spans_seq_textEnd,
    spans_optional, spans_seq_char, spans_repeated_char, CharSet.mem_nameStarts,
    CharSet.mem_nameEnds, CharSet.mem_nameInsides]
  constructor
  · rintro ⟨hbefore, c, ds, rfl, hc, hafter, hds⟩
    exact ⟨hbefore, hafter, isSimpleName_cons.mpr ⟨hc, hds⟩⟩
  · rintro ⟨hbefore, hafter, hsimple⟩
    cases cs with
    | nil => simp [Reference.isSimpleName] at hsimple
    | cons c ds =>
      obtain ⟨hc, hds⟩ := isSimpleName_cons.mp hsimple
      exact ⟨hbefore, c, ds, rfl, hc, hafter, hds⟩

/-- The pattern occurs in the bare names, and in nothing else. -/
theorem occursIn_bareNamePattern {cs : List Char} :
    bareNamePattern.occursIn cs = true ↔ Reference.isSimpleName cs = true := by
  rw [occursIn_iff (by decide)]
  constructor
  · rintro ⟨lead, own, rest, rfl, h⟩
    obtain ⟨hlead, hrest, hown⟩ := spans_bareNamePattern.mp h
    cases List.getLast?_eq_none_iff.mp hlead
    cases List.head?_eq_none_iff.mp hrest
    simpa using hown
  · intro h
    exact ⟨[], cs, [], by simp, spans_bareNamePattern.mpr ⟨rfl, rfl, h⟩⟩

namespace IsBareName

variable {name : String}

theorem not_mem (h : IsBareName name) {c : Char} (hc : c.isAlphanum = false) (hscore : c ≠ '_')
    (hhyphen : c ≠ '-') : c ∉ name.toList := by
  intro hmem
  rcases h.all c hmem with h | h | h
  · rw [hc] at h
    cases h
  · exact hscore h
  · exact hhyphen h

theorem ne_empty (h : IsBareName name) : name ≠ "" := by
  rintro rfl
  obtain ⟨c, hc, -⟩ := h.first
  cases hc

theorem slash_not_mem (h : IsBareName name) : '/' ∉ name.toList :=
  h.not_mem (by decide) (by decide) (by decide)

theorem escape_eq (h : IsBareName name) : Pointer.escape name = name := by
  refine Pointer.escape_eq fun c hc => ⟨?_, ?_⟩
  · rintro rfl
    exact h.not_mem (by decide) (by decide) (by decide) hc
  · rintro rfl
    exact h.slash_not_mem hc

theorem decode_eq (h : IsBareName name) : Percent.decode name.toList = name.toList :=
  Percent.decode_eq_self.mpr
    (Percent.not_holdsEscape (h.not_mem (by decide) (by decide) (by decide)))

/-- A bare name is no pointer, and no escape turns it into one. -/
theorem ofFragment_eq (h : IsBareName name) :
    Pointer.ofFragment name = .error (.noSlash name) := by
  rw [Pointer.ofFragment, h.decode_eq, String.ofList_toList, Pointer.parse]
  split
  · next heq => exact absurd (String.toList_eq_nil_iff.mp heq) h.ne_empty
  · next heq => exact absurd (heq ▸ List.mem_cons_self ..) h.slash_not_mem
  · rfl

end IsBareName

/-- A pointer's text is no bare name. -/
theorem Pointer.not_isBareName_text (p : Pointer) : ¬IsBareName p.text := by
  intro h
  by_cases hp : p = .root
  · subst hp
    exact h.ne_empty rfl
  · exact h.slash_not_mem (Pointer.slash_mem_text hp)

/-- Containers are written as pointers, without escapes. -/
theorem Component.exists_container {c : Component} {container : String}
    (h : c.info.container = some container) :
    ∃ home, Pointer.parse container = .ok home ∧ '%' ∉ container.toList := by
  have key : ∀ d kind, (Dialect.info d kind).container.all (fun text =>
      (Pointer.parse text).toOption.isSome && decide ('%' ∉ text.toList)) = true := by
    intro d kind
    cases d <;> cases kind <;> decide
  have hcontainer := key c.dialect c.kind
  rw [show (Dialect.info c.dialect c.kind).container = some container from h, Option.all_some,
    Bool.and_eq_true, decide_eq_true_eq] at hcontainer
  obtain ⟨hparse, hsign⟩ := hcontainer
  cases hhome : Pointer.parse container with
  | ok home => exact ⟨home, rfl, hsign⟩
  | error e =>
    rw [hhome] at hparse
    cases hparse

namespace Reference

variable {r : Reference} {text part name container : String} {base : Option Uri}
  {c : Option Component}

/-- Where a bare name leads: to the member of the container. -/
theorem simpleTarget?_eq_some (hc : (c.bind fun c => c.info.container) = some container)
    (hname : IsBareName name) : ∃ p : Pointer, p.text = container ++ "/" ++ name ∧
      Pointer.ofFragment (container ++ "/" ++ name) = .ok p ∧
      ∀ r : Reference, r.component = c → r.fragment = some name →
        r.simpleTarget? = some (container ++ "/" ++ name, p) := by
  obtain ⟨component, rfl, hcontainer⟩ := Option.bind_eq_some_iff.mp hc
  obtain ⟨home, hhome, hsign⟩ := Component.exists_container hcontainer
  have htext : (home.push name).text = container ++ "/" ++ name := by
    rw [Pointer.text_push, Pointer.text_of_parse hhome, hname.escape_eq]
  have hparse : Pointer.parse (container ++ "/" ++ name) = .ok (home.push name) := by
    rw [← htext, Pointer.parse_text]
  have hplain : ¬Percent.HoldsEscape (container ++ "/" ++ name).toList := by
    refine Percent.not_holdsEscape ?_
    simp only [String.toList_append, List.mem_append, not_or]
    exact ⟨⟨hsign, by decide⟩, hname.not_mem (by decide) (by decide) (by decide)⟩
  refine ⟨home.push name, htext, ?_, fun r hcomponent hfragment => ?_⟩
  · rw [Pointer.ofFragment, Percent.decode_eq_self.mpr hplain, String.ofList_toList, hparse]
  · simp [simpleTarget?, hcomponent, hcontainer, hfragment, isSimpleName_iff.mpr hname, hparse,
      Except.toOption]

/-- A fragment that reads as a bare name is one, and stands so behind the first `#`. -/
theorem text_of_fragment (h : (resolve text base c).fragment = some name)
    (hname : IsBareName name) : ∃ part, '#' ∉ part.toList ∧ text = part ++ "#" ++ name := by
  cases hcut : cutFragment text with
  | mk part fragment =>
    obtain ⟨hpart, htext⟩ := eq_of_cutFragment hcut
    unfold resolve at h
    rw [hcut] at h
    cases fragment with
    | none =>
      cases hurl : resolveUrl part base <;> simp [hurl, setUrl, markInvalid] at h
    | some raw =>
      -- what is kept of a fragment is the text of its pointer, or the fragment as it stands
      refine ⟨part, hpart, ?_⟩
      have htext : text = part ++ "#" ++ raw := htext.resolve_left fun hno => by cases hno.1
      have hkept : keptFragment raw = name := by
        unfold keptFragment
        cases hurl : resolveUrl part base <;> cases hraw : Pointer.ofFragment raw <;>
          simpa [hurl, hraw, setUrl, setFragment, markInvalid] using h
      unfold keptFragment at hkept
      split at hkept
      · next p hp => exact absurd (hkept ▸ hname) p.not_isBareName_text
      · rw [htext, hkept]

/-- Expanding a bare name is resolving its long spelling, except that the text is kept. -/
theorem expandName?_resolve (hpart : '#' ∉ part.toList) (hname : IsBareName name)
    (hc : (c.bind fun c => c.info.container) = some container) :
    (resolve (part ++ "#" ++ name) base c).expandName? =
      some { resolve (part ++ "#" ++ (container ++ "/" ++ name)) base c with
        text := part ++ "#" ++ name } := by
  obtain ⟨p, htext, hlong, htarget⟩ := simpleTarget?_eq_some hc hname
  have hne : container ++ "/" ++ name ≠ "" := by
    intro heq
    simpa using congrArg String.toList heq
  have hshort : (resolve (part ++ "#" ++ name) base c).fragment = some name := by
    unfold resolve
    rw [cutFragment_append hpart, if_neg hname.ne_empty]
    cases hurl : resolveUrl part base <;>
      simp [hurl, setUrl, setFragment, markInvalid, hname.ofFragment_eq]
  rw [expandName?, htarget _ component_resolve hshort, Option.map_some]
  unfold resolve
  rw [cutFragment_append hpart, if_neg hname.ne_empty, cutFragment_append hpart, if_neg hne]
  -- the failure of the URL is recorded first, so it hides that of the fragment in both spellings
  cases hurl : resolveUrl part base <;>
    simp [hurl, setUrl, setFragment, markInvalid, hname.ofFragment_eq, hlong, htext]

/-- Only a bare name is expanded, and only for a component with a container. -/
theorem of_expandName?_isSome (h : r.expandName?.isSome) : ∃ name container,
    r.fragment = some name ∧ IsBareName name ∧
      (r.component.bind fun c => c.info.container) = some container := by
  rw [expandName?, Option.isSome_map] at h
  obtain ⟨target, htarget⟩ := Option.isSome_iff_exists.mp h
  obtain ⟨container, name, hcontainer, hname, hsimple, -⟩ := simpleTarget?_cases htarget
  exact ⟨name, container, hname, isSimpleName_iff.mp hsimple, hcontainer⟩

/-- The fragment of an expanded reference is a pointer, which is no bare name. -/
theorem expandName?_expandName : r.expandName.expandName? = none := by
  unfold expandName
  cases hexpand : r.expandName? with
  | none => exact hexpand
  | some r' =>
    obtain ⟨target, htarget, rfl⟩ := Option.map_eq_some_iff.mp hexpand
    refine Option.not_isSome_iff_eq_none.mp fun hagain => ?_
    obtain ⟨name, -, hfragment, hname, -⟩ := of_expandName?_isSome hagain
    have htext : target.2.text = name :=
      (text_of_simpleTarget? htarget).2.trans (Option.some.inj hfragment)
    exact target.2.not_isBareName_text (htext ▸ hname)

/-- What expanding bare names does to the reference that a text resolves to. -/
structure ExpandsNames (text : String) (base : Option Uri) (c : Option Component) : Prop where
  /-- Expanded is a bare name behind the first `#`, for a component with a container. -/
  expanded : (resolve text base c).expandName?.isSome ↔
    ∃ part name container, '#' ∉ part.toList ∧ text = part ++ "#" ++ name ∧ IsBareName name ∧
      (c.bind fun c => c.info.container) = some container
  /-- It becomes what the long spelling resolves to, and keeps its text. -/
  long : ∀ {part name container}, '#' ∉ part.toList → text = part ++ "#" ++ name →
    IsBareName name → (c.bind fun c => c.info.container) = some container →
    (resolve text base c).expandName =
      { resolve (part ++ "#" ++ (container ++ "/" ++ name)) base c with text := text }
  /-- A second time there is nothing to expand. -/
  again : (resolve text base c).expandName.expandName? = none
  /-- Any other reference is left as it is. -/
  unchanged : (resolve text base c).expandName? = none →
    (resolve text base c).expandName = resolve text base c

/-- Bare names are told by their pattern, and expanding them is resolving their long spelling. -/
theorem expandsNames :
    (∀ name : String, IsBareName name ↔
      ∃ p, Pattern.parse bareNameText = .ok p ∧ p.occursIn name.toList) ∧
    ∀ text base c, ExpandsNames text base c := by
  refine ⟨fun name => ?_, fun text base c => ?_⟩
  · rw [parse_bareNameText, ← isSimpleName_iff, ← occursIn_bareNamePattern]
    simp
  · refine
      { expanded := ⟨fun h => ?_, ?_⟩
        long := ?_
        again := expandName?_expandName
        unchanged := fun h => by rw [expandName, h, Option.getD_none] }
    · obtain ⟨name, container, hfragment, hname, hcontainer⟩ := of_expandName?_isSome h
      obtain ⟨part, hpart, htext⟩ := text_of_fragment hfragment hname
      rw [component_resolve] at hcontainer
      exact ⟨part, name, container, hpart, htext, hname, hcontainer⟩
    · rintro ⟨part, name, container, hpart, rfl, hname, hcontainer⟩
      rw [expandName?_resolve hpart hname hcontainer]
      rfl
    · rintro part name container hpart rfl hname hcontainer
      rw [expandName, expandName?_resolve hpart hname hcontainer, Option.getD_some]

end Reference

end ApiBundle
