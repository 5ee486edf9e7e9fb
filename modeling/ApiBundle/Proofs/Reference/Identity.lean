import ApiBundle.Proofs.Reference.RoundTrip

/-!
# What the identity of a reference tells

Two references in which nothing has gone wrong have one identity exactly if they lead to one place:
the same URL text, and the same tokens. So all texts that spell a place (`Reference.Spells`) give
one reference, however they are escaped and whatever they are relative to.

The fragment of a reference that is invalid stands in its identity as it was written, before its
percent escapes are read. That makes it possible for an invalid reference to have the identity of a
valid one, and `Reference.Mistaken` says exactly when.
-/

namespace ApiBundle

namespace Text

variable {sep : Char} {cs before after : List Char}

theorem cut_eq_none : cut sep cs = (before, none) ↔ cs = before ∧ sep ∉ before := by
  induction cs generalizing before with
  | nil =>
    constructor
    · rintro ⟨⟩
      exact ⟨rfl, List.not_mem_nil⟩
    · rintro ⟨rfl, -⟩
      rfl
  | cons c cs ih =>
    by_cases hc : c = sep
    · simp only [cut, hc, if_true, Prod.mk.injEq, reduceCtorEq, and_false, false_iff, not_and]
      rintro rfl hmem
      exact hmem (List.mem_cons_self ..)
    · simp only [cut, hc, if_false, Prod.mk.injEq]
      constructor
      · rintro ⟨rfl, hnone⟩
        obtain ⟨hcs, hmem⟩ := ih.mp (Prod.ext rfl hnone)
        exact ⟨congrArg (c :: ·) hcs, by simp [hmem, Ne.symm hc]⟩
      · rintro ⟨rfl, hmem⟩
        rw [ih.mpr ⟨rfl, fun h => hmem (List.mem_cons_of_mem _ h)⟩]
        exact ⟨rfl, rfl⟩

theorem cut_eq_some :
    cut sep cs = (before, some after) ↔ cs = before ++ sep :: after ∧ sep ∉ before := by
  induction cs generalizing before with
  | nil => simp [cut]
  | cons c cs ih =>
    by_cases hc : c = sep
    · subst hc
      simp only [cut, if_true, Prod.mk.injEq, Option.some.injEq]
      constructor
      · rintro ⟨rfl, rfl⟩
        exact ⟨rfl, List.not_mem_nil⟩
      · rintro ⟨heq, hmem⟩
        cases before with
        | nil => exact ⟨rfl, (List.cons.inj heq).2⟩
        | cons b before =>
          obtain ⟨rfl, -⟩ := List.cons.inj heq
          exact absurd (List.mem_cons_self ..) hmem
    · simp only [cut, hc, if_false, Prod.mk.injEq]
      constructor
      · rintro ⟨rfl, hsome⟩
        obtain ⟨hcs, hmem⟩ := ih.mp (Prod.ext rfl hsome)
        exact ⟨congrArg (c :: ·) hcs, by simp [hmem, Ne.symm hc]⟩
      · rintro ⟨heq, hmem⟩
        cases before with
        | nil => exact absurd (List.cons.inj heq).1 hc
        | cons b before =>
          obtain ⟨rfl, hcs⟩ := List.cons.inj heq
          rw [ih.mpr ⟨hcs, fun h => hmem (List.mem_cons_of_mem _ h)⟩]
          exact ⟨rfl, rfl⟩

end Text

namespace Reference

variable {r r' : Reference} {text text' part fragment : String} {base base' : Option Uri} {u : Uri}
  {p : Pointer} {c c' : Option Component}

/-! ## The places that texts spell -/

theorem cutFragment_of_not_mem (h : '#' ∉ part.toList) : cutFragment part = (part, none) := by
  unfold cutFragment
  rw [Text.cut_eq_none.mpr ⟨rfl, h⟩]
  simp

theorem cutFragment_append (h : '#' ∉ part.toList) (fragment : String) :
    cutFragment (part ++ "#" ++ fragment) =
      (part, if fragment = "" then none else some fragment) := by
  have hcut : Text.cut '#' (part ++ "#" ++ fragment).toList =
      (part.toList, some fragment.toList) := Text.cut_eq_some.mpr ⟨by simp, h⟩
  unfold cutFragment
  rw [hcut]
  by_cases hf : fragment = ""
  · simp [hf]
  · simp [hf, Option.filter, String.toList_eq_nil_iff]

/-- A text is what is cut off it, put together again. -/
theorem eq_of_cutFragment {f : Option String} (h : cutFragment text = (part, f)) :
    '#' ∉ part.toList ∧ (f = none ∧ text = part ∨ text = part ++ "#" ++ f.getD "") := by
  unfold cutFragment at h
  cases hcut : Text.cut '#' text.toList with
  | mk before after =>
    rw [hcut] at h
    obtain ⟨rfl, hf⟩ := Prod.mk.inj h
    cases after with
    | none =>
      obtain ⟨htext, hmem⟩ := Text.cut_eq_none.mp hcut
      refine ⟨by simpa using hmem, .inl ⟨hf.symm, ?_⟩⟩
      exact String.toList_inj.mp (by simpa using htext)
    | some rest =>
      obtain ⟨htext, hmem⟩ := Text.cut_eq_some.mp hcut
      refine ⟨by simpa using hmem, .inr (String.toList_inj.mp ?_)⟩
      subst hf
      cases rest <;> simp [htext, Option.filter]

/--
A text spells a place of a document: before the first `#` stands what leads from the base to the
document, and behind it, percent-encoded in any way, the text of the pointer.
-/
inductive Spells (base : Option Uri) (u : Uri) : String → Pointer → Prop where
  | whole {part : String} (cut : '#' ∉ part.toList) (located : resolveUrl part base = .ok u) :
    Spells base u part .root
  | place {part fragment : String} {p : Pointer} (cut : '#' ∉ part.toList)
      (located : resolveUrl part base = .ok u)
      (decoded : Percent.decode fragment.toList = p.chars) :
    Spells base u (part ++ "#" ++ fragment) p

theorem ofFragment_eq_ok :
    Pointer.ofFragment fragment = .ok p ↔ Percent.decode fragment.toList = p.chars := by
  unfold Pointer.ofFragment
  constructor
  · intro h
    have htext := congrArg String.toList (Pointer.text_of_parse h)
    simpa [Pointer.text] using htext.symm
  · intro h
    rw [h]
    exact Pointer.parse_text p

theorem Spells.resolve_eq (h : Spells base u text p) (c : Option Component) :
    resolve text base c =
      ⟨text, some u, u.text, if p.isRoot then none else some p.text, p, c, none⟩ := by
  unfold resolve
  cases h with
  | whole cut located =>
    rw [cutFragment_of_not_mem cut]
    simp [located, setUrl, Pointer.isRoot, Pointer.root]
  | @place part fragment p cut located decoded =>
    rw [cutFragment_append cut]
    by_cases hf : fragment = ""
    · -- nothing is decoded from nothing, so this is the whole document
      subst hf
      have hroot : p = .root := Pointer.text_eq_empty (by simp [Pointer.text, ← decoded]; rfl)
      simp [located, setUrl, hroot, Pointer.isRoot, Pointer.root]
    · have hroot : p.isRoot = false := by
        refine Bool.eq_false_iff.mpr fun hroot => hf ?_
        rw [Pointer.isRoot_iff.mp hroot] at decoded
        exact String.toList_eq_nil_iff.mp (Percent.eq_nil_of_decode decoded)
      simp [hf, located, setUrl, setFragment, ofFragment_eq_ok.mpr decoded, hroot]

/-- A fragment as it stands in an identity: in the form of a pointer's text, raw if it is none. -/
def keptFragment (fragment : String) : String :=
  match Pointer.ofFragment fragment with
  | .ok p => p.text
  | .error _ => fragment

theorem resolve_of_badPointer {e : PointerError} (cut : cutFragment text = (part, some fragment))
    (located : resolveUrl part base = .ok u) (unread : Pointer.ofFragment fragment = .error e)
    (c : Option Component) :
    resolve text base c =
      ⟨text, some u, u.text, some fragment, .root, c, some (.badPointer e.message)⟩ := by
  unfold resolve
  rw [cut]
  simp [located, setUrl, setFragment, markInvalid, unread]

theorem resolve_of_malformedUrl {detail : String} {f : Option String}
    (cut : cutFragment text = (part, f)) (lost : resolveUrl part base = .error detail)
    (c : Option Component) : ∃ p, resolve text base c =
      ⟨text, none, part, f.map keptFragment, p, c, some (.malformedUrl detail)⟩ := by
  unfold resolve
  rw [cut]
  cases f with
  | none => exact ⟨.root, by simp [lost, setUrl, markInvalid]⟩
  | some fragment =>
    simp only [lost, setUrl, markInvalid, setFragment, Option.map_some, keptFragment]
    cases Pointer.ofFragment fragment with
    | ok p => exact ⟨p, rfl⟩
    | error e => exact ⟨.root, rfl⟩

/-- What resolving a text ends with, by what is wrong with the text. -/
inductive Resolves (text : String) (base : Option Uri) (c : Option Component) :
    Reference → Prop where
  | valid {u : Uri} {p : Pointer} (spells : Spells base u text p) :
    Resolves text base c
      ⟨text, some u, u.text, if p.isRoot then none else some p.text, p, c, none⟩
  | badPointer {part fragment : String} {u : Uri} {e : PointerError}
      (cut : cutFragment text = (part, some fragment)) (located : resolveUrl part base = .ok u)
      (unread : Pointer.ofFragment fragment = .error e) :
    Resolves text base c
      ⟨text, some u, u.text, some fragment, .root, c, some (.badPointer e.message)⟩
  | malformedUrl {part detail : String} {f : Option String} {p : Pointer}
      (cut : cutFragment text = (part, f)) (lost : resolveUrl part base = .error detail) :
    Resolves text base c
      ⟨text, none, part, f.map keptFragment, p, c, some (.malformedUrl detail)⟩

theorem resolves_resolve (text : String) (base : Option Uri) (c : Option Component) :
    Resolves text base c (resolve text base c) := by
  have hvalid {u : Uri} {p : Pointer} (h : Spells base u text p) :
      Resolves text base c (resolve text base c) := by
    rw [h.resolve_eq]
    exact .valid h
  cases hcut : cutFragment text with
  | mk part f =>
    obtain ⟨hpart, htext⟩ := eq_of_cutFragment hcut
    cases hurl : resolveUrl part base with
    | error detail =>
      obtain ⟨p, heq⟩ := resolve_of_malformedUrl hcut hurl c
      rw [heq]
      exact .malformedUrl hcut hurl
    | ok u =>
      rcases htext with ⟨-, rfl⟩ | htext
      · exact hvalid (.whole hpart hurl)
      · cases hp : Pointer.ofFragment (f.getD "") with
        | ok p => exact hvalid (htext ▸ Spells.place hpart hurl (ofFragment_eq_ok.mp hp))
        | error e =>
          cases f with
          | none => cases hp
          | some fragment =>
            rw [resolve_of_badPointer hcut hurl hp]
            exact .badPointer hcut hurl hp

/-- The texts that give valid references are those that spell places. -/
theorem error_resolve_eq_none :
    (resolve text base c).error = none ↔ ∃ u p, Spells base u text p := by
  constructor
  · intro h
    have hr := resolves_resolve text base c
    generalize resolve text base c = r at h hr
    cases hr with
    | valid spells => exact ⟨_, _, spells⟩
    | badPointer => cases h
    | malformedUrl => cases h
  · rintro ⟨u, p, h⟩
    rw [h.resolve_eq]

/-! ## Identities of valid references -/

theorem Spells.id_eq (h : Spells base u text p) (c : Option Component) :
    (resolve text base c).id = placeId u.text p := by
  rw [h.resolve_eq]
  rfl

theorem Consistent.id_eq (h : r.Consistent) (hvalid : r.error = none) :
    r.id = placeId r.urlText r.pointer :=
  congrArg (RefId.mk r.urlText) (h.placed hvalid)

/-- What the identities of two references tell about the places that they lead to. -/
structure TellsPlaces (r r' : Reference) : Prop where
  same : r.id = r'.id ↔ r.urlText = r'.urlText ∧ r.pointer.tokens = r'.pointer.tokens
  /-- A text that spells a place gives this identity exactly if it is the place of the reference. -/
  spelled : ∀ {text : String} {base : Option Uri} {u : Uri} {p : Pointer}, Spells base u text p →
    ∀ c, (resolve text base c).error = none ∧
      ((resolve text base c).id = r.id ↔ u.text = r.urlText ∧ p.tokens = r.pointer.tokens)
  whole : r.isDocument = true ↔ r.pointer.tokens = []

theorem Built.tellsPlaces (h : Built r) (h' : Built r') (hvalid : r.error = none)
    (hvalid' : r'.error = none) : r.TellsPlaces r' := by
  have hid := h.consistent.id_eq hvalid
  constructor
  case same =>
    rw [hid, h'.consistent.id_eq hvalid', placeId_eq_iff, Pointer.mk.injEq]
  case spelled =>
    intro text base u p hspells c
    refine ⟨error_resolve_eq_none.mpr ⟨u, p, hspells⟩, ?_⟩
    rw [hspells.id_eq, hid, placeId_eq_iff, Pointer.mk.injEq]
  case whole =>
    have hfragment := h.consistent.placed hvalid
    unfold isDocument
    rw [hfragment]
    by_cases hroot : r.pointer.isRoot <;> simp_all [Pointer.isRoot]

/-- A bare name that was expanded, a place, and a relative text with escapes are one reference. -/
theorem tellsPlaces_expandName :
    (resolve "mem://a/o.json#T" none (some ⟨.swagger2, .schema⟩)).expandName.error = none ∧
      (atPointer ⟨"mem", some (.ofHost (some (.name "a"))), "/o.json", none, some "x"⟩
        ⟨["definitions", "T"]⟩).error = none ∧
      (resolve "mem://a/o.json#T" none (some ⟨.swagger2, .schema⟩)).expandName.id =
        (atPointer ⟨"mem", some (.ofHost (some (.name "a"))), "/o.json", none, some "x"⟩
          ⟨["definitions", "T"]⟩).id ∧
      (resolve "./o.json#%2Fdefinitions/%54"
        (some ⟨"mem", some (.ofHost (some (.name "a"))), "/main.json", none, none⟩) none).id =
        (resolve "mem://a/o.json#T" none (some ⟨.swagger2, .schema⟩)).expandName.id := by
  have hbuilt : Built (resolve "mem://a/o.json#T" none (some ⟨.swagger2, .schema⟩)).expandName :=
    .expandName (.resolve _ _ (by decide))
  have hvalid : (resolve "mem://a/o.json#T" none
      (some ⟨.swagger2, .schema⟩)).expandName.error = none := by decide
  have hplaces := hbuilt.tellsPlaces
    (.atPointer ⟨"mem", some (.ofHost (some (.name "a"))), "/o.json", none, some "x"⟩
      ⟨["definitions", "T"]⟩) hvalid rfl
  have hspells : Spells (some ⟨"mem", some (.ofHost (some (.name "a"))), "/main.json", none, none⟩)
      ⟨"mem", some (.ofHost (some (.name "a"))), "/o.json", none, none⟩
      ("./o.json" ++ "#" ++ "%2Fdefinitions/%54") ⟨["definitions", "T"]⟩ :=
    .place (by decide) (by rfl) (by decide)
  refine ⟨hvalid, rfl, hplaces.same.mpr ⟨?_, ?_⟩, (hplaces.spelled hspells none).2.mpr ⟨?_, ?_⟩⟩
  all_goals decide

/-! ## Identities of invalid references -/

/--
An invalid text is mistaken for one that spells a place. Either its fragment reads as the place as
long as its percent escapes are not read, and as none after that; or what stands before the fragment
is no URL in its base, but is how the URL of the place is written.
-/
inductive Mistaken (text : String) (base : Option Uri) (text' : String) (base' : Option Uri) :
    Prop where
  | fragment {part fragment : String} {u u' : Uri} {p : Pointer} {e : PointerError}
      (cut : cutFragment text = (part, some fragment)) (located : resolveUrl part base = .ok u)
      (unread : Pointer.ofFragment fragment = .error e)
      (escape : Percent.HoldsEscape fragment.toList) (spells : Spells base' u' text' p)
      (raw : fragment = p.text) (same : u.text = u'.text) : Mistaken text base text' base'
  | url {part detail : String} {f : Option String} {u : Uri} {p : Pointer}
      (cut : cutFragment text = (part, f)) (lost : resolveUrl part base = .error detail)
      (spells : Spells base' u text' p) (written : part = u.text)
      (same : f.map keptFragment = if p.isRoot then none else some p.text) :
    Mistaken text base text' base'

/-- What reads as a pointer before its percent escapes are read, and not after that, holds one. -/
theorem holdsEscape_of_unread {e : PointerError} (raw : fragment = p.text)
    (unread : Pointer.ofFragment fragment = .error e) : Percent.HoldsEscape fragment.toList := by
  apply Classical.byContradiction
  intro hescape
  unfold Pointer.ofFragment at unread
  rw [Percent.decode_eq_self.mpr hescape, String.ofList_toList, raw, Pointer.parse_text] at unread
  cases unread

/-- An invalid reference has the identity of a valid one exactly if it is mistaken for it. -/
theorem mistaken_iff (c c' : Option Component) : Mistaken text base text' base' ↔
    (resolve text base c).error ≠ none ∧ (resolve text' base' c').error = none ∧
      (resolve text base c).id = (resolve text' base' c').id := by
  constructor
  · intro h
    cases h with
    | @fragment part fragment u u' p e cut located unread escape spells raw same =>
      refine ⟨?_, error_resolve_eq_none.mpr ⟨_, _, spells⟩, ?_⟩
      · simp [resolve_of_badPointer cut located unread]
      · -- the empty fragment is none, so the place is not the whole document
        have hroot : ¬p.isRoot := by
          intro hroot
          apply cutFragment_ne_empty cut
          rw [raw, Pointer.isRoot_iff.mp hroot]
          rfl
        rw [spells.id_eq, resolve_of_badPointer cut located unread, placeId, if_neg hroot, ← raw,
          ← same]
        rfl
    | url cut lost spells written same =>
      obtain ⟨q, heq⟩ := resolve_of_malformedUrl cut lost c
      refine ⟨by simp [heq], error_resolve_eq_none.mpr ⟨_, _, spells⟩, ?_⟩
      rw [spells.id_eq, heq, placeId, ← written, ← same]
      rfl
  · rintro ⟨hinvalid, hvalid, hid⟩
    obtain ⟨u', p, hspells⟩ := error_resolve_eq_none.mp hvalid
    rw [hspells.id_eq] at hid
    have hr := resolves_resolve text base c
    generalize resolve text base c = r at hinvalid hid hr
    cases hr with
    | valid => exact absurd rfl hinvalid
    | @badPointer part fragment u e cut located unread =>
      have hfragment : some fragment = if p.isRoot then none else some p.text :=
        congrArg RefId.fragment hid
      have hroot : ¬p.isRoot := by
        intro hroot
        simp [hroot] at hfragment
      rw [if_neg hroot, Option.some.injEq] at hfragment
      exact .fragment cut located unread (holdsEscape_of_unread hfragment unread) hspells hfragment
        (congrArg RefId.url hid)
    | malformedUrl cut lost =>
      exact .url cut lost hspells (congrArg RefId.url hid) (congrArg RefId.fragment hid)

/--
References of one identity are both valid or both invalid, unless one of the texts is mistaken for
the other.
-/
theorem validity_agrees_iff : ((resolve text base c).id = (resolve text' base' c').id →
      ((resolve text base c).error = none ↔ (resolve text' base' c').error = none)) ↔
    ¬Mistaken text base text' base' ∧ ¬Mistaken text' base' text base := by
  rw [mistaken_iff c c', mistaken_iff c' c]
  constructor
  · intro h
    refine ⟨fun ⟨hinvalid, hvalid, hid⟩ => hinvalid ((h hid).mpr hvalid),
      fun ⟨hinvalid, hvalid, hid⟩ => hinvalid ((h hid.symm).mp hvalid)⟩
  · rintro ⟨h, h'⟩ hid
    constructor
    · intro hvalid
      exact Classical.byContradiction fun hinvalid => h' ⟨hinvalid, hvalid, hid.symm⟩
    · intro hvalid
      exact Classical.byContradiction fun hinvalid => h ⟨hinvalid, hvalid, hid⟩

/-- A tilde that stands alone, written `%7E`, is mistaken for the name `%7E`. -/
theorem validity_disagrees_tilde : ¬((resolve "mem://a#/%7E" none none).id =
      (resolve "mem://a#/%257E" none none).id →
    ((resolve "mem://a#/%7E" none none).error = none ↔
      (resolve "mem://a#/%257E" none none).error = none)) := by
  have hurl : resolveUrl "mem://a" none =
      .ok ⟨"mem", some (.ofHost (some (.name "a"))), "", none, none⟩ := by rfl
  have hcut : cutFragment "mem://a#/%7E" = ("mem://a", some "/%7E") := by decide
  have hunread : Pointer.ofFragment "/%7E" = .error (.badEscape "/~") := by rfl
  have hraw : "/%7E" = Pointer.text ⟨["%7E"]⟩ := by decide
  have hspells : Spells none ⟨"mem", some (.ofHost (some (.name "a"))), "", none, none⟩
      ("mem://a" ++ "#" ++ "/%257E") ⟨["%7E"]⟩ := .place (by decide) hurl (by decide)
  rw [validity_agrees_iff]
  rintro ⟨h, -⟩
  exact h (.fragment hcut hurl hunread (holdsEscape_of_unread hraw hunread) hspells hraw rfl)

end Reference

end ApiBundle
