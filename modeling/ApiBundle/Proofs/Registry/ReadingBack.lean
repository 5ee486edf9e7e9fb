import ApiBundle.Proofs.Reference.Resolve
import ApiBundle.Proofs.Registry.Slots

/-!
# Reading references to entries back

References are read in two steps: percent escapes, then the escapes of pointers. They are written in
one: names are not percent-encoded. So a reference to an entry is read as the place of the entry
exactly if the name holds nothing that looks like a percent escape (`Registry.reads_back`). Only
path items have names that can: those are keys as they were written.
-/

namespace ApiBundle

open Percent

namespace Pointer

variable {cs : List Char}

theorem escapeToken_eq_cons {x : Char} {es : List Char} (htilde : x ≠ '~') :
    escapeToken cs = x :: es ↔ ∃ cs', cs = x :: cs' ∧ x ≠ '/' ∧ escapeToken cs' = es := by
  cases cs with
  | nil => simp [escapeToken]
  | cons c cs =>
    rw [escapeToken]
    split
    · next hc =>
      subst hc
      simp [htilde.symm]
    · split
      · next hc =>
        subst hc
        simp only [List.cons.injEq, htilde.symm, false_and, false_iff]
        rintro ⟨cs', ⟨rfl, -⟩, hne, -⟩
        exact hne rfl
      · next hslash =>
        constructor
        · intro h
          obtain ⟨rfl, rfl⟩ := List.cons.inj h
          exact ⟨cs, rfl, hslash, rfl⟩
        · rintro ⟨cs', heq, -, rfl⟩
          obtain ⟨rfl, rfl⟩ := List.cons.inj heq
          rfl

/-- Writing a token neither makes percent escapes nor breaks them. -/
theorem holdsEscape_escapeToken : HoldsEscape (escapeToken cs) ↔ HoldsEscape cs := by
  induction cs with
  | nil => rfl
  | cons c cs ih =>
    -- a character that is written as two
    have two (x y z : Char) (hx : x ≠ '%') (hy : y ≠ '%') (hz : z ≠ '%') :
        HoldsEscape (x :: y :: escapeToken cs) ↔ HoldsEscape (z :: cs) := by
      rw [show x :: y :: escapeToken cs = [x, y] ++ escapeToken cs from rfl,
        show z :: cs = [z] ++ cs from rfl, holdsEscape_append (by simp [hx.symm, hy.symm]),
        holdsEscape_append (by simp [hz.symm]), ih]
    rw [escapeToken]
    split
    · next hc =>
      subst hc
      exact two _ _ _ (by decide) (by decide) (by decide)
    · split
      · next hc =>
        subst hc
        exact two _ _ _ (by decide) (by decide) (by decide)
      · have hhead : (∃ x y rest, c = '%' ∧ escapeToken cs = x :: y :: rest ∧
            isHexDigit x = true ∧ isHexDigit y = true) ↔
            ∃ x y rest, c = '%' ∧ cs = x :: y :: rest ∧ isHexDigit x = true ∧
              isHexDigit y = true := by
          constructor
          · rintro ⟨x, y, rest, hc, heq, hx, hy⟩
            obtain ⟨cs₁, rfl, -, h₁⟩ := (escapeToken_eq_cons (ne_of_isHexDigit hx rfl)).mp heq
            obtain ⟨cs₂, rfl, -, -⟩ := (escapeToken_eq_cons (ne_of_isHexDigit hy rfl)).mp h₁
            exact ⟨x, y, cs₂, hc, rfl, hx, hy⟩
          · rintro ⟨x, y, rest, hc, rfl, hx, hy⟩
            refine ⟨x, y, escapeToken rest, hc, ?_, hx, hy⟩
            rw [escapeToken_eq_cons (ne_of_isHexDigit hx rfl)]
            refine ⟨_, rfl, ne_of_isHexDigit hx rfl, ?_⟩
            rw [escapeToken_eq_cons (ne_of_isHexDigit hy rfl)]
            exact ⟨_, rfl, ne_of_isHexDigit hy rfl, rfl⟩
        rw [holdsEscape_cons, holdsEscape_cons, ih, hhead]

/-- A place is read from its text in a fragment exactly if that holds no percent escape. -/
theorem ofFragment_text_iff {p : Pointer} :
    ofFragment p.text = .ok p ↔ ¬HoldsEscape p.text.toList := by
  rw [← decode_eq_self]
  unfold ofFragment
  constructor
  · intro h
    have htext := congrArg String.toList (text_of_parse h)
    rw [String.toList_ofList] at htext
    exact htext.symm
  · intro h
    rw [h, String.ofList_toList, parse_text]

/-- Below a place without percent signs, only the last token may hold an escape. -/
theorem holdsEscape_text_push {p : Pointer} (hp : '%' ∉ p.text.toList) (name : String) :
    HoldsEscape (p.push name).text.toList ↔ HoldsEscape name.toList := by
  have hfront : '%' ∉ p.text.toList ++ ['/'] := by
    rw [List.mem_append, not_or]
    exact ⟨hp, by decide⟩
  have htext : (p.push name).text.toList = (p.text.toList ++ ['/']) ++ escapeToken name.toList := by
    rw [text_push, String.toList_append, String.toList_append]
    simp [escape]
  rw [htext, holdsEscape_append hfront, holdsEscape_escapeToken]

end Pointer

namespace Reference

theorem resolve_hash_iff {p : Pointer} (hp : p ≠ .root) (u : Uri) (c : Option Component) :
    ((resolve ("#" ++ p.text) (some u) c).error = none ∧
      (resolve ("#" ++ p.text) (some u) c).pointer = p) ↔ Pointer.ofFragment p.text = .ok p := by
  rw [resolve_hash (text_toList_ne_nil hp)]
  unfold setFragment
  cases Pointer.ofFragment p.text with
  | ok q => simp
  | error e => simp [markInvalid]

end Reference

namespace Registry

variable {d : Dialect} {r : Registry} {e : Entry}

theorem Orderly.not_mem_container (h : Orderly d r) (he : e ∈ r.entries) :
    '%' ∉ e.container.text.toList := by
  have key : ∀ d ∈ [Dialect.swagger2, .openApi3], ∀ p ∈ d.homes, '%' ∉ p.text.toList := by
    decide +kernel
  obtain ⟨hc, hhome⟩ := h.container he
  exact key d (by cases d <;> simp) _ (List.mem_filterMap.mpr ⟨_, hc, hhome⟩)

theorem Orderly.not_holdsEscape (h : Orderly d r) (he : e ∈ r.entries)
    (hnaming : e.component.info.naming ≠ .pathKey) : ¬HoldsEscape e.name.toList := by
  have key : ∀ d ∈ [Dialect.swagger2, .openApi3], ∀ c ∈ d.components,
      c.container?.isSome → c.info.naming ≠ .none := by decide
  obtain ⟨hc, hhome⟩ := h.container he
  have hnone := key d (by cases d <;> simp) _ hc (by simp [hhome])
  cases hown : e.component.info.naming with
  | none => exact absurd hown hnone
  | pathKey => exact absurd hown hnaming
  | container containers =>
    refine Percent.not_holdsEscape fun hmem => ?_
    exact absurd (h.isName he hown _ hmem) (by decide)

theorem holdsEscape_candidate (preferred : String) (n : Nat) :
    HoldsEscape (candidate preferred n).toList ↔ HoldsEscape preferred.toList := by
  cases n with
  | zero => rfl
  | succ n =>
    have hdigits : '%' ∉ (toString (n + 1)).toList := fun hmem =>
      absurd (isName_toString (n + 1) _ hmem) (by decide)
    simp only [candidate, String.toList_append, List.append_assoc]
    exact holdsEscape_append_cons (by decide) (by decide) hdigits

/-- The name of a path item holds an escape if the key does that it comes from. -/
theorem Orderly.holdsEscape_key (h : Orderly d r) (he : e ∈ r.entries)
    (hnaming : e.component.info.naming = .pathKey) : ∃ base place,
      e.origin = .atPointer base place ∧
        (HoldsEscape e.name.toList ↔ HoldsEscape (place.last?.getD "").toList) := by
  obtain ⟨base, place, n, horigin, hname⟩ := h.named e.head (List.mem_map_of_mem he)
  refine ⟨base, place, horigin, ?_⟩
  rw [show e.name = candidate (e.component.preferredName place (some base)) n from hname,
    holdsEscape_candidate]
  unfold Component.preferredName
  rw [hnaming]

/-- The text of a reference to an entry is read as the place of the entry exactly if the name holds
no percent escape. -/
theorem reads_back (hr : Reaches d .empty r) (he : e ∈ r.entries) :
    (∀ u c, ((Reference.resolve e.refText (some u) c).error = none ∧
        (Reference.resolve e.refText (some u) c).pointer = e.container.push e.name) ↔
      ¬HoldsEscape e.name.toList) ∧
    (∀ fragment, e.refText = "#" ++ fragment →
      (Pointer.ofFragment fragment = .ok (e.container.push e.name) ↔
        ¬HoldsEscape e.name.toList)) ∧
    (e.component.info.naming ≠ .pathKey → ¬HoldsEscape e.name.toList) ∧
    (e.component.info.naming = .pathKey → ∃ base place, e.origin = .atPointer base place ∧
      (HoldsEscape e.name.toList ↔ HoldsEscape (place.last?.getD "").toList)) := by
  have horderly := (Orderly.empty d).reaches hr
  have hfragment : Pointer.ofFragment (e.container.push e.name).text =
      .ok (e.container.push e.name) ↔ ¬HoldsEscape e.name.toList := by
    rw [Pointer.ofFragment_text_iff,
      Pointer.holdsEscape_text_push (horderly.not_mem_container he)]
  refine ⟨fun u c => ?_, fun fragment htext => ?_, horderly.not_holdsEscape he,
    horderly.holdsEscape_key he⟩
  · rw [refText_eq, Reference.resolve_hash_iff (Pointer.push_ne_root _ _), hfragment]
  · rw [refText_eq, String.append_right_inj] at htext
    rw [← htext, hfragment]

/-- A path item whose key holds an escape, beside a schema. -/
theorem reads_back_keys : ∃ r, Reaches .swagger2 .empty r ∧
    (∃ e ∈ r.entries, e.refText = "#" ++ "/paths/~1a%41" ∧
      Pointer.ofFragment "/paths/~1a%41" ≠ .ok (e.container.push e.name)) ∧
    ∃ e ∈ r.entries, e.refText = "#" ++ "/definitions/A" ∧
      Pointer.ofFragment "/definitions/A" = .ok (e.container.push e.name) := by
  obtain ⟨r, hr, ⟨e, he, htext, hname⟩, e', he', htext', hnaming⟩ : ∃ r,
      Reaches .swagger2 .empty r ∧
        (∃ e ∈ r.entries, e.refText = "#" ++ "/paths/~1a%41" ∧ e.name = "/a%41") ∧
        ∃ e ∈ r.entries, e.refText = "#" ++ "/definitions/A" ∧
          e.component.info.naming ≠ .pathKey := by
    refine ⟨_, ⟨[.localize .null ⟨.swagger2, .path⟩ ⟨["paths", "/a%41"]⟩
        ⟨"mem", none, "/o.json", none, none⟩,
      .localize .null ⟨.swagger2, .schema⟩ ⟨["definitions", "A"]⟩
        ⟨"mem", none, "/o.json", none, none⟩], by decide, rfl⟩, ?_, ?_⟩
    · decide
    · decide
  have hbroken : HoldsEscape e.name.toList := by
    rw [hname]
    exact ⟨'4', '1', by decide, by decide, ['/', 'a'], [], by decide⟩
  obtain ⟨-, hback, -⟩ := reads_back hr he
  obtain ⟨-, hback', hplain, -⟩ := reads_back hr he'
  exact ⟨r, hr, ⟨e, he, htext, fun h => (hback _ htext).mp h hbroken⟩, e', he', htext',
    (hback' _ htext').mpr (hplain hnaming)⟩

end Registry

end ApiBundle
