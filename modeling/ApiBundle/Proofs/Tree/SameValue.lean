import ApiBundle.Proofs.Tree.Throughout

/-!
# Replacements that change nothing

A walk leaves a node as it is when the replacement has the same value. The two may differ in the
order of members and in the spelling of numbers, but they have the same members by name, so one of
them is a reference node exactly if the other one is.
-/

namespace ApiBundle.Json

variable {a b : Json}

theorem find?_of_sameMembers {ms ns : List (String × Json)} (h : sameMembers ms ns = true)
    {m : String × Json} (hm : m ∈ ms) :
    ∃ y, OrderedMap.find? ns m.1 = some y ∧ m.2.sameValue y = true := by
  induction ms with
  | nil => cases hm
  | cons m' ms ih =>
    simp only [sameMembers, Bool.and_eq_true] at h
    rcases List.mem_cons.mp hm with rfl | hm
    · have hfirst := h.1
      split at hfirst
      · next y hy => exact ⟨y, hy, hfirst⟩
      · cases hfirst
    · exact ih h.2 hm

theorem sameMembers_of_find? {ms ns : List (String × Json)}
    (h : ∀ m ∈ ms, ∃ y, OrderedMap.find? ns m.1 = some y ∧ m.2.sameValue y = true) :
    sameMembers ms ns = true := by
  induction ms with
  | nil => rfl
  | cons m ms ih =>
    obtain ⟨y, hy, hsame⟩ := h m (List.mem_cons_self ..)
    simp only [sameMembers, hy, hsame, ih fun m hm => h m (List.mem_cons_of_mem _ hm),
      Bool.and_self]

theorem sameItems_of_forall {xs : List Json} (h : ∀ x ∈ xs, x.sameValue x = true) :
    sameItems xs xs = true := by
  induction xs with
  | nil => rfl
  | cons x xs ih =>
    simp only [sameItems, h x (List.mem_cons_self ..), ih fun y hy => h y (List.mem_cons_of_mem _ hy),
      Bool.and_self]

/-- A tree whose objects have members of different names has its own value. -/
theorem sameValue_refl {x : Json} (h : x.Throughout Distinct) : x.sameValue x = true := by
  induction h with
  | @mk x here _ ih =>
    cases x with
    | null => rfl
    | bool | string => simp [sameValue]
    | number n => cases n <;> simp [sameValue, Number.sameValue, Double.sameValue]
    | array xs =>
      refine sameItems_of_forall fun y hy => ?_
      rw [← Walk.map_snd_indexed 0 xs] at hy
      obtain ⟨k, hk, rfl⟩ := List.mem_map.mp hy
      exact ih k hk
    | object ms =>
      have hmembers : sameMembers ms ms = true := sameMembers_of_find? fun m hm =>
        ⟨m.2, OrderedMap.find?_of_nodup (here ms rfl) hm, ih _ (List.mem_map_of_mem hm)⟩
      simp [sameValue, hmembers]

theorem object_of_member? {name : String} {x : Json} (h : a.member? name = some x) :
    ∃ ms, a = .object ms ∧ OrderedMap.find? ms name = some x := by
  cases a with
  | object ms => exact ⟨ms, rfl, h⟩
  | _ => cases h

theorem members_of_sameValue {ms : List (String × Json)}
    (h : (object ms).sameValue b = true) : ∃ ns, b = .object ns ∧ ms.length = ns.length ∧
      sameMembers ms ns = true := by
  cases b with
  | object ns =>
    simp only [sameValue, Bool.and_eq_true, beq_iff_eq] at h
    exact ⟨ns, rfl, h.1, h.2⟩
  | _ => simp [sameValue] at h

/-- Members have the same values one by one. -/
theorem member?_of_sameValue (h : a.sameValue b = true) {name : String} {x : Json}
    (hx : a.member? name = some x) : ∃ y, b.member? name = some y ∧ x.sameValue y = true := by
  obtain ⟨ms, rfl, hfind⟩ := object_of_member? hx
  obtain ⟨ns, rfl, -, hmembers⟩ := members_of_sameValue h
  exact find?_of_sameMembers hmembers (OrderedMap.mem_of_find? hfind)

/-- If the first object has no two members of one name, the second one has no others either. -/
theorem member?_of_sameValue_right (h : a.sameValue b = true) (ha : a.Distinct) {name : String}
    {y : Json} (hy : b.member? name = some y) :
    ∃ x, a.member? name = some x ∧ x.sameValue y = true := by
  obtain ⟨ns, rfl, hfind⟩ := object_of_member? hy
  cases a with
  | object ms =>
    obtain ⟨ns', heq, hlen, hmembers⟩ := members_of_sameValue h
    cases heq
    have hsub : OrderedMap.keys ms ⊆ OrderedMap.keys ns := by
      intro k hk
      obtain ⟨m, hm, rfl⟩ := List.mem_map.mp hk
      obtain ⟨y', hy', -⟩ := find?_of_sameMembers hmembers hm
      exact List.mem_map.mpr ⟨_, OrderedMap.mem_of_find? hy', rfl⟩
    have hmem : name ∈ OrderedMap.keys ms := by
      refine Classical.byContradiction fun hnot => ?_
      have hle := (List.nodup_cons.mpr ⟨hnot, ha ms rfl⟩).length_le_of_subset
        (List.cons_subset.mpr ⟨List.mem_map_of_mem (OrderedMap.mem_of_find? hfind), hsub⟩)
      simp only [OrderedMap.keys, List.length_cons, List.length_map] at hle
      omega
    obtain ⟨m, hm, rfl⟩ := List.mem_map.mp hmem
    obtain ⟨y', hy', hsame⟩ := find?_of_sameMembers hmembers hm
    have hyy : y' = y := Option.some.inj (hy'.symm.trans hy)
    exact ⟨m.2, OrderedMap.find?_of_nodup (ha ms rfl) hm, hyy ▸ hsame⟩
  | _ => simp [sameValue] at h

theorem eq_string_of_sameValue {text : String} (h : a.sameValue (.string text) = true) :
    a = .string text := by
  cases a with
  | string text' =>
    simp only [sameValue, beq_iff_eq] at h
    rw [h]
  | _ => simp [sameValue] at h

theorem string?_of_sameValue (h : a.sameValue b = true) : b.string? = a.string? := by
  cases a <;> cases b <;> simp_all [sameValue, string?]

theorem bool?_of_sameValue (h : a.sameValue b = true) : b.bool? = a.bool? := by
  cases a <;> cases b <;> simp_all [sameValue, bool?]

/-- What is read off a member does not change if it does not change with the member's value. -/
theorem bind_member?_of_sameValue {α : Type} {f : Json → Option α}
    (hf : ∀ {x y : Json}, x.sameValue y = true → f y = f x) (h : a.sameValue b = true)
    (ha : a.Distinct) (name : String) : (b.member? name).bind f = (a.member? name).bind f := by
  cases hx : a.member? name with
  | some x =>
    obtain ⟨y, hy, hsame⟩ := member?_of_sameValue h hx
    rw [hy]
    exact hf hsame
  | none =>
    cases hy : b.member? name with
    | none => rfl
    | some y =>
      obtain ⟨x, hx', -⟩ := member?_of_sameValue_right h ha hy
      rw [hx] at hx'
      cases hx'

theorem sameValue_of_sameItems {xs ys : List Json} (h : sameItems xs ys = true) {y : Json}
    (hy : y ∈ ys) : ∃ x ∈ xs, x.sameValue y = true := by
  induction xs generalizing ys with
  | nil =>
    cases ys with
    | nil => cases hy
    | cons => simp [sameItems] at h
  | cons x xs ih =>
    cases ys with
    | nil => cases hy
    | cons y' ys =>
      simp only [sameItems, Bool.and_eq_true] at h
      rcases List.mem_cons.mp hy with rfl | hy
      · exact ⟨x, List.mem_cons_self .., h.1⟩
      · obtain ⟨x', hx', hsame⟩ := ih h.2 hy
        exact ⟨x', List.mem_cons_of_mem _ hx', hsame⟩

/-- Every child of the second tree has the value of a child of the first one. -/
theorem kid_of_sameValue (h : a.sameValue b = true) (ha : a.Distinct) (hb : b.Distinct)
    {k : Segment × Json} (hk : k ∈ b.kids) : ∃ l ∈ a.kids, l.2.sameValue k.2 = true := by
  cases b with
  | object ns =>
    obtain ⟨m, hm, rfl⟩ := List.mem_map.mp hk
    have hfind : (object ns).member? m.1 = some m.2 := OrderedMap.find?_of_nodup (hb ns rfl) hm
    obtain ⟨x, hx, hsame⟩ := member?_of_sameValue_right h ha hfind
    rw [member?_eq_step?] at hx
    exact ⟨_, mem_kids_of_step? hx, hsame⟩
  | array ys =>
    obtain ⟨i, -, hi⟩ := mem_indexed hk
    cases a with
    | array xs =>
      obtain ⟨x, hx, hsame⟩ := sameValue_of_sameItems (by simpa [sameValue] using h)
        (List.mem_of_getElem? hi)
      obtain ⟨j, hj⟩ := List.getElem?_of_mem hx
      have hstep : (array xs).step? (.index j) = some x := hj
      exact ⟨_, mem_kids_of_step? hstep, hsame⟩
    | null | bool | number | string | object => simp [sameValue] at h
  | null | bool | number | string => cases hk

/-- What has the value of a tree without references has none. -/
theorem bare_of_sameValue {a b : Json} (h : a.sameValue b = true) (ha : a.Throughout Plain)
    (hb : b.Throughout Distinct) : b.Throughout Bare := by
  refine .mk ?_ fun k hk => ?_
  · cases hmember : b.member? refKey with
    | none => exact hmember
    | some y =>
      obtain ⟨x, hx, -⟩ := member?_of_sameValue_right h ha.here.distinct hmember
      have hbare : a.member? refKey = none := ha.here.bare
      rw [hbare] at hx
      cases hx
  · obtain ⟨l, hl, hsame⟩ := kid_of_sameValue h ha.here.distinct hb.here hk
    have := kids_lt hk
    exact bare_of_sameValue hsame (ha.kid hl) (hb.kid hk)
termination_by sizeOf b

/-- What has the value of a reference node is one, with the same text. -/
theorem refText?_of_sameValue (h : a.sameValue b = true) (ha : a.Distinct) {text : String}
    (hb : b.refText? = some text) : a.refText? = some text := by
  obtain ⟨x, hx, hsame⟩ := member?_of_sameValue_right h ha (refText?_of_member?.mp hb)
  rw [eq_string_of_sameValue hsame] at hx
  exact refText?_of_member?.mpr hx

end ApiBundle.Json
