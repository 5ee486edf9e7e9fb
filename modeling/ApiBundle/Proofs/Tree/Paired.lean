import ApiBundle.Proofs.Reference.Adornment
import ApiBundle.Proofs.Tree.Insert
import ApiBundle.Proofs.Tree.Strip
import ApiBundle.Proofs.Tree.Tidy

/-!
# Adornments beside reference texts

Taking the adornments off a tree takes them off reference nodes only. A node is *paired* if its
`$ref` member is a text and an adornment stands nowhere but beside one; a tree of paired nodes has no
adornments when they were taken off. Whatever a scan does to nodes keeps them paired: adorning,
taking members off, overlaying, replacing children and writing to the place that a tree was read
from. Storing below a name other than the special ones does so except at the end of the path, where
the new node is what it is (`Json.PairedBut`).
-/

namespace ApiBundle.Json

/-- The `$ref` members are texts, and there is one if there is an adornment. -/
structure PairedMembers (ms : List (String × Json)) : Prop where
  text : ∀ m ∈ ms, m.1 = refKey → m.2.string?.isSome
  beside : adornmentKey ∈ OrderedMap.keys ms → refKey ∈ OrderedMap.keys ms

/-- A node with such members, if it has any. -/
def Paired (x : Json) : Prop := ∀ ms, x = .object ms → PairedMembers ms

instance (ms : List (String × Json)) : Decidable (PairedMembers ms) :=
  decidable_of_iff ((∀ m ∈ ms, m.1 = refKey → m.2.string?.isSome) ∧
      (adornmentKey ∈ OrderedMap.keys ms → refKey ∈ OrderedMap.keys ms))
    ⟨fun h => ⟨h.1, h.2⟩, fun h => ⟨h.1, h.2⟩⟩

instance : DecidablePred Paired := fun x =>
  match x with
  | .object ms => decidable_of_iff (PairedMembers ms)
      ⟨fun h _ heq => by cases heq; exact h, fun h => h ms rfl⟩
  | .null | .bool _ | .number _ | .string _ | .array _ => isTrue fun _ h => by cases h

variable {x y value new : Json} {ms incoming : List (String × Json)} {name : String}

theorem string_of_isSome (h : y.string?.isSome) : ∃ text, y = .string text := by
  cases y with
  | string text => exact ⟨text, rfl⟩
  | null | bool | number | object | array => cases h

theorem paired_object : Paired (.object ms) ↔ PairedMembers ms :=
  ⟨fun h => h ms rfl, fun h _ heq => by cases heq; exact h⟩

theorem paired_of_no_object (h : ∀ ms, x ≠ .object ms) : Paired x :=
  fun ms heq => absurd heq (h ms)

theorem paired_string (text : String) : (string text).Throughout Paired :=
  .mk (paired_of_no_object (by simp)) (by simp [kids])

namespace PairedMembers

theorem of_notMem (href : refKey ∉ OrderedMap.keys ms) (hinfo : adornmentKey ∉ OrderedMap.keys ms) :
    PairedMembers ms :=
  ⟨fun _ hm heq => absurd (heq ▸ List.mem_map_of_mem hm) href, fun h => absurd h hinfo⟩

theorem put (h : PairedMembers ms) (href : name = refKey → y.string?.isSome)
    (hinfo : name = adornmentKey → refKey ∈ OrderedMap.keys ms) :
    PairedMembers (OrderedMap.put ms name y) where
  text := by
    intro m hm hname
    rcases OrderedMap.mem_put hm with hm | rfl
    · exact h.text m hm hname
    · exact href hname
  beside := by
    rw [OrderedMap.mem_keys_put, OrderedMap.mem_keys_put]
    rintro (hold | hnew)
    · exact .inl (h.beside hold)
    · exact .inl (hinfo hnew.symm)

theorem overlay (h : PairedMembers ms) (h' : PairedMembers incoming) :
    PairedMembers (OrderedMap.overlay ms incoming) where
  text := fun m hm => (OrderedMap.mem_overlay hm).elim (h.text m) (h'.text m)
  beside := by
    rw [OrderedMap.mem_keys_overlay, OrderedMap.mem_keys_overlay]
    exact Or.imp h.beside h'.beside

theorem isRefNode (h : PairedMembers ms) (hinfo : adornmentKey ∈ OrderedMap.keys ms) :
    (object ms).isRefNode = true := by
  obtain ⟨y, hy⟩ := OrderedMap.exists_find?_of_mem_keys (h.beside hinfo)
  obtain ⟨text, rfl⟩ := string_of_isSome (h.text _ (OrderedMap.mem_of_find? hy) rfl)
  simp [Json.isRefNode, refText?, member?, hy, string?]

end PairedMembers

/-! ## Nodes that scans make -/

theorem throughout_paired_object : (object ms).Throughout Paired ↔
    PairedMembers ms ∧ ∀ m ∈ ms, m.2.Throughout Paired := by
  rw [throughout_object, paired_object]

theorem paired_adornment (r : Reference) : r.adornment.Throughout Paired :=
  Scan.throughout_adornment (fun _ _ href hinfo ms heq => by
    subst heq
    exact .of_notMem (OrderedMap.find?_eq_none_iff.mp href)
      (OrderedMap.find?_eq_none_iff.mp hinfo)) r

theorem paired_refNode (text : String) : (refNode text).Throughout Paired := by
  refine throughout_paired_object.mpr ⟨⟨fun m hm _ => ?_, fun _ => ?_⟩, fun m hm => ?_⟩
  · cases List.mem_singleton.mp hm
    rfl
  · exact List.mem_singleton_self _
  · cases List.mem_singleton.mp hm
    exact paired_string text

theorem paired_mergeFields (hx : x.Throughout Paired) (hy : y.Throughout Paired) :
    (x.mergeFields y).Throughout Paired := by
  cases x with
  | object ms =>
    cases y with
    | object incoming =>
      rw [throughout_paired_object] at hx hy
      refine throughout_paired_object.mpr ⟨hx.1.overlay hy.1, fun m hm => ?_⟩
      exact (OrderedMap.mem_overlay hm).elim (hx.2 m) (hy.2 m)
    | _ => exact hy
  | _ => exact hy

theorem paired_adorned (h : x.Throughout Paired) (r : Reference) :
    (Scan.adorned x r).Throughout Paired := by
  refine paired_mergeFields h (throughout_paired_object.mpr ⟨⟨fun m hm hname => ?_, fun _ => ?_⟩,
    fun m hm => ?_⟩)
  · simp only [List.mem_cons, List.not_mem_nil, or_false] at hm
    rcases hm with rfl | rfl
    · rfl
    · exact absurd hname.symm Scan.refKey_ne_adornmentKey
  · exact List.mem_cons_self ..
  · simp only [List.mem_cons, List.not_mem_nil, or_false] at hm
    rcases hm with rfl | rfl
    · exact paired_string r.text
    · exact paired_adornment r

theorem paired_withoutRef (h : x.Throughout Paired) : x.withoutRef.Throughout Paired := by
  cases x with
  | object ms =>
    rw [throughout_paired_object] at h
    refine throughout_paired_object.mpr ⟨.of_notMem (fun hmem => ?_) fun hmem => ?_, fun m hm => ?_⟩
    · obtain ⟨m, hm, hname⟩ := List.mem_map.mp hmem
      simpa [hname] using (List.mem_filter.mp hm).2
    · obtain ⟨m, hm, hname⟩ := List.mem_map.mp hmem
      simpa [hname] using (List.mem_filter.mp hm).2
    · exact h.2 m (List.mem_filter.mp hm).1
  | _ => exact h

theorem paired_withoutAdornment (h : x.Throughout Paired) :
    x.withoutAdornment.Throughout Paired := by
  cases x with
  | object ms =>
    rw [throughout_paired_object] at h
    refine throughout_paired_object.mpr ⟨⟨fun m hm => ?_, fun hmem => ?_⟩, fun m hm => ?_⟩
    · exact h.1.text m (List.mem_filter.mp hm).1
    · obtain ⟨m, hm, hname⟩ := List.mem_map.mp hmem
      simpa [hname] using (List.mem_filter.mp hm).2
    · exact h.2 m (List.mem_filter.mp hm).1
  | _ => exact h

/-- A text that stays a text keeps its node paired, whatever becomes of the other children. -/
theorem paired_withKids {ys : List Json} (h : x.Throughout Paired)
    (hlen : ys.length = x.kids.length) (hys : ∀ k ∈ x.kids.zip ys,
      (∀ text, k.1.2 = .string text → k.2 = .string text) ∧ k.2.Throughout Paired) :
    (x.withKids ys).Throughout Paired := by
  refine .withKids hlen ?_ fun k hk => (hys k hk).2
  cases x with
  | object ms =>
    have hkeys : OrderedMap.keys (withValues ms ys) = OrderedMap.keys ms :=
      keys_withValues (by rwa [length_kids_object] at hlen)
    have hms := paired_object.mp h.here
    refine paired_object.mpr ⟨fun m hm hname => ?_, ?_⟩
    · have hkid : (Segment.key m.1, m.2) ∈ ((object ms).withKids ys).kids :=
        List.mem_map_of_mem hm
      rw [Kidwise.kids_withKids hlen] at hkid
      obtain ⟨p, hp, heq⟩ := List.mem_map.mp hkid
      obtain ⟨hstep, hvalue⟩ := Prod.mk.inj heq
      obtain ⟨m', hm', hold⟩ := List.mem_map.mp (List.of_mem_zip hp).1
      rw [← hold] at hstep
      obtain ⟨text, htext⟩ := string_of_isSome (hms.text m' hm' ((Segment.key.inj hstep).trans hname))
      rw [← hvalue, (hys p hp).1 text (by rw [← hold]; exact htext)]
      rfl
    · rw [hkeys]
      exact hms.beside
  | _ => exact paired_of_no_object (by simp [withKids])

/-! ## Places -/

/-- What stands under a `$ref` in a paired tree is a text. -/
theorem text_of_lookup {front : List String} (h : x.Throughout Paired)
    (hx : Pointer.lookup x (front ++ [refKey]) = some y) : ∃ text, y = .string text := by
  induction front generalizing x with
  | nil =>
    obtain ⟨child, hchild, hlast⟩ := Option.bind_eq_some_iff.mp hx
    cases hlast
    cases x with
    | object ms =>
      exact string_of_isSome
        ((paired_object.mp h.here).text _ (OrderedMap.mem_of_find? hchild) rfl)
    | array xs =>
      have hnone : Pointer.index? refKey = none := by decide
      simp [Pointer.child?, hnone] at hchild
    | null | bool | number | string => cases hchild
  | cons token front ih =>
    simp only [List.cons_append, Pointer.lookup, Pointer.child?_eq, Option.bind_eq_some_iff] at hx
    obtain ⟨child, ⟨segment, -, hchild⟩, hrest⟩ := hx
    exact ih (h.step? hchild) hrest

/-- Writing a paired tree to a place keeps a tree paired, if a text is written under a `$ref`. -/
theorem paired_overwrite {tokens : List String} (h : x.Throughout Paired)
    (hvalue : value.Throughout Paired)
    (htext : ∀ front, tokens = front ++ [refKey] → ∃ text, value = .string text)
    (hnew : Pointer.overwrite x value tokens = some new) : new.Throughout Paired := by
  induction tokens generalizing x new with
  | nil =>
    cases hnew
    exact hvalue
  | cons token rest ih =>
    obtain ⟨step, old, child, hstep, hold, hrest, rfl⟩ := Pointer.overwrite_cons hnew
    have hchild := ih (h.step? hold) (fun front heq => htext (token :: front) (by rw [heq]; rfl))
      hrest
    refine h.replace ?_ hchild
    cases x with
    | object ms =>
      cases hstep
      have hms := paired_object.mp h.here
      have hfind : OrderedMap.find? ms token = some old := hold
      refine paired_object.mpr (hms.put (fun hname => ?_) fun hname => ?_)
      · subst hname
        cases rest with
        | nil =>
          cases hrest
          obtain ⟨text, rfl⟩ := htext [] rfl
          rfl
        | cons next rest =>
          -- nothing lies below a text
          obtain ⟨text, rfl⟩ := string_of_isSome (hms.text _ (OrderedMap.mem_of_find? hfind) rfl)
          cases hrest
      · exact hms.beside (hname ▸ OrderedMap.mem_keys_of_find? hfind)
    | array xs =>
      cases step with
      | key name => cases hold
      | index i => exact paired_of_no_object (by simp [replace])
    | null | bool | number | string => cases hstep

/-! ## Storing -/

/-- A tree is paired except at some of its places. -/
def PairedBut (E : List Segment → Prop) (x : Json) : Prop :=
  ∀ path y, x.follow? path = some y → y.Paired ∨ E path

variable {E : List Segment → Prop}

theorem Throughout.follow? {P : Json → Prop} {path : List Segment} (h : x.Throughout P)
    (hy : x.follow? path = some y) : y.Throughout P := by
  induction path generalizing x with
  | nil =>
    cases hy
    exact h
  | cons step path ih =>
    obtain ⟨child, hchild, hrest⟩ := Option.bind_eq_some_iff.mp hy
    exact ih (h.step? hchild) hrest

theorem pairedBut_of_throughout (h : x.Throughout Paired) : x.PairedBut E :=
  fun _ _ hy => .inl (h.follow? hy).here

theorem PairedBut.slotOr {names : List String} {slot : Option Json}
    (h : ∀ y, slot = some y → y.PairedBut E) : (slotOr slot (names.map .key)).PairedBut E := by
  have hempty : (object []).Throughout Paired :=
    throughout_paired_object.mpr ⟨.of_notMem List.not_mem_nil List.not_mem_nil, List.forall_mem_nil _⟩
  unfold Json.slotOr
  split
  · rw [containerFor_keys]
    exact pairedBut_of_throughout hempty
  · rw [containerFor_keys]
    exact pairedBut_of_throughout hempty
  · exact h _ rfl

/-- Storing by way of ordinary names leaves what is not at or below the end as paired as it was. -/
theorem PairedBut.insertAt {names : List String} (h : x.PairedBut E) (href : refKey ∉ names)
    (hinfo : adornmentKey ∉ names)
    (hvalue : ∀ path y, value.follow? path = some y → y.Paired ∨ E (names.map .key ++ path))
    (hnew : x.insertAt value (names.map .key) = some new) : new.PairedBut E := by
  induction names generalizing x new E with
  | nil =>
    rw [List.map_nil, insertAt_nil] at hnew
    cases hnew
    exact hvalue
  | cons name rest ih =>
    obtain ⟨ms, below, rfl, rfl, hbelow⟩ := insertAt_cons_cases hnew
    rw [List.mem_cons, not_or] at href hinfo
    obtain ⟨hname, href⟩ := href
    obtain ⟨hname', hinfo⟩ := hinfo
    intro path y hy
    cases path with
    | nil =>
      cases hy
      refine (h [] _ rfl).imp_left fun hms => ?_
      exact paired_object.mpr ((paired_object.mp hms).put (fun heq => absurd heq.symm hname)
        fun heq => absurd heq.symm hname')
    | cons step path =>
      obtain ⟨child, hchild, hrest⟩ := Option.bind_eq_some_iff.mp hy
      rw [step?_put] at hchild
      split at hchild
      · next heq =>
        subst heq
        cases hchild
        have hslot : (Json.slotOr (OrderedMap.find? ms name) (rest.map .key)).PairedBut
            fun path => E (.key name :: path) := by
          refine .slotOr fun z hz path' y' hy' => h (.key name :: path') y' ?_
          exact Option.bind_eq_some_iff.mpr ⟨z, hz, hy'⟩
        exact ih hslot href hinfo hvalue hbelow path y hrest
      · exact h (step :: path) y (Option.bind_eq_some_iff.mpr ⟨child, hchild, hrest⟩)

/-! ## Taking adornments off -/

/-- Where adornments were taken off, a path leads to what it led to, without its adornments. -/
theorem follow?_of_stripAdornments {path : List Segment}
    (h : x.stripAdornments.follow? path = some y) :
    ∃ z, x.follow? path = some z ∧ y = z.stripAdornments := by
  induction path generalizing x with
  | nil => exact ⟨x, rfl, (Option.some.inj h).symm⟩
  | cons step path ih =>
    obtain ⟨child, hchild, hrest⟩ := Option.bind_eq_some_iff.mp h
    rw [step?_stripAdornments] at hchild
    split at hchild
    · cases hchild
    · obtain ⟨a, ha, rfl⟩ := Option.map_eq_some_iff.mp hchild
      obtain ⟨z, hz, rfl⟩ := ih hrest
      exact ⟨z, Option.bind_eq_some_iff.mpr ⟨a, ha, hz⟩, rfl⟩

/-- No adornment is left in a paired tree, except at the exempt places. -/
theorem PairedBut.of_stripAdornments {path : List Segment} (h : x.PairedBut E)
    (hy : x.stripAdornments.follow? (path ++ [.key adornmentKey]) = some y) : E path := by
  rw [follow?_append] at hy
  obtain ⟨a, ha, hlast⟩ := Option.bind_eq_some_iff.mp hy
  obtain ⟨z, hz, rfl⟩ := follow?_of_stripAdornments ha
  refine (h path z hz).resolve_left fun hpaired => ?_
  obtain ⟨b, hb, -⟩ := Option.bind_eq_some_iff.mp hlast
  rw [step?_stripAdornments] at hb
  split at hb
  · cases hb
  · next hplain =>
    obtain ⟨c, hc, -⟩ := Option.map_eq_some_iff.mp hb
    obtain ⟨ms, rfl, hfind⟩ := step?_key hc
    exact hplain ⟨(paired_object.mp hpaired).isRefNode (OrderedMap.mem_keys_of_find? hfind), rfl⟩

end ApiBundle.Json
