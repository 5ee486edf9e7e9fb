import ApiBundle.DocumentText
import ApiBundle.Proofs.OrderedMap
import ApiBundle.Proofs.Tree.Kids

/-!
# Documents that were read are well formed

Both readers put members into an object one by one, so no object of a tree that was read has two
members of one name. In such a tree a step leads to the one child that stands behind it.
-/

namespace ApiBundle

namespace Json

theorem wellFormedMembers_iff {ms : List (String × Json)} :
    WellFormedMembers ms ↔ ∀ m ∈ ms, m.2.WellFormed := by
  induction ms with
  | nil => simp [WellFormedMembers]
  | cons m ms ih => simp [WellFormedMembers, ih]

theorem wellFormedItems_iff {xs : List Json} : WellFormedItems xs ↔ ∀ x ∈ xs, x.WellFormed := by
  induction xs with
  | nil => simp [WellFormedItems]
  | cons x xs ih => simp [WellFormedItems, ih]

theorem mem_indexed {position : Nat} {xs : List Json} {k : Segment × Json}
    (h : k ∈ indexed position xs) : ∃ i, k.1 = .index (position + i) ∧ xs[i]? = some k.2 := by
  induction xs generalizing position with
  | nil => cases h
  | cons x xs ih =>
    rcases List.mem_cons.mp h with rfl | h
    · exact ⟨0, rfl, rfl⟩
    · obtain ⟨i, hi, hx⟩ := ih h
      exact ⟨i + 1, by rw [hi]; congr 1; omega, by simpa using hx⟩

namespace WellFormed

variable {x : Json}

/-- Every child is what its step leads to. -/
theorem step?_of_mem_kids (h : x.WellFormed) {k : Segment × Json} (hk : k ∈ x.kids) :
    x.step? k.1 = some k.2 := by
  cases x with
  | object ms =>
    obtain ⟨m, hm, rfl⟩ := List.mem_map.mp hk
    exact OrderedMap.find?_of_nodup h.1 hm
  | array xs =>
    obtain ⟨i, hi, hx⟩ := mem_indexed hk
    rw [hi, Nat.zero_add]
    exact hx
  | null | bool | number | string => cases hk

theorem step? (h : x.WellFormed) {segment : Segment} {y : Json}
    (hy : x.step? segment = some y) : y.WellFormed := by
  cases x with
  | object ms =>
    cases segment with
    | key k => exact wellFormedMembers_iff.mp h.2 _ (OrderedMap.mem_of_find? hy)
    | index i => cases hy
  | array xs =>
    cases segment with
    | key k => cases hy
    | index i => exact wellFormedItems_iff.mp h _ (List.mem_of_getElem? hy)
  | null | bool | number | string => cases segment <;> cases hy

theorem follow? (h : x.WellFormed) {path : List Segment} {y : Json}
    (hy : x.follow? path = some y) : y.WellFormed := by
  induction path generalizing x with
  | nil =>
    cases hy
    exact h
  | cons segment rest ih =>
    obtain ⟨child, hchild, hrest⟩ := Option.bind_eq_some_iff.mp hy
    exact ih (h.step? hchild) hrest

end WellFormed

/-! ## Reading -/

theorem wellFormed_empty : (object []).WellFormed := ⟨List.nodup_nil, trivial⟩

/-- Putting a well-formed member into a well-formed object. -/
theorem wellFormed_put {ms : OrderedMap String Json} {x : Json} (h : (object ms).WellFormed)
    (hx : x.WellFormed) (k : String) : (object (OrderedMap.put ms k x)).WellFormed := by
  refine ⟨OrderedMap.nodup_keys_put h.1 k x, wellFormedMembers_iff.mpr fun m hm => ?_⟩
  rcases OrderedMap.mem_put hm with hold | rfl
  · exact wellFormedMembers_iff.mp h.2 m hold
  · exact hx

/-- A reader in two steps succeeds when both do. -/
theorem except_bind_eq_ok {ε α β : Type} {m : Except ε α} {f : α → Except ε β} {b : β} :
    (m >>= f) = .ok b ↔ ∃ a, m = .ok a ∧ f a = .ok b := by
  cases m with
  | error e =>
    constructor
    · intro h
      cases h
    · rintro ⟨_, h, -⟩
      cases h
  | ok a =>
    constructor
    · exact fun h => ⟨a, rfl, h⟩
    · rintro ⟨_, h, hf⟩
      cases h
      exact hf

theorem wellFormed_of_readWord {word cs rest : List Char} {value x : Json}
    (h : readWord word value cs = .ok (x, rest)) (hvalue : value.WellFormed) : x.WellFormed := by
  induction word generalizing cs with
  | nil =>
    cases h
    exact hvalue
  | cons w ws ih =>
    cases cs with
    | nil => cases h
    | cons c cs =>
      unfold readWord at h
      split at h
      · exact ih h
      · cases h

/-- What the JSON reader reads is well formed; by induction on its fuel. -/
theorem wellFormed_of_read (fuel : Nat) :
    (∀ {depth cs x rest}, readValue fuel depth cs = .ok (x, rest) → x.WellFormed) ∧
    (∀ {depth read cs xs rest}, (∀ x ∈ read, x.WellFormed) →
      readItems fuel depth read cs = .ok (xs, rest) → ∀ x ∈ xs, x.WellFormed) ∧
    (∀ {depth read cs ms rest}, (object read).WellFormed →
      readMembers fuel depth read cs = .ok (ms, rest) → (object ms).WellFormed) := by
  induction fuel with
  | zero =>
    refine ⟨fun h => ?_, fun _ h => ?_, fun _ h => ?_⟩ <;> cases h
  | succ fuel ih =>
    obtain ⟨ihValue, ihItems, ihMembers⟩ := ih
    refine ⟨fun {depth cs x rest} h => ?_, fun {depth read cs xs rest} hread h => ?_,
      fun {depth read cs ms rest} hread h => ?_⟩
    · unfold readValue at h
      split at h
      · cases h
      · exact wellFormed_of_readWord h trivial
      · exact wellFormed_of_readWord h trivial
      · exact wellFormed_of_readWord h trivial
      · obtain ⟨_, _, h⟩ := except_bind_eq_ok.mp h
        cases h
        trivial
      · obtain ⟨_, _, h⟩ := except_bind_eq_ok.mp h
        cases h
        trivial
      · split at h
        · cases h
        · split at h
          · cases h
            trivial
          · obtain ⟨⟨items, _⟩, hitems, h⟩ := except_bind_eq_ok.mp h
            cases h
            exact wellFormedItems_iff.mpr (ihItems (by simp) hitems)
      · split at h
        · cases h
        · split at h
          · cases h
            exact wellFormed_empty
          · obtain ⟨⟨members, _⟩, hmembers, h⟩ := except_bind_eq_ok.mp h
            cases h
            exact ihMembers wellFormed_empty hmembers
      · split at h
        · obtain ⟨_, _, h⟩ := except_bind_eq_ok.mp h
          cases h
          trivial
        · cases h
    · unfold readItems at h
      obtain ⟨⟨x, rest'⟩, hx, h⟩ := except_bind_eq_ok.mp h
      have hall : ∀ y ∈ x :: read, y.WellFormed := by
        intro y hy
        rcases List.mem_cons.mp hy with rfl | hy
        · exact ihValue hx
        · exact hread y hy
      simp only at h
      split at h
      · exact ihItems hall h
      · cases h
        exact fun y hy => hall y (List.mem_reverse.mp hy)
      · cases h
      · cases h
    · unfold readMembers at h
      split at h
      · obtain ⟨⟨key, rest'⟩, hkey, h⟩ := except_bind_eq_ok.mp h
        simp only at h
        split at h
        · obtain ⟨⟨x, rest''⟩, hx, h⟩ := except_bind_eq_ok.mp h
          have hput := wellFormed_put hread (ihValue hx) key
          simp only at h
          split at h
          · exact ihMembers hput h
          · cases h
            exact hput
          · cases h
          · cases h
        · cases h
        · cases h
      · cases h
      · cases h

end Json

namespace Yaml

open Json

theorem wellFormed_of_numberToJson {n : YamlNumber} {y : Json} (h : numberToJson n = .ok y) :
    y.WellFormed := by
  cases n <;> cases h <;> trivial

mutual

/-- What a YAML value becomes is well formed. -/
theorem wellFormed_of_toJson {x : Yaml} {y : Json} (h : x.toJson = .ok y) : y.WellFormed := by
  cases x with
  | null | bool | string =>
    cases h
    trivial
  | number n => exact wellFormed_of_numberToJson h
  | sequence items =>
    unfold toJson at h
    obtain ⟨ys, hys, h⟩ := except_bind_eq_ok.mp h
    cases h
    exact wellFormedItems_iff.mpr (wellFormed_of_itemsToJson hys)
  | mapping entries =>
    unfold toJson at h
    obtain ⟨ms, hms, h⟩ := except_bind_eq_ok.mp h
    cases h
    exact wellFormed_of_entriesToJson wellFormed_empty hms
  | tagged tag x =>
    unfold toJson at h
    exact wellFormed_of_toJson h

theorem wellFormed_of_itemsToJson {xs : List Yaml} {ys : List Json}
    (h : itemsToJson xs = .ok ys) : ∀ y ∈ ys, y.WellFormed := by
  cases xs with
  | nil =>
    cases h
    simp
  | cons x xs =>
    unfold itemsToJson at h
    obtain ⟨y, hy, h⟩ := except_bind_eq_ok.mp h
    obtain ⟨ys', hys, h⟩ := except_bind_eq_ok.mp h
    cases h
    intro z hz
    rcases List.mem_cons.mp hz with rfl | hz
    · exact wellFormed_of_toJson hy
    · exact wellFormed_of_itemsToJson hys z hz

theorem wellFormed_of_entriesToJson {ms ms' : List (String × Json)} {entries : List (Yaml × Yaml)}
    (hms : (object ms).WellFormed) (h : entriesToJson ms entries = .ok ms') :
    (object ms').WellFormed := by
  cases entries with
  | nil =>
    cases h
    exact hms
  | cons entry rest =>
    obtain ⟨k, x⟩ := entry
    unfold entriesToJson at h
    obtain ⟨key, _, h⟩ := except_bind_eq_ok.mp h
    obtain ⟨value, hvalue, h⟩ := except_bind_eq_ok.mp h
    exact wellFormed_of_entriesToJson (wellFormed_put hms (wellFormed_of_toJson hvalue) key) h

end

end Yaml

theorem mapError_eq_ok {ε ε' α : Type} {m : Except ε α} {f : ε → ε'} {a : α}
    (h : m.mapError f = .ok a) : m = .ok a := by
  cases m with
  | error e => cases h
  | ok b => exact congrArg _ (Except.ok.inj h)

theorem wellFormed_of_readJson {text : String} {tree : Json} (h : readJson text = .ok tree) :
    tree.WellFormed := by
  have hparse := mapError_eq_ok h
  unfold Json.parse at hparse
  obtain ⟨⟨value, rest⟩, hread, hlast⟩ := Json.except_bind_eq_ok.mp hparse
  simp only at hlast
  split at hlast
  · cases hlast
    exact (Json.wellFormed_of_read _).1 hread
  · cases hlast

theorem wellFormed_of_readYaml {text : String} {tree : Json} (h : readYaml text = .ok tree) :
    tree.WellFormed := by
  obtain ⟨v, -, hv⟩ := Json.except_bind_eq_ok.mp h
  exact Yaml.wellFormed_of_toJson (mapError_eq_ok hv)

/-- Documents that were read are well formed. -/
theorem wellFormed_of_parseDocument {text : String} {tree : Json}
    (h : parseDocument text = .ok tree) : tree.WellFormed := by
  have last : ∀ {t : Json},
      (if t.isNull then throw .empty else pure t : Except DocumentError Json) = .ok tree →
      t = tree := by
    intro t ht
    split at ht <;> cases ht
    rfl
  unfold parseDocument at h
  simp only at h
  split at h
  · obtain ⟨t, ht, hlast⟩ := Json.except_bind_eq_ok.mp h
    exact last hlast ▸ wellFormed_of_readJson ht
  · obtain ⟨t, ht, hlast⟩ := Json.except_bind_eq_ok.mp h
    exact last hlast ▸ wellFormed_of_readYaml ht

end ApiBundle
