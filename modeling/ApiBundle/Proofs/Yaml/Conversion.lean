import ApiBundle.Proofs.Tree.WellFormed
import Mathlib.Data.List.Forall2

/-!
# What YAML values become

A YAML value is no JSON tree exactly if, tags aside, it holds a number that is not finite, or a key
that is a sequence or a mapping (`Yaml.HasFault`). Every other value becomes a tree. Different keys
may have one text, as `200` and `"200"` have, and where two keys of one mapping do (`Yaml.Merges`),
the later entry takes the place of the earlier one. Where none do, the tree has the shape of the
value: every item and every entry is there, in order (`Yaml.SameShape`). Nothing but such keys makes
a tree of another shape (`Yaml.converts`).
-/

namespace ApiBundle

/-- Whether a number can be expressed. -/
def YamlNumber.isFinite : YamlNumber → Bool
  | .integer _ | .float _ => true
  | .infinite _ | .undefined => false

namespace Yaml

open Json

/-- A value without the tags around it. -/
def untagged : Yaml → Yaml
  | .tagged _ x => untagged x
  | x => x

/-- Whether a value holds others. -/
def isCollection : Yaml → Bool
  | .sequence _ | .mapping _ => true
  | _ => false

/-- What is wrong somewhere in a value, tags aside. -/
inductive HasFault : Yaml → YamlError → Prop where
  | number {n : YamlNumber} (h : n.isFinite = false) : HasFault (.number n) (.unsupportedNumber n)
  | key {entries : List (Yaml × Yaml)} {k x : Yaml} (mem : (k, x) ∈ entries)
      (h : k.untagged.isCollection = true) :
      HasFault (.mapping entries) (.unsupportedKey k.untagged)
  | item {items : List Yaml} {x : Yaml} {e : YamlError} (mem : x ∈ items) (h : HasFault x e) :
      HasFault (.sequence items) e
  | value {entries : List (Yaml × Yaml)} {k x : Yaml} {e : YamlError} (mem : (k, x) ∈ entries)
      (h : HasFault x e) : HasFault (.mapping entries) e
  | tagged {tag : String} {x : Yaml} {e : YamlError} (h : HasFault x e) :
      HasFault (.tagged tag x) e

/-- The names that keys become. -/
def names (entries : List (Yaml × Yaml)) : List String :=
  entries.filterMap fun entry => (keyText entry.1).toOption

/-- Somewhere in a value, two keys of one mapping have one text. -/
inductive Merges : Yaml → Prop where
  | here {entries : List (Yaml × Yaml)} (h : ¬(names entries).Nodup) : Merges (.mapping entries)
  | item {items : List Yaml} {x : Yaml} (mem : x ∈ items) (h : Merges x) : Merges (.sequence items)
  | value {entries : List (Yaml × Yaml)} {k x : Yaml} (mem : (k, x) ∈ entries) (h : Merges x) :
      Merges (.mapping entries)
  | tagged {tag : String} {x : Yaml} (h : Merges x) : Merges (.tagged tag x)

mutual

/-- A tree has the shape of a value: tags aside, the same items and entries in the same order. -/
inductive SameShape : Yaml → Json → Prop where
  | null : SameShape .null .null
  | bool (b : Bool) : SameShape (.bool b) (.bool b)
  | integer (n : Int) : SameShape (.number (.integer n)) (.number (.integer n))
  | float (x : Double) : SameShape (.number (.float x)) (.number (.float x))
  | string (s : String) : SameShape (.string s) (.string s)
  | sequence {items : List Yaml} {ys : List Json} (h : List.Forall₂ SameShape items ys) :
      SameShape (.sequence items) (.array ys)
  | mapping {entries : List (Yaml × Yaml)} {ms : List (String × Json)}
      (h : List.Forall₂ SameEntry entries ms) : SameShape (.mapping entries) (.object ms)
  | tagged {tag : String} {x : Yaml} {y : Json} (h : SameShape x y) : SameShape (.tagged tag x) y

/-- A member has the text of an entry's key as its name and the shape of its value. -/
inductive SameEntry : Yaml × Yaml → String × Json → Prop where
  | intro {entry : Yaml × Yaml} {m : String × Json} (named : keyText entry.1 = .ok m.1)
      (h : SameShape entry.2 m.2) : SameEntry entry m

end

/-- What an entry becomes. -/
def Enters (entry : Yaml × Yaml) (member : String × Json) : Prop :=
  keyText entry.1 = .ok member.1 ∧ entry.2.toJson = .ok member.2

/-- What conversion does with a value. -/
structure Converts (x : Yaml) : Prop where
  /-- It fails for the values with a fault. -/
  fails : (∃ e, x.toJson = .error e) ↔ ∃ e, HasFault x e
  /-- The fault it tells is there. -/
  told : ∀ {e}, x.toJson = .error e → HasFault x e
  /-- A sequence becomes an array of what its items become. -/
  listed : ∀ {items y}, x = .sequence items → x.toJson = .ok y →
    ∃ ys, y = .array ys ∧ List.Forall₂ (fun x y => x.toJson = .ok y) items ys
  /-- A mapping becomes the object into which what its entries become is put, in order. -/
  entered : ∀ {entries y}, x = .mapping entries → x.toJson = .ok y →
    ∃ added, List.Forall₂ Enters entries added ∧ y = .object (OrderedMap.overlay [] added)
  /-- Where no keys merge, the tree is the one of the value's shape. -/
  kept : ¬Merges x → ∀ y, x.toJson = .ok y ↔ SameShape x y
  /-- Where keys merge, the tree is of another shape. -/
  lost : Merges x → ∀ {y}, x.toJson = .ok y → ¬SameShape x y

variable {x : Yaml} {y : Json} {e : YamlError} {items : List Yaml} {ys : List Json}
  {entries : List (Yaml × Yaml)} {ms : List (String × Json)}

/-- Induction over the values inside a value. -/
@[elab_as_elim]
theorem inside_induction {motive : Yaml → Prop} (null : motive .null)
    (bool : ∀ b, motive (.bool b)) (number : ∀ n, motive (.number n))
    (string : ∀ s, motive (.string s))
    (sequence : ∀ items, (∀ x ∈ items, motive x) → motive (.sequence items))
    (mapping : ∀ entries, (∀ entry ∈ entries, motive entry.2) → motive (.mapping entries))
    (tagged : ∀ tag x, motive x → motive (.tagged tag x)) (x : Yaml) : motive x := by
  cases x with
  | null => exact null
  | bool b => exact bool b
  | number n => exact number n
  | string s => exact string s
  | sequence items =>
    exact sequence items fun x _ =>
      inside_induction null bool number string sequence mapping tagged x
  | mapping entries =>
    exact mapping entries fun entry _ =>
      inside_induction null bool number string sequence mapping tagged entry.2
  | tagged tag x =>
    exact tagged tag x (inside_induction null bool number string sequence mapping tagged x)
termination_by sizeOf x
decreasing_by
  · have hlt := List.sizeOf_lt_of_mem ‹x ∈ items›
    simp only [Yaml.sequence.sizeOf_spec]
    omega
  · have hlt := List.sizeOf_lt_of_mem ‹entry ∈ entries›
    obtain ⟨k, x⟩ := entry
    simp only [Prod.mk.sizeOf_spec, Yaml.mapping.sizeOf_spec] at hlt ⊢
    omega
  · simp only [Yaml.tagged.sizeOf_spec]
    omega

/-! ## Lists one by one -/

section OneByOne

variable {α β : Type} {R S : α → β → Prop} {l : List α} {l' : List β}

theorem forall₂_congr_of_mem (h : ∀ a ∈ l, ∀ b, R a b ↔ S a b) :
    List.Forall₂ R l l' ↔ List.Forall₂ S l l' := by
  induction l generalizing l' with
  | nil => simp
  | cons a l ih =>
    obtain ⟨ha, hl⟩ := List.forall_mem_cons.mp h
    simp [List.forall₂_cons_left_iff, ha, ih hl]

theorem exists_of_forall₂_mem (h : List.Forall₂ R l l') {a : α} (ha : a ∈ l) :
    ∃ b ∈ l', R a b := by
  induction h with
  | nil => cases ha
  | cons hab _ ih =>
    rcases List.mem_cons.mp ha with rfl | ha
    · exact ⟨_, List.mem_cons_self .., hab⟩
    · obtain ⟨b, hb, hr⟩ := ih ha
      exact ⟨b, List.mem_cons_of_mem _ hb, hr⟩

end OneByOne

/-! ## Keys -/

theorem keyText_eq_error_iff {k : Yaml} :
    keyText k = .error e ↔ k.untagged.isCollection = true ∧ e = .unsupportedKey k.untagged := by
  induction k using untagged.induct with
  | case1 tag x ih => simpa [keyText, untagged] using ih
  | case2 x h =>
    cases x with
    | tagged tag x => exact absurd rfl (h tag x)
    | sequence | mapping =>
      simp only [keyText, untagged, isCollection, true_and, Except.error.injEq]
      exact eq_comm
    | bool b => cases b <;> simp [keyText, untagged, isCollection]
    | null | number | string => simp [keyText, untagged, isCollection]

/-- The names of entries that became members. -/
theorem names_eq_keys {R : Yaml × Yaml → String × Json → Prop}
    (hname : ∀ entry m, R entry m → keyText entry.1 = .ok m.1) (h : List.Forall₂ R entries ms) :
    names entries = OrderedMap.keys ms := by
  induction h with
  | nil => rfl
  | cons hm _ ih =>
    simp only [names, OrderedMap.keys, List.filterMap_cons, hname _ _ hm, List.map_cons,
      Except.toOption] at ih ⊢
    rw [ih]

/-! ## Shapes -/

/-- A well-formed tree of a value's shape has no place for two members of one name. -/
theorem not_merges_of_sameShape (h : SameShape x y) (hy : y.WellFormed) : ¬Merges x := by
  intro hmerges
  induction hmerges generalizing y with
  | here hdup =>
    cases h with
    | mapping hms => exact hdup (names_eq_keys (fun _ _ ⟨hname, _⟩ => hname) hms ▸ hy.1)
  | item mem _ ih =>
    cases h with
    | sequence hys =>
      obtain ⟨y, hmem, hshape⟩ := exists_of_forall₂_mem hys mem
      exact ih hshape (wellFormedItems_iff.mp hy y hmem)
  | value mem _ ih =>
    cases h with
    | mapping hms =>
      obtain ⟨m, hmem, ⟨-, hshape⟩⟩ := exists_of_forall₂_mem hms mem
      exact ih hshape (wellFormedMembers_iff.mp hy.2 m hmem)
  | tagged _ ih =>
    cases h with
    | tagged hshape => exact ih hshape hy

/-! ## Conversions that succeed -/

theorem itemsToJson_eq_ok_iff :
    itemsToJson items = .ok ys ↔ List.Forall₂ (fun x y => x.toJson = .ok y) items ys := by
  induction items generalizing ys with
  | nil => simp [itemsToJson, eq_comm]
  | cons x items ih =>
    simp [itemsToJson, except_bind_eq_ok, List.forall₂_cons_left_iff, ih, pure, Except.pure]
    grind

theorem entriesToJson_eq_ok_iff {start : List (String × Json)} :
    entriesToJson start entries = .ok ms ↔
      ∃ added, List.Forall₂ Enters entries added ∧ ms = OrderedMap.overlay start added := by
  induction entries generalizing start with
  | nil => simp [entriesToJson, OrderedMap.overlay, eq_comm]
  | cons entry entries ih =>
    obtain ⟨k, x⟩ := entry
    simp only [entriesToJson, except_bind_eq_ok, ih, List.forall₂_cons_left_iff]
    constructor
    · rintro ⟨name, hname, y, hy, added, hadded, rfl⟩
      exact ⟨(name, y) :: added, ⟨(name, y), added, ⟨hname, hy⟩, hadded, rfl⟩, rfl⟩
    · rintro ⟨_, ⟨⟨name, y⟩, added, ⟨hname, hy⟩, hadded, rfl⟩, rfl⟩
      exact ⟨name, hname, y, hy, added, hadded, rfl⟩

theorem toJson_sequence : toJson (.sequence items) = .ok y ↔
    ∃ ys, y = .array ys ∧ List.Forall₂ (fun x y => x.toJson = .ok y) items ys := by
  simp only [toJson, except_bind_eq_ok, itemsToJson_eq_ok_iff]
  constructor
  · rintro ⟨ys, hys, heq⟩
    exact ⟨ys, (Except.ok.inj heq).symm, hys⟩
  · rintro ⟨ys, rfl, hys⟩
    exact ⟨ys, hys, rfl⟩

theorem toJson_mapping : toJson (.mapping entries) = .ok y ↔
    ∃ added, List.Forall₂ Enters entries added ∧ y = .object (OrderedMap.overlay [] added) := by
  simp only [toJson, except_bind_eq_ok, entriesToJson_eq_ok_iff]
  constructor
  · rintro ⟨_, ⟨added, hadded, rfl⟩, heq⟩
    exact ⟨added, hadded, (Except.ok.inj heq).symm⟩
  · rintro ⟨added, hadded, rfl⟩
    exact ⟨_, ⟨added, hadded, rfl⟩, rfl⟩

/-- Where no keys merge, a value becomes the tree of its shape; by induction over the values
inside it. -/
theorem toJson_eq_ok_iff (h : ¬Merges x) : x.toJson = .ok y ↔ SameShape x y := by
  induction x using inside_induction generalizing y with
  | null | bool | string =>
    constructor
    · rintro ⟨⟩
      constructor
    · rintro ⟨⟩
      rfl
  | number n =>
    cases n with
    | integer | float =>
      constructor
      · rintro ⟨⟩
        constructor
      · rintro ⟨⟩
        rfl
    | infinite | undefined => exact iff_of_false nofun nofun
  | sequence items ih =>
    have hitems : ∀ x ∈ items, ∀ y, x.toJson = .ok y ↔ SameShape x y :=
      fun x hx y => ih x hx fun hm => h (.item hx hm)
    rw [toJson_sequence]
    simp only [forall₂_congr_of_mem hitems]
    constructor
    · rintro ⟨ys, rfl, hys⟩
      exact .sequence hys
    · rintro ⟨⟩
      exact ⟨_, rfl, ‹_›⟩
  | mapping entries ih =>
    have hentries : ∀ entry ∈ entries, ∀ m, Enters entry m ↔ SameEntry entry m := by
      intro entry hentry m
      have hvalue := ih entry hentry (y := m.2) fun hm => h (.value hentry hm)
      exact ⟨fun ⟨hname, hy⟩ => ⟨hname, hvalue.mp hy⟩, fun ⟨hname, hy⟩ => ⟨hname, hvalue.mpr hy⟩⟩
    have hnodup : (names entries).Nodup := not_not.mp fun hdup => h (.here hdup)
    -- No name comes twice, so each entry is put behind those before it.
    have hsame : ∀ {added}, List.Forall₂ Enters entries added →
        OrderedMap.overlay [] added = added := fun hadded =>
      OrderedMap.overlay_of_nodup (names_eq_keys (fun _ _ hm => hm.1) hadded ▸ hnodup)
    rw [toJson_mapping]
    constructor
    · rintro ⟨added, hadded, rfl⟩
      rw [hsame hadded]
      exact .mapping ((forall₂_congr_of_mem hentries).mp hadded)
    · intro hshape
      cases hshape with
      | mapping hms =>
        have hadded := (forall₂_congr_of_mem hentries).mpr hms
        exact ⟨_, hadded, by rw [hsame hadded]⟩
  | tagged tag x ih =>
    rw [toJson, ih fun hm => h (.tagged hm)]
    constructor
    · exact .tagged
    · rintro ⟨⟩
      assumption

/-! ## Conversions that fail -/

theorem except_bind_eq_error {ε α β : Type} {m : Except ε α} {f : α → Except ε β} {e : ε} :
    (m >>= f) = .error e ↔ m = .error e ∨ ∃ a, m = .ok a ∧ f a = .error e := by
  cases m <;> simp [bind, Except.bind]

theorem mem_of_itemsToJson_eq_error (h : itemsToJson items = .error e) :
    ∃ x ∈ items, x.toJson = .error e := by
  induction items with
  | nil => cases h
  | cons x items ih =>
    rcases except_bind_eq_error.mp h with hx | ⟨y, -, h⟩
    · exact ⟨x, List.mem_cons_self .., hx⟩
    · rcases except_bind_eq_error.mp h with hrest | ⟨ys, -, hlast⟩
      · obtain ⟨x', hmem, hx'⟩ := ih hrest
        exact ⟨x', List.mem_cons_of_mem _ hmem, hx'⟩
      · cases hlast

theorem mem_of_entriesToJson_eq_error {start : List (String × Json)}
    (h : entriesToJson start entries = .error e) :
    ∃ entry ∈ entries, keyText entry.1 = .error e ∨ entry.2.toJson = .error e := by
  induction entries generalizing start with
  | nil => cases h
  | cons entry entries ih =>
    rcases except_bind_eq_error.mp h with hk | ⟨name, -, h⟩
    · exact ⟨entry, List.mem_cons_self .., .inl hk⟩
    · rcases except_bind_eq_error.mp h with hx | ⟨y, -, hrest⟩
      · exact ⟨entry, List.mem_cons_self .., .inr hx⟩
      · obtain ⟨entry', hmem, h'⟩ := ih hrest
        exact ⟨entry', List.mem_cons_of_mem _ hmem, h'⟩

/-- A failure tells a fault; by induction over the values inside. -/
theorem hasFault_of_toJson (h : x.toJson = .error e) : HasFault x e := by
  induction x using inside_induction with
  | null | bool | string => cases h
  | number n => cases n <;> cases h <;> exact .number rfl
  | sequence items ih =>
    rcases except_bind_eq_error.mp h with hitems | ⟨ys, -, hlast⟩
    · obtain ⟨x, hmem, hx⟩ := mem_of_itemsToJson_eq_error hitems
      exact .item hmem (ih x hmem hx)
    · cases hlast
  | mapping entries ih =>
    rcases except_bind_eq_error.mp h with hentries | ⟨ms, -, hlast⟩
    · obtain ⟨entry, hmem, hk | hx⟩ := mem_of_entriesToJson_eq_error hentries
      · obtain ⟨hcollection, rfl⟩ := keyText_eq_error_iff.mp hk
        exact .key hmem hcollection
      · exact .value hmem (ih entry hmem hx)
    · cases hlast
  | tagged tag x ih => exact .tagged (ih (by simpa [toJson] using h))

/-- No value with a fault becomes a tree. -/
theorem toJson_ne_ok_of_hasFault (h : HasFault x e) : x.toJson ≠ .ok y := by
  intro hok
  induction h generalizing y with
  | @number n hn =>
    cases n with
    | integer | float => cases hn
    | infinite | undefined => cases hok
  | key mem hk =>
    obtain ⟨added, hadded, -⟩ := toJson_mapping.mp hok
    obtain ⟨m, -, hname, -⟩ := exists_of_forall₂_mem hadded mem
    have herror := keyText_eq_error_iff.mpr ⟨hk, rfl⟩
    rw [hname] at herror
    cases herror
  | item mem _ ih =>
    obtain ⟨ys, -, hys⟩ := toJson_sequence.mp hok
    obtain ⟨y, -, hy⟩ := exists_of_forall₂_mem hys mem
    exact ih hy
  | value mem _ ih =>
    obtain ⟨added, hadded, -⟩ := toJson_mapping.mp hok
    obtain ⟨m, -, -, hy⟩ := exists_of_forall₂_mem hadded mem
    exact ih hy
  | tagged _ ih => exact ih (by simpa [toJson] using hok)

/-- What every YAML value becomes: a tree of its shape unless keys merge, and no tree only for
faults. -/
theorem converts (x : Yaml) : Converts x where
  fails := by
    refine ⟨fun ⟨e, h⟩ => ⟨e, hasFault_of_toJson h⟩, fun ⟨e, h⟩ => ?_⟩
    cases hx : x.toJson with
    | error e' => exact ⟨e', rfl⟩
    | ok y => exact absurd hx (toJson_ne_ok_of_hasFault h)
  told := hasFault_of_toJson
  listed := by
    rintro items y rfl h
    exact toJson_sequence.mp h
  entered := by
    rintro entries y rfl h
    exact toJson_mapping.mp h
  kept h _ := toJson_eq_ok_iff h
  lost hmerges _ h hshape := not_merges_of_sameShape hshape (wellFormed_of_toJson h) hmerges

example : toJson (.mapping [(.number (.integer 200), .null), (.string "200", .bool true)]) =
    .ok (.object [("200", .bool true)]) := rfl

end Yaml

end ApiBundle
