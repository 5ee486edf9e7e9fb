import ApiBundle.Path
import ApiBundle.Proofs.OrderedMap

/-!
# Storing at the end of a path

Storing a value at the end of a path changes what is there, and the nodes on the way gain at most
the slot that the way goes through. What a path leads to is told apart by how the path lies to the
one that is stored at: at or below it (`follow?_insertAt_below`), above it (`gains_insertAt`), or
apart from it (`follow?_insertAt_apart`), where nothing changes but for the nulls that come before a
new item. Where the path has only names, the nodes on the way are objects with at most one member
more, at the end (`follow?_insertAt_above`).
-/

namespace ApiBundle

/-- The path of a pointer whose tokens are names of members. -/
def Pointer.keys (p : Pointer) : List Segment := p.tokens.map Segment.key

@[simp] theorem Pointer.keys_push (p : Pointer) (name : String) :
    (p.push name).keys = p.keys ++ [.key name] := by
  simp [Pointer.keys, Pointer.push]

theorem Pointer.keys_inj {p q : Pointer} (h : p.keys = q.keys) : p = q :=
  congrArg Pointer.mk (List.map_inj_right (fun _ _ => Segment.key.inj) |>.mp h)

theorem Pointer.key_notMem_keys {p : Pointer} {name : String} (h : name ∉ p.tokens) :
    .key name ∉ p.keys := by
  intro hmem
  obtain ⟨token, htoken, heq⟩ := List.mem_map.mp hmem
  cases heq
  exact h htoken

namespace Json

/-- The members of an object that grows: those that are there stay in front. -/
def Grown (old new : Option Json) : Prop :=
  old = new ∨ ∃ ms', new = some (.object ms') ∧
    ∀ ms, old = some (.object ms) → OrderedMap.keys ms <+: OrderedMap.keys ms'

theorem Grown.refl (x : Option Json) : Grown x x := .inl rfl

theorem Grown.trans {x y z : Option Json} (h : Grown x y) (h' : Grown y z) : Grown x z := by
  rcases h with rfl | ⟨ms', rfl, hms⟩
  · exact h'
  · rcases h' with rfl | ⟨ms'', rfl, hms'⟩
    · exact .inr ⟨ms', rfl, hms⟩
    · exact .inr ⟨ms'', rfl, fun ms hold => (hms ms hold).trans (hms' ms' rfl)⟩

/-- An object that grows stays an object. -/
theorem Grown.object {ms : List (String × Json)} {new : Option Json}
    (h : Grown (some (.object ms)) new) :
    ∃ ms', new = some (.object ms') ∧ OrderedMap.keys ms <+: OrderedMap.keys ms' := by
  rcases h with rfl | ⟨ms', rfl, hms⟩
  · exact ⟨ms, rfl, List.prefix_refl _⟩
  · exact ⟨ms', rfl, hms ms rfl⟩

theorem follow?_append (x : Json) (path rest : List Segment) :
    x.follow? (path ++ rest) = (x.follow? path).bind (·.follow? rest) := by
  induction path generalizing x with
  | nil => rfl
  | cons segment path ih =>
    show (x.step? segment).bind _ = ((x.step? segment).bind _).bind _
    cases x.step? segment with
    | none => rfl
    | some child => exact ih child

theorem follow?_push (x : Json) (p : Pointer) (name : String) :
    x.follow? (p.push name).keys = (x.follow? p.keys).bind (·.step? (.key name)) := by
  rw [Pointer.keys_push, follow?_append]
  congr 1
  funext y
  show (y.step? (.key name)).bind _ = _
  cases y.step? (.key name) <;> rfl

/-- Only objects have members. -/
theorem step?_key {x y : Json} {name : String} (h : x.step? (.key name) = some y) :
    ∃ ms, x = .object ms ∧ OrderedMap.find? ms name = some y := by
  cases x with
  | object ms => exact ⟨ms, rfl, h⟩
  | _ => cases h

/-- What names lead to is found by the pointer of these names. -/
theorem find?_of_follow? {p : Pointer} {x y : Json} (h : x.follow? p.keys = some y) :
    p.find? x = some y := by
  obtain ⟨tokens⟩ := p
  unfold Pointer.find? Pointer.keys at *
  simp only at h ⊢
  induction tokens generalizing x with
  | nil => exact h
  | cons token tokens ih =>
    obtain ⟨child, hchild, hrest⟩ := Option.bind_eq_some_iff.mp h
    obtain ⟨ms, rfl, hfind⟩ := step?_key hchild
    simp only [Pointer.lookup, Pointer.child?, hfind, Option.bind_some]
    exact ih hrest

/-- Where names lead somewhere, a path that is written in the same way leads there too. -/
theorem follow?_eq_of_tokens {p : Pointer} {path : List Segment} {x y z : Json}
    (hp : x.follow? p.keys = some y) (hpath : x.follow? path = some z)
    (htokens : path.map Segment.token = p.tokens) : z = y := by
  obtain ⟨tokens⟩ := p
  unfold Pointer.keys at hp
  simp only at hp htokens
  induction path generalizing x tokens with
  | nil =>
    subst htokens
    exact Option.some.inj (hpath.symm.trans hp)
  | cons segment path ih =>
    subst htokens
    obtain ⟨a, ha, hrest⟩ := Option.bind_eq_some_iff.mp hp
    obtain ⟨b, hb, hrest'⟩ := Option.bind_eq_some_iff.mp hpath
    obtain ⟨ms, rfl, -⟩ := step?_key ha
    cases segment with
    | key name =>
      cases ha.symm.trans hb
      exact ih hrest' _ hrest rfl
    | index i => cases hb

/-! ## One step -/

/-- Whether a node takes a step: objects are left by name, and arrays by index. -/
def takes : Json → Segment → Bool
  | .object _, .key _ | .array _, .index _ => true
  | _, _ => false

/-- A node with a child at the end of a step; nulls come before a new item. -/
def fill (node : Json) (segment : Segment) (child : Json) : Json :=
  match node, segment with
  | .object members, .key name => .object (OrderedMap.put members name child)
  | .array items, .index position => .array ((padTo items (position + 1)).set position child)
  | node, _ => node

/-- What a node becomes when the slot of one step is filled: everything else stays in its order, and
what comes new is this slot, at the end, or after nulls. -/
inductive Gains : Json → Segment → Json → Prop where
  | member {ms ms' : List (String × Json)} {name : String}
      (order : OrderedMap.keys ms' =
        if name ∈ OrderedMap.keys ms then OrderedMap.keys ms else OrderedMap.keys ms ++ [name])
      (others : ∀ other ≠ name, OrderedMap.find? ms' other = OrderedMap.find? ms other) :
      Gains (.object ms) (.key name) (.object ms')
  | item {xs xs' : List Json} {position : Nat} (length : xs'.length = max xs.length (position + 1))
      (others : ∀ i ≠ position, xs'[i]? =
        if i < xs.length then xs[i]? else if i < position then some .null else none) :
      Gains (.array xs) (.index position) (.array xs')

section Steps

variable {node old new child other value : Json} {segment step : Segment} {rest : List Segment}

@[simp] theorem insertAt_nil (node value : Json) : node.insertAt value [] = some value := by
  cases node <;> rfl

theorem insertAt_cons (h : node.takes segment) : node.insertAt value (segment :: rest) =
    ((slotOr (node.step? segment) rest).insertAt value rest).map (node.fill segment) := by
  cases node <;> cases segment <;> first | rfl | cases h

theorem insertAt_cons_eq_none (h : ¬node.takes segment) :
    node.insertAt value (segment :: rest) = none := by
  cases node <;> cases segment <;> first | rfl | exact absurd rfl h

/-- A value is stored below a node by way of one of its slots. -/
theorem exists_of_insertAt_cons (h : node.insertAt value (segment :: rest) = some new) :
    node.takes segment ∧ ∃ below, new = node.fill segment below ∧
      (slotOr (node.step? segment) rest).insertAt value rest = some below := by
  by_cases htakes : node.takes segment
  · rw [insertAt_cons htakes] at h
    obtain ⟨below, hbelow, rfl⟩ := Option.map_eq_some_iff.mp h
    exact ⟨htakes, below, rfl, hbelow⟩
  · rw [insertAt_cons_eq_none htakes] at h
    cases h

theorem length_padTo (xs : List Json) (n : Nat) : (padTo xs n).length = max xs.length n := by
  simp only [padTo, List.length_append, List.length_replicate]
  omega

theorem padTo_of_le {xs : List Json} {n : Nat} (h : n ≤ xs.length) : padTo xs n = xs := by
  rw [padTo, Nat.sub_eq_zero_of_le h, List.replicate_zero, List.append_nil]

theorem getElem?_padTo (xs : List Json) (n i : Nat) :
    (padTo xs n)[i]? = if i < xs.length then xs[i]? else if i < n then some .null else none := by
  unfold padTo
  split
  · next h => exact List.getElem?_append_left h
  · next h =>
    rw [List.getElem?_append_right (by omega), List.getElem?_replicate]
    split <;> split <;> first | rfl | omega

theorem step?_fill (h : node.takes segment) (child : Json) :
    (node.fill segment child).step? segment = some child := by
  cases node with
  | object ms =>
    cases segment with
    | key name => simp [fill, step?, OrderedMap.find?_put]
    | index i => cases h
  | array xs =>
    cases segment with
    | key name => cases h
    | index i =>
      have hlength : i < (padTo xs (i + 1)).length := by
        rw [length_padTo]
        omega
      simp [fill, step?, hlength]
  | _ => cases h

theorem gains_fill (h : node.takes segment) (child : Json) :
    node.Gains segment (node.fill segment child) := by
  cases node with
  | object ms =>
    cases segment with
    | key name =>
      refine .member (OrderedMap.keys_put ..) fun other hne => ?_
      rw [OrderedMap.find?_put, if_neg (Ne.symm hne)]
    | index i => cases h
  | array xs =>
    cases segment with
    | key name => cases h
    | index i =>
      refine .item (by rw [List.length_set, length_padTo]) fun j hne => ?_
      rw [List.getElem?_set_ne (Ne.symm hne), getElem?_padTo]
      split
      · rfl
      · have hiff : j < i + 1 ↔ j < i := by omega
        simp only [hiff]
  | _ => cases h

/-- Another slot of the node is as it was, or a null that was added before a new item. -/
theorem Gains.step?_eq (h : old.Gains segment new) (hne : step ≠ segment) :
    new.step? step = old.step? step ∨ old.step? step = none ∧ new.step? step = some .null ∧
      ∃ i j, segment = .index i ∧ step = .index j ∧ j < i := by
  cases h with
  | member order others =>
    cases step with
    | key name => exact .inl (others name fun heq => hne (heq ▸ rfl))
    | index i => exact .inl rfl
  | @item xs xs' position length others =>
    cases step with
    | key name => exact .inl rfl
    | index j =>
      have hj := others j fun heq => hne (heq ▸ rfl)
      by_cases hlength : j < xs.length
      · rw [if_pos hlength] at hj
        exact .inl hj
      · have hnone : xs[j]? = none := List.getElem?_eq_none (Nat.not_lt.mp hlength)
        rw [if_neg hlength] at hj
        split at hj
        · next hlt => exact .inr ⟨hnone, hj, position, j, rfl, rfl, hlt⟩
        · exact .inl (hj.trans hnone.symm)

end Steps

/-! ## Slots -/

theorem follow?_null_cons (segment : Segment) (rest : List Segment) :
    null.follow? (segment :: rest) = none := by
  cases segment <;> rfl

theorem follow?_containerFor_cons (path : List Segment) (segment : Segment)
    (rest : List Segment) : (containerFor path).follow? (segment :: rest) = none := by
  unfold containerFor
  split <;> cases segment <;> rfl

/-- A slot is followed as what stands in it, except for the containers that are made in it. -/
theorem follow?_slotOr (slot : Option Json) (path : List Segment) (segment : Segment)
    (rest : List Segment) :
    (slotOr slot path).follow? (segment :: rest) = slot.bind (·.follow? (segment :: rest)) := by
  unfold slotOr
  split
  · exact follow?_containerFor_cons path segment rest
  · rw [follow?_containerFor_cons, Option.bind_some, follow?_null_cons]
  · rfl

theorem slotOr_eq_of_takes {node : Json} {segment : Segment} (h : node.takes segment)
    (rest : List Segment) : slotOr (some node) rest = node := by
  cases node with
  | null => cases h
  | _ => rfl

theorem slotOr_slotOr (slot : Option Json) (path : List Segment) :
    slotOr (some (slotOr slot path)) path = slotOr slot path := by
  have hcontainer : slotOr (some (containerFor path)) path = containerFor path := by
    unfold containerFor
    split <;> rfl
  cases slot with
  | none => exact hcontainer
  | some x =>
    cases x with
    | null => exact hcontainer
    | _ => rfl

/-- On the way through a slot, what is found or made does not depend on whether the slot is. -/
theorem slotOr_follow? (slot : Option Json) (front : List Segment) (segment : Segment)
    (rest : List Segment) :
    slotOr ((slotOr slot (front ++ segment :: rest)).follow? front) (segment :: rest) =
      slotOr (slot.bind (·.follow? front)) (segment :: rest) := by
  cases front with
  | nil =>
    have hbind : (slot.bind fun x => x.follow? []) = slot := by cases slot <;> rfl
    rw [hbind]
    exact slotOr_slotOr slot (segment :: rest)
  | cons step front => rw [List.cons_append, follow?_slotOr]

/-! ## What is stored, and what is on the way -/

section Storing

variable {path front rest q : List Segment} {segment other : Segment} {node value new : Json}
  (h : node.insertAt value path = some new)
include h

/-- What is stored is there. -/
theorem follow?_insertAt_below (rest : List Segment) :
    new.follow? (path ++ rest) = value.follow? rest := by
  induction path generalizing node new with
  | nil =>
    rw [insertAt_nil] at h
    cases h
    rfl
  | cons segment path ih =>
    obtain ⟨htakes, below, rfl, hbelow⟩ := exists_of_insertAt_cons h
    show ((node.fill segment below).step? segment).bind _ = _
    rw [step?_fill htakes]
    exact ih hbelow

/-- A node on the way gains the slot that the way goes through. It is the one that was there, or a
container that is made for the next step. -/
theorem gains_insertAt (hpath : path = front ++ segment :: rest) : ∃ grown,
    new.follow? front = some grown ∧
      (slotOr (node.follow? front) (segment :: rest)).Gains segment grown := by
  -- down the way, what is below the node is found below its slot as soon as a step has been taken
  induction front generalizing path node new with
  | nil =>
    subst hpath
    obtain ⟨htakes, below, rfl, -⟩ := exists_of_insertAt_cons h
    refine ⟨_, rfl, ?_⟩
    show (slotOr (some node) _).Gains _ _
    rw [slotOr_eq_of_takes htakes]
    exact gains_fill htakes below
  | cons step front ih =>
    rw [hpath, List.cons_append] at h
    obtain ⟨htakes, below, rfl, hbelow⟩ := exists_of_insertAt_cons h
    obtain ⟨grown, hgrown, hgains⟩ := ih hbelow rfl
    refine ⟨grown, ?_, ?_⟩
    · show ((node.fill step below).step? step).bind _ = _
      rw [step?_fill htakes]
      exact hgrown
    · rw [slotOr_follow?] at hgains
      exact hgains

/-- Where a path leaves the way, it leads to what it led to, unless it ends at one of the nulls that
come before a new item. -/
theorem follow?_insertAt_fork (hpath : path = front ++ segment :: rest) (hne : other ≠ segment) :
    new.follow? (front ++ other :: q) = node.follow? (front ++ other :: q) ∨
      q = [] ∧ node.follow? (front ++ [other]) = none ∧
        new.follow? (front ++ [other]) = some .null ∧
        ∃ i j, segment = .index i ∧ other = .index j ∧ j < i := by
  obtain ⟨grown, hgrown, hgains⟩ := gains_insertAt h hpath
  have hnew (q : List Segment) :
      new.follow? (front ++ other :: q) = (grown.step? other).bind (·.follow? q) := by
    rw [follow?_append, hgrown]
    rfl
  have hold (q : List Segment) : node.follow? (front ++ other :: q) =
      ((slotOr (node.follow? front) (segment :: rest)).step? other).bind (·.follow? q) := by
    rw [follow?_append, ← follow?_slotOr]
    rfl
  rcases hgains.step?_eq hne with hsame | ⟨hnone, hnull, hindex⟩
  · exact .inl (by rw [hnew, hold, hsame])
  · cases q with
    | nil =>
      refine .inr ⟨rfl, ?_, ?_, hindex⟩
      · rw [hold, hnone, Option.bind_none]
      · rw [hnew, hnull]
        rfl
    | cons segment' q =>
      refine .inl ?_
      rw [hnew, hold, hnone, hnull, Option.bind_none, Option.bind_some, follow?_null_cons]

end Storing

/-- The slots that are padded with null before an item on the way. -/
def Pads (path q : List Segment) : Prop :=
  ∃ front i j, front ++ [.index i] <+: path ∧ q = front ++ [.index j] ∧ j < i

/-- Two paths of which none leads on to the other part at some step. -/
theorem exists_fork {path q : List Segment} (habove : ¬q <+: path) (hbelow : ¬path <+: q) :
    ∃ front segment rest other below, path = front ++ segment :: rest ∧
      q = front ++ other :: below ∧ other ≠ segment := by
  induction path generalizing q with
  | nil => exact absurd List.nil_prefix hbelow
  | cons segment path ih =>
    cases q with
    | nil => exact absurd List.nil_prefix habove
    | cons other q =>
      by_cases heq : other = segment
      · subst heq
        rw [List.cons_prefix_cons, not_and] at habove hbelow
        obtain ⟨front, segment', rest, other', below, rfl, rfl, hne⟩ := ih (habove rfl) (hbelow rfl)
        exact ⟨other :: front, segment', rest, other', below, rfl, rfl, hne⟩
      · exact ⟨[], segment, path, other, q, rfl, rfl, heq⟩

/-- What lies apart stays as it is, and nulls may come before a new item. -/
theorem follow?_insertAt_apart {path q : List Segment} {node value new : Json}
    (h : node.insertAt value path = some new) (habove : ¬q <+: path) (hbelow : ¬path <+: q) :
    new.follow? q = node.follow? q ∨
      Pads path q ∧ node.follow? q = none ∧ new.follow? q = some .null := by
  obtain ⟨front, segment, rest, other, below, hpath, rfl, hne⟩ := exists_fork habove hbelow
  rcases follow?_insertAt_fork (q := below) h hpath hne with
    hsame | ⟨rfl, hnone, hnull, i, j, rfl, rfl, hlt⟩
  · exact .inl hsame
  · refine .inr ⟨⟨front, i, j, ⟨rest, ?_⟩, rfl, hlt⟩, hnone, hnull⟩
    rw [hpath, List.append_assoc, List.singleton_append]

/-! ## Paths of names -/

theorem containerFor_keys (names : List String) :
    containerFor (names.map Segment.key) = .object [] := by
  cases names <;> rfl

theorem step?_put (ms : OrderedMap String Json) (name : String) (x : Json) (segment : Segment) :
    (object (OrderedMap.put ms name x)).step? segment =
      if segment = .key name then some x else (object ms).step? segment := by
  cases segment with
  | key other =>
    simp only [step?, OrderedMap.find?_put, Segment.key.injEq, eq_comm]
  | index i => rfl

/-- Storing where there is something puts the value in its place. -/
theorem insertAt_eq_overwrite {names : List String} {x y value : Json}
    (h : x.follow? (names.map .key) = some y) :
    x.insertAt value (names.map .key) = Pointer.overwrite x value names := by
  induction names generalizing x with
  | nil => rfl
  | cons name names ih =>
    obtain ⟨child, hchild, hrest⟩ := Option.bind_eq_some_iff.mp h
    obtain ⟨ms, rfl, hfind⟩ := step?_key hchild
    simp only [List.map_cons, insertAt, Pointer.overwrite, hfind, ← ih hrest]
    cases child with
    | null => cases names with
      | nil => rfl
      | cons name' names => cases hrest
    | _ => rfl

/-- A value is stored by name below an object only. -/
theorem insertAt_cons_cases {node value new : Json} {name : String} {rest : List String}
    (h : node.insertAt value ((name :: rest).map Segment.key) = some new) :
    ∃ ms below, node = .object ms ∧ new = .object (OrderedMap.put ms name below) ∧
      (slotOr (OrderedMap.find? ms name) (rest.map Segment.key)).insertAt value
        (rest.map Segment.key) = some below := by
  obtain ⟨htakes, below, rfl, hbelow⟩ := exists_of_insertAt_cons h
  cases node with
  | object ms => exact ⟨ms, below, rfl, rfl, hbelow⟩
  | _ => cases htakes

section Names

variable {names : List String} {path : List Segment} {node value new : Json}
  (h : node.insertAt value (names.map Segment.key) = some new)
include h

theorem follow?_insertAt_apart_keys (habove : ¬ path <+: names.map Segment.key)
    (hbelow : ¬ names.map Segment.key <+: path) : new.follow? path = node.follow? path := by
  refine (follow?_insertAt_apart h habove hbelow).resolve_right ?_
  rintro ⟨⟨front, i, j, hprefix, -⟩, -⟩
  have hmem : Segment.index i ∈ names.map Segment.key := hprefix.subset (by simp)
  obtain ⟨name, -, heq⟩ := List.mem_map.mp hmem
  cases heq

/-- What lies above is an object that has grown. -/
theorem follow?_insertAt_above (habove : path <+: names.map Segment.key)
    (hne : path ≠ names.map Segment.key) :
    ∃ ms', new.follow? path = some (.object ms') ∧
      ∀ ms, node.follow? path = some (.object ms) → OrderedMap.keys ms <+: OrderedMap.keys ms' := by
  obtain ⟨below, hpath⟩ := habove
  cases below with
  | nil => exact absurd (by rw [← hpath, List.append_nil]) hne
  | cons segment rest =>
    have hmem : segment ∈ names.map Segment.key := hpath ▸ by simp
    obtain ⟨name, -, rfl⟩ := List.mem_map.mp hmem
    obtain ⟨grown, hgrown, hgains⟩ := gains_insertAt h hpath.symm
    generalize hold : slotOr (node.follow? path) (.key name :: rest) = old at hgains
    cases hgains with
    | @member ms₀ ms' name order others =>
      refine ⟨ms', hgrown, fun ms hms => ?_⟩
      rw [hms] at hold
      cases hold
      rw [order]
      split
      · exact List.prefix_refl _
      · exact List.prefix_append _ _

/-- Whatever is not at or below the end of the path has at most grown. -/
theorem grown_insertAt (hbelow : ¬ names.map Segment.key <+: path) :
    Grown (node.follow? path) (new.follow? path) := by
  by_cases habove : path <+: names.map Segment.key
  · have hne : path ≠ names.map Segment.key := fun heq => hbelow (heq ▸ List.prefix_refl _)
    exact .inr (follow?_insertAt_above h habove hne)
  · exact .inl (follow?_insertAt_apart_keys h habove hbelow).symm

end Names

end Json

end ApiBundle
