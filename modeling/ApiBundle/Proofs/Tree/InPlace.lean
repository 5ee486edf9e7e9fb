import ApiBundle.Error
import ApiBundle.Proofs.Tree.Insert

/-!
# Storing in place

Storing a value can be done in place: step by step down from the root, where a missing container is
made before the steps behind it are looked at. It stops at a node of the wrong kind, and leaves
behind what it has changed up to there. But once it has made a container, the container fits the
next step, and so do those below it. So all that it has passed before it stops was there already,
and the tree that it leaves behind is the one that it was given (`Json.storeInPlace_eq`).
-/

namespace ApiBundle

namespace Json

/-- What storing ends with where a node of the wrong kind is in the way. -/
def blocked (path : List Segment) : Except BundleError Unit :=
  .error (.insertBlocked (Pointer.ofPath path).text)

/-- Stores a value in place at the end of a path, which is the rest of the one that is asked for.
Gives the tree that is left behind, and what storing ends with. -/
def storeInPlace (whole : List Segment) (node value : Json) :
    List Segment → Json × Except BundleError Unit
  | [] => (value, .ok ())
  | [last] => if node.takes last then (node.fill last value, .ok ()) else (node, blocked whole)
  | segment :: next :: rest =>
    if node.takes segment then
      let slot := slotOr (node.step? segment) (next :: rest)
      -- from here on the container is there, whatever comes of the steps behind it
      let opened := node.fill segment slot
      let (below, result) := storeInPlace whole slot value (next :: rest)
      (opened.fill segment below, result)
    else (node, blocked whole)

/-! ## Fresh containers -/

theorem takes_containerFor (segment : Segment) (rest : List Segment) :
    (containerFor (segment :: rest)).takes segment = true := by
  cases segment <;> rfl

theorem step?_containerFor (path : List Segment) (segment : Segment) :
    (containerFor path).step? segment = none := by
  unfold containerFor
  split <;> cases segment <;> rfl

/-- Nothing is in the way below a fresh container. -/
theorem insertAt_containerFor (value : Json) (path : List Segment) :
    ∃ new, (containerFor path).insertAt value path = some new := by
  induction path with
  | nil => exact ⟨value, rfl⟩
  | cons segment rest ih =>
    obtain ⟨below, hbelow⟩ := ih
    rw [insertAt_cons (takes_containerFor segment rest), step?_containerFor]
    exact ⟨_, congrArg (Option.map _) hbelow⟩

/-! ## Slots -/

section Slots

variable {node slot value : Json} {segment next : Segment} {rest : List Segment}

/-- What stands in a slot was there, unless it is the container that is made for the rest. -/
theorem slotOr_cases (node : Json) (segment : Segment) (rest : List Segment) :
    slotOr (node.step? segment) rest = containerFor rest ∨
      node.step? segment = some (slotOr (node.step? segment) rest) ∧
        slotOr (node.step? segment) rest ≠ .null := by
  cases node.step? segment with
  | none => exact .inl rfl
  | some x =>
    cases x with
    | null => exact .inl rfl
    | _ => exact .inr ⟨rfl, nofun⟩

/-- A slot that takes no value was there. -/
theorem slot_of_insertAt_eq_none
    (h : (slotOr (node.step? segment) rest).insertAt value rest = none) :
    node.step? segment = some (slotOr (node.step? segment) rest) := by
  obtain ⟨new, hnew⟩ := insertAt_containerFor value rest
  rcases slotOr_cases node segment rest with hfresh | ⟨hthere, -⟩
  · rw [hfresh, hnew] at h
    cases h
  · exact hthere

/-- A slot that does not take the next step was there. -/
theorem slot_of_takes_eq_false
    (h : (slotOr (node.step? segment) (next :: rest)).takes next = false) :
    node.step? segment = some (slotOr (node.step? segment) (next :: rest)) ∧
      slotOr (node.step? segment) (next :: rest) ≠ .null := by
  refine (slotOr_cases node segment (next :: rest)).resolve_left fun hfresh => ?_
  rw [hfresh, takes_containerFor] at h
  cases h

theorem fill_step? (h : node.step? segment = some slot) : node.fill segment slot = node := by
  cases node with
  | object ms =>
    cases segment with
    | key name => exact congrArg object (OrderedMap.put_self h)
    | index i => rfl
  | array xs =>
    cases segment with
    | key name => rfl
    | index i =>
      obtain ⟨hlength, hget⟩ := List.getElem?_eq_some_iff.mp (show xs[i]? = some slot from h)
      rw [fill, padTo_of_le hlength, ← hget, List.set_getElem_self]
  | _ => rfl

theorem fill_fill (node : Json) (segment : Segment) (x y : Json) :
    (node.fill segment x).fill segment y = node.fill segment y := by
  cases node with
  | object ms =>
    cases segment with
    | key name => exact congrArg object (OrderedMap.put_put ms name x y)
    | index i => rfl
  | array xs =>
    cases segment with
    | key name => rfl
    | index i =>
      have hlength : i + 1 ≤ ((padTo xs (i + 1)).set i x).length := by
        rw [List.length_set, length_padTo]
        omega
      simp only [fill, padTo_of_le hlength, List.set_set]
  | _ => rfl

end Slots

/-! ## Storing in place -/

/-- Storing in place stores the value, or leaves the tree as it was. -/
theorem storeInPlace_eq (whole : List Segment) (node value : Json) (path : List Segment) :
    storeInPlace whole node value path =
      match node.insertAt value path with
      | some new => (new, .ok ())
      | none => (node, blocked whole) := by
  induction path generalizing node with
  | nil => rw [storeInPlace, insertAt_nil]
  | cons segment rest ih =>
    by_cases htakes : node.takes segment
    · cases rest with
      | nil => rw [storeInPlace, if_pos htakes, insertAt_cons htakes, insertAt_nil, Option.map_some]
      | cons next rest =>
        simp only [storeInPlace, if_pos htakes, ih, insertAt_cons htakes]
        cases hslot :
          (slotOr (node.step? segment) (next :: rest)).insertAt value (next :: rest) with
        | some below => simp only [Option.map_some, fill_fill]
        | none =>
          -- the slot was there, so opening it has changed nothing
          simp only [Option.map_none, fill_step? (slot_of_insertAt_eq_none hslot)]
    · rw [insertAt_cons_eq_none htakes]
      cases rest <;> simp [storeInPlace, htakes]

/-! ## What is in the way -/

/-- Following a path comes to a node that does not take the next step. The node is the root, or no
null: one of those is replaced. -/
def Blocked (node : Json) (path : List Segment) : Prop :=
  ∃ front segment rest x, path = front ++ segment :: rest ∧ node.follow? front = some x ∧
    x.takes segment = false ∧ (x = .null → front = [])

theorem not_blocked_nil (node : Json) : ¬node.Blocked [] := by
  rintro ⟨front, segment, rest, -, hpath, -⟩
  cases front <;> cases hpath

/-- What is in the way is the node itself, or it is below the slot of the first step. -/
theorem blocked_cons {node : Json} {segment : Segment} {rest : List Segment}
    (h : node.takes segment = true) : node.Blocked (segment :: rest) ↔
      (slotOr (node.step? segment) rest).Blocked rest := by
  constructor
  · rintro ⟨front, segment', rest', x, hpath, hx, hkind, hnull⟩
    cases front with
    | nil =>
      cases hpath
      cases hx
      rw [h] at hkind
      cases hkind
    | cons step front =>
      obtain ⟨rfl, rfl⟩ := List.cons.inj hpath
      obtain ⟨slot, hslot, hfollow⟩ := Option.bind_eq_some_iff.mp hx
      have hne : x ≠ .null := fun heq => nomatch hnull heq
      refine ⟨front, segment', rest', x, rfl, ?_, hkind, fun heq => absurd heq hne⟩
      cases front with
      | nil =>
        -- what is in the slot of the first step is no null, so nothing is made in its place
        cases hfollow
        rw [hslot]
        cases x with
        | null => exact absurd rfl hne
        | _ => rfl
      | cons next front =>
        rw [follow?_slotOr, hslot]
        exact hfollow
  · rintro ⟨front, segment', rest', x, rfl, hx, hkind, hnull⟩
    cases front with
    | nil =>
      cases hx
      obtain ⟨hslot, hne⟩ := slot_of_takes_eq_false hkind
      exact ⟨[segment], segment', rest', _, rfl, congrArg (Option.bind · _) hslot, hkind,
        fun heq => absurd heq hne⟩
    | cons next front =>
      rw [follow?_slotOr] at hx
      exact ⟨segment :: next :: front, segment', rest', x, rfl, hx, hkind,
        fun heq => nomatch hnull heq⟩

theorem insertAt_eq_none_iff {node value : Json} {path : List Segment} :
    node.insertAt value path = none ↔ node.Blocked path := by
  induction path generalizing node with
  | nil => simp [not_blocked_nil]
  | cons segment rest ih =>
    by_cases htakes : node.takes segment
    · rw [insertAt_cons htakes, Option.map_eq_none_iff, ih, blocked_cons htakes]
    · refine ⟨fun _ => ?_, fun _ => insertAt_cons_eq_none htakes⟩
      exact ⟨[], segment, rest, node, rfl, rfl, Bool.eq_false_iff.mpr htakes, fun _ => rfl⟩

/-! ## The tree with the value -/

/-- What stands on the way before its slot for the rest is filled: what was there, or the empty
container that the rest needs, in a slot that was missing or null. -/
inductive Opened (node : Json) (front rest : List Segment) : Json → Prop where
  | there {x : Json} (found : node.follow? front = some x) : Opened node front rest x
  | made (below : front ≠ [])
      (absent : node.follow? front = none ∨ node.follow? front = some .null) :
      Opened node front rest (containerFor rest)

/-- A tree in which a value was stored at the end of a path. -/
structure Stored (node value : Json) (path : List Segment) (new : Json) : Prop where
  /-- The path leads to the value. -/
  below : ∀ rest, new.follow? (path ++ rest) = value.follow? rest
  /-- On the way, containers gain the slot that the way goes through, and keep their order. -/
  above : ∀ {front segment rest}, path = front ++ segment :: rest → ∃ old grown,
    Opened node front (segment :: rest) old ∧ old.Gains segment grown ∧
      new.follow? front = some grown
  /-- What is neither on the way nor below its end stays. -/
  apart : ∀ {q x}, ¬q <+: path → ¬path <+: q → node.follow? q = some x → new.follow? q = some x
  /-- What comes new is on the way, below its end, or a null before a new item. -/
  added : ∀ {q x}, node.follow? q = none → new.follow? q = some x →
    q <+: path ∨ path <+: q ∨ Pads path q ∧ x = .null

theorem opened_slotOr {path front rest : List Segment} {segment : Segment} {node value new : Json}
    (h : node.insertAt value path = some new) (hpath : path = front ++ segment :: rest) :
    Opened node front (segment :: rest) (slotOr (node.follow? front) (segment :: rest)) := by
  cases hfollow : node.follow? front with
  | none =>
    refine .made ?_ (.inl hfollow)
    rintro rfl
    cases hfollow
  | some x =>
    cases x with
    | null =>
      refine .made ?_ (.inr hfollow)
      rintro rfl
      cases hfollow
      cases hpath
      cases h
    | _ => exact .there hfollow

theorem stored_of_insertAt {path : List Segment} {node value new : Json}
    (h : node.insertAt value path = some new) : Stored node value path new where
  below := follow?_insertAt_below h
  above hpath := by
    obtain ⟨grown, hgrown, hgains⟩ := gains_insertAt h hpath
    exact ⟨_, grown, opened_slotOr h hpath, hgains, hgrown⟩
  apart habove hbelow hx := by
    rcases follow?_insertAt_apart h habove hbelow with hsame | ⟨-, hnone, -⟩
    · rw [hsame, hx]
    · rw [hnone] at hx
      cases hx
  added {q x} hnone hx := by
    by_cases habove : q <+: path
    · exact .inl habove
    · by_cases hbelow : path <+: q
      · exact .inr (.inl hbelow)
      · rcases follow?_insertAt_apart h habove hbelow with hsame | ⟨hpads, -, hnull⟩
        · rw [hsame, hnone] at hx
          cases hx
        · exact .inr (.inr ⟨hpads, (Option.some.inj (hnull.symm.trans hx)).symm⟩)

/-- What storing a value in place at the end of a path does to a tree. -/
structure StoresAt (node value : Json) (path : List Segment) : Prop where
  /-- It fails where something is in the way, and nowhere else. -/
  fails : (∃ e, (storeInPlace path node value path).2 = .error e) ↔ node.Blocked path
  /-- Then the failure tells the path, and the tree is left as it was. -/
  untouched : node.Blocked path →
    node.insertAt value path = none ∧ storeInPlace path node value path = (node, blocked path)
  /-- Otherwise the value is stored. -/
  stored : ¬node.Blocked path → ∃ new, node.insertAt value path = some new ∧
    storeInPlace path node value path = (new, .ok ()) ∧ Stored node value path new

/-- A value is stored as a whole or not at all. -/
theorem storesAt (node value : Json) (path : List Segment) : StoresAt node value path := by
  have heq := storeInPlace_eq path node value path
  cases hinsert : node.insertAt value path with
  | none =>
    rw [hinsert] at heq
    have hblocked : node.Blocked path := insertAt_eq_none_iff.mp hinsert
    refine ⟨⟨fun _ => hblocked, fun _ => ?_⟩, fun _ => ⟨hinsert, heq⟩, fun h => absurd hblocked h⟩
    rw [heq]
    exact ⟨_, rfl⟩
  | some new =>
    rw [hinsert] at heq
    have hfree : ¬node.Blocked path := fun h => by
      rw [insertAt_eq_none_iff.mpr h] at hinsert
      cases hinsert
    refine ⟨⟨?_, fun h => absurd h hfree⟩, fun h => absurd h hfree,
      fun _ => ⟨new, hinsert, heq, stored_of_insertAt hinsert⟩⟩
    rintro ⟨e, he⟩
    rw [heq] at he
    cases he

end Json

end ApiBundle
