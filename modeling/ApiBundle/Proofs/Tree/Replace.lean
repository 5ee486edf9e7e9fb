import ApiBundle.Proofs.OrderedMap
import ApiBundle.Proofs.Tree.Kids

/-!
# Putting a node in the place of another one

Overwriting at the end of a pointer puts a new child in the place of one that is there, level by
level. What relates the children of two nodes goes on to do so when the new child is related to the
one whose place it takes.
-/

namespace ApiBundle

namespace Json

/-- A node with another child in the place that a step leads to. -/
def replace (node : Json) (step : Segment) (new : Json) : Json :=
  match node, step with
  | .object members, .key name => .object (OrderedMap.put members name new)
  | .array items, .index i => .array (items.set i new)
  | node, _ => node

theorem put_withValues {ms : List (String × Json)} {ys : List Json} {k : String} {old : Json}
    (new : Json) (h : OrderedMap.find? (withValues ms ys) k = some old) :
    ∃ zs, OrderedMap.put (withValues ms ys) k new = withValues ms zs ∧ zs.length = ys.length ∧
      ∀ p ∈ (ms.map fun m => (Segment.key m.1, m.2)).zip zs,
        p ∈ (ms.map fun m => (Segment.key m.1, m.2)).zip ys ∨
          ∃ a, OrderedMap.find? ms k = some a ∧ p = ((.key k, a), new) := by
  induction ms generalizing ys with
  | nil => cases h
  | cons m ms ih =>
    obtain ⟨name, x⟩ := m
    cases ys with
    | nil => cases h
    | cons y ys =>
      simp only [withValues, OrderedMap.find?] at h
      by_cases hk : name = k
      · subst hk
        refine ⟨new :: ys, by simp [withValues, OrderedMap.put], rfl, fun p hp => ?_⟩
        rcases List.mem_cons.mp hp with rfl | hp
        · exact .inr ⟨x, by simp [OrderedMap.find?], rfl⟩
        · exact .inl (List.mem_cons_of_mem _ hp)
      · rw [if_neg hk] at h
        obtain ⟨zs, hput, hlen, hzs⟩ := ih h
        refine ⟨y :: zs, by simp [withValues, OrderedMap.put, hk, hput], by simp [hlen],
          fun p hp => ?_⟩
        rcases List.mem_cons.mp hp with rfl | hp
        · exact .inl (List.mem_cons_self ..)
        · rcases hzs p hp with hold | ⟨a, ha, rfl⟩
          · exact .inl (List.mem_cons_of_mem _ hold)
          · exact .inr ⟨a, by simp [OrderedMap.find?, hk, ha], rfl⟩

theorem mem_zip_set {xs ys : List Json} (position : Nat) {i : Nat} {new : Json}
    {p : (Segment × Json) × Json} (hp : p ∈ (indexed position xs).zip (ys.set i new)) :
    p ∈ (indexed position xs).zip ys ∨
      ∃ a, xs[i]? = some a ∧ p = ((.index (position + i), a), new) := by
  induction xs generalizing ys position i with
  | nil => cases hp
  | cons x xs ih =>
    cases ys with
    | nil => cases hp
    | cons y ys =>
      cases i with
      | zero =>
        rcases List.mem_cons.mp hp with rfl | hp
        · exact .inr ⟨x, rfl, rfl⟩
        · exact .inl (List.mem_cons_of_mem _ hp)
      | succ i =>
        rcases List.mem_cons.mp hp with rfl | hp
        · exact .inl (List.mem_cons_self ..)
        · rcases ih (position + 1) hp with hold | ⟨a, ha, rfl⟩
          · exact .inl (List.mem_cons_of_mem _ hold)
          · refine .inr ⟨a, ha, ?_⟩
            rw [show position + 1 + i = position + (i + 1) by omega]

/-- A child may be replaced by one that is related to what stood in its place. -/
theorem Kidwise.replace {R : Segment → Json → Json → Prop} {x y old new : Json} {step : Segment}
    (h : Kidwise R x y) (hold : y.step? step = some old)
    (hnew : ∀ a, x.step? step = some a → R step a new) : Kidwise R x (y.replace step new) := by
  obtain ⟨ys, hlen, rfl, hys⟩ := h
  cases x with
  | object ms =>
    cases step with
    | index i => cases hold
    | key k =>
      obtain ⟨zs, hput, hlen', hzs⟩ := put_withValues new hold
      refine ⟨zs, hlen'.trans hlen, by simp [Json.replace, withKids, hput], fun p hp => ?_⟩
      rcases hzs p hp with hp | ⟨a, ha, rfl⟩
      · exact hys p hp
      · exact hnew a ha
  | array xs =>
    cases step with
    | key k => cases hold
    | index i =>
      refine ⟨ys.set i new, by simpa using hlen, rfl, fun p hp => ?_⟩
      rcases mem_zip_set 0 hp with hp | ⟨a, ha, rfl⟩
      · exact hys p hp
      · rw [Nat.zero_add]
        exact hnew a ha
  | null | bool | number | string => cases step <;> cases hold

theorem step?_replace_self {node old new : Json} {step : Segment}
    (h : node.step? step = some old) : (node.replace step new).step? step = some new := by
  cases node with
  | object ms =>
    cases step with
    | key k => simp [Json.replace, step?, OrderedMap.find?_put]
    | index i => cases h
  | array xs =>
    cases step with
    | key k => cases h
    | index i =>
      have hlt : i < xs.length := (List.getElem?_eq_some_iff.mp h).1
      simp [Json.replace, step?, hlt]
  | null | bool | number | string => cases step <;> cases h

end Json

namespace Pointer

/-- One level of an overwrite. -/
theorem overwrite_cons {node value new : Json} {token : String} {rest : List String}
    (h : overwrite node value (token :: rest) = some new) :
    ∃ step child child', segment? node token = some step ∧ node.step? step = some child ∧
      overwrite child value rest = some child' ∧ new = node.replace step child' := by
  cases node with
  | object ms =>
    simp only [overwrite] at h
    split at h
    · next child hchild =>
      obtain ⟨child', hrest, rfl⟩ := Option.map_eq_some_iff.mp h
      exact ⟨.key token, child, child', rfl, hchild, hrest, rfl⟩
    · cases h
  | array xs =>
    simp only [overwrite] at h
    split at h
    · next i hi =>
      split at h
      · next child hchild =>
        obtain ⟨child', hrest, rfl⟩ := Option.map_eq_some_iff.mp h
        exact ⟨.index i, child, child', by simp [segment?, hi], hchild, hrest, rfl⟩
      · cases h
    · cases h
  | null | bool | number | string => simp [overwrite] at h

theorem segment?_replace (node : Json) (step : Segment) (new : Json) (token : String) :
    segment? (node.replace step new) token = segment? node token := by
  cases node <;> cases step <;> rfl

/-- What was written is read back. -/
theorem lookup_overwrite {node value new : Json} {tokens : List String}
    (h : overwrite node value tokens = some new) : lookup new tokens = some value := by
  induction tokens generalizing node new with
  | nil =>
    cases h
    rfl
  | cons token rest ih =>
    obtain ⟨step, child, child', hstep, hchild, hrest, rfl⟩ := overwrite_cons h
    simp only [lookup, child?_eq, segment?_replace, hstep, Option.bind_some,
      Json.step?_replace_self hchild]
    exact ih hrest

/-- Writing what is read changes nothing. -/
theorem overwrite_self {node value : Json} {tokens : List String}
    (h : lookup node tokens = some value) : overwrite node value tokens = some node := by
  induction tokens generalizing node with
  | nil =>
    cases h
    rfl
  | cons token rest ih =>
    obtain ⟨child, hchild, hrest⟩ := Option.bind_eq_some_iff.mp h
    cases node with
    | object ms =>
      have hfind : OrderedMap.find? ms token = some child := hchild
      simp only [overwrite, hfind, ih hrest, Option.map_some, OrderedMap.put_self hfind]
    | array xs =>
      obtain ⟨i, hi, hx⟩ := Option.bind_eq_some_iff.mp hchild
      have hset : xs.set i child = xs := by
        obtain ⟨hlt, rfl⟩ := List.getElem?_eq_some_iff.mp hx
        exact List.set_getElem_self hlt
      simp only [overwrite, hi, hx, ih hrest, Option.map_some, hset]
    | null | bool | number | string => cases hchild

/-- There is something to overwrite wherever there is something to read. -/
theorem overwrite_isSome (node value : Json) (tokens : List String) :
    (overwrite node value tokens).isSome = (lookup node tokens).isSome := by
  induction tokens generalizing node with
  | nil => rfl
  | cons token rest ih =>
    cases node with
    | object ms =>
      simp only [overwrite, lookup, child?]
      cases hc : OrderedMap.find? ms token with
      | none => rfl
      | some child => simpa [hc] using ih child
    | array xs =>
      simp only [overwrite, lookup, child?]
      cases hi : index? token with
      | none => rfl
      | some i =>
        cases hx : xs[i]? with
        | none => simp [hx]
        | some child => simpa [hi, hx] using ih child
    | null | bool | number | string => rfl

end Pointer

end ApiBundle
