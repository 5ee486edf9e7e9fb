import ApiBundle.Proofs.Tree.Kept
import ApiBundle.Proofs.Tree.WellFormed

/-!
# What holds at every node of a tree

`Json.Throughout` says that something holds at a node and at all below it. Three properties of
single nodes are of interest for documents: `Distinct`, no two members have one name; `Literal`, the
`$ref` member is not a reference node itself, so that only texts that are written are ever read as
references; and `Bare`, there is no `$ref` at all. Nodes of the first and the last kind are `Plain`.
In a literal tree the volatile nodes are the reference nodes, and a node that is none stays one
whatever is done below it.
-/

namespace ApiBundle.Json

/-- Something holds at a node and at every node below it. -/
inductive Throughout (P : Json → Prop) : Json → Prop where
  | mk {x : Json} (here : P x) (below : ∀ k ∈ x.kids, Throughout P k.2) : Throughout P x

/-- No two members have one name. -/
def Distinct (x : Json) : Prop := ∀ ms, x = .object ms → (OrderedMap.keys ms).Nodup

/-- The `$ref` member, if there is one, is no reference node. -/
def Literal (x : Json) : Prop := ∀ y, x.member? refKey = some y → y.refText? = none

/-- There is no `$ref` member. -/
def Bare (x : Json) : Prop := x.member? refKey = none

/-- A node without references and without members of one name. -/
structure Plain (x : Json) : Prop where
  distinct : x.Distinct
  bare : x.Bare

variable {P Q : Json → Prop} {x y : Json}

namespace Throughout

theorem here (h : Throughout P x) : P x := by
  cases h with
  | mk here below => exact here

theorem kid (h : Throughout P x) {k : Segment × Json} (hk : k ∈ x.kids) : Throughout P k.2 := by
  cases h with
  | mk here below => exact below k hk

theorem mono (hPQ : ∀ {x}, P x → Q x) (h : Throughout P x) : Throughout Q x := by
  induction h with
  | mk here _ ih => exact .mk (hPQ here) ih

theorem and (hP : Throughout P x) (hQ : Throughout Q x) : Throughout (fun x => P x ∧ Q x) x := by
  induction hP with
  | mk here _ ih => exact .mk ⟨here, hQ.here⟩ fun k hk => ih k hk (hQ.kid hk)

theorem step? (h : Throughout P x) {segment : Segment} (hy : x.step? segment = some y) :
    Throughout P y :=
  h.kid (mem_kids_of_step? hy)

theorem member? (h : Throughout P x) {name : String} (hy : x.member? name = some y) :
    Throughout P y :=
  h.step? ((member?_eq_step? x name).symm.trans hy)

theorem lookup (h : Throughout P x) {tokens : List String}
    (hy : Pointer.lookup x tokens = some y) : Throughout P y := by
  induction tokens generalizing x with
  | nil =>
    cases hy
    exact h
  | cons token rest ih =>
    simp only [Pointer.lookup, Pointer.child?_eq, Option.bind_eq_some_iff] at hy
    obtain ⟨child, ⟨step, -, hchild⟩, hrest⟩ := hy
    exact ih (h.step? hchild) hrest

/-- What holds throughout the new children holds throughout a node with them, if it does there. -/
theorem withKids {ys : List Json} (hlen : ys.length = x.kids.length) (here : P (x.withKids ys))
    (below : ∀ k ∈ x.kids.zip ys, Throughout P k.2) : Throughout P (x.withKids ys) := by
  refine .mk here fun k hk => ?_
  rw [Kidwise.kids_withKids hlen] at hk
  obtain ⟨p, hp, rfl⟩ := List.mem_map.mp hk
  exact below p hp

end Throughout

/-! ## Distinct members -/

/-! ## Deciding -/

theorem throughout_leaf (hkids : x.kids = []) : Throughout P x ↔ P x :=
  ⟨Throughout.here, fun h => .mk h (by simp [hkids])⟩

theorem throughout_object {ms : List (String × Json)} :
    Throughout P (.object ms) ↔ P (.object ms) ∧ ∀ m ∈ ms, Throughout P m.2 := by
  constructor
  · exact fun h => ⟨h.here, fun m hm => h.kid (List.mem_map_of_mem hm)⟩
  · rintro ⟨here, below⟩
    refine .mk here fun k hk => ?_
    obtain ⟨m, hm, rfl⟩ := List.mem_map.mp hk
    exact below m hm

theorem throughout_array {xs : List Json} :
    Throughout P (.array xs) ↔ P (.array xs) ∧ ∀ x ∈ xs, Throughout P x := by
  constructor
  · refine fun h => ⟨h.here, fun x hx => ?_⟩
    obtain ⟨i, hi, rfl⟩ := List.getElem_of_mem hx
    have hstep : (array xs).step? (.index i) = some xs[i] := List.getElem?_eq_getElem hi
    exact h.step? hstep
  · rintro ⟨here, below⟩
    refine .mk here fun k hk => ?_
    obtain ⟨i, -, hx⟩ := mem_indexed hk
    exact below _ (List.mem_of_getElem? hx)

mutual

/-- Decides whether something holds at every node of a tree. -/
def decThroughout [DecidablePred P] : (x : Json) → Decidable (Throughout P x)
  | .object ms =>
    have := decThroughoutMembers ms
    decidable_of_iff _ throughout_object.symm
  | .array xs =>
    have := decThroughoutItems xs
    decidable_of_iff _ throughout_array.symm
  | .null => decidable_of_iff _ (throughout_leaf rfl).symm
  | .bool _ => decidable_of_iff _ (throughout_leaf rfl).symm
  | .number _ => decidable_of_iff _ (throughout_leaf rfl).symm
  | .string _ => decidable_of_iff _ (throughout_leaf rfl).symm

/-- Decides whether something holds at every node of some trees. -/
def decThroughoutItems [DecidablePred P] :
    (xs : List Json) → Decidable (∀ x ∈ xs, Throughout P x)
  | [] => isTrue nofun
  | x :: xs =>
    have := decThroughout x
    have := decThroughoutItems xs
    decidable_of_iff (Throughout P x ∧ ∀ x ∈ xs, Throughout P x) List.forall_mem_cons.symm

/-- Decides whether something holds at every node of the values of some members. -/
def decThroughoutMembers [DecidablePred P] :
    (ms : List (String × Json)) → Decidable (∀ m ∈ ms, Throughout P m.2)
  | [] => isTrue nofun
  | (name, x) :: ms =>
    have := decThroughout x
    have := decThroughoutMembers ms
    decidable_of_iff (Throughout P x ∧ ∀ m ∈ ms, Throughout P m.2)
      (List.forall_mem_cons (a := (name, x)) (p := fun m => Throughout P m.2)).symm

end

instance [DecidablePred P] : DecidablePred (Throughout P) := decThroughout

instance : DecidablePred Literal := fun x =>
  inferInstanceAs (Decidable (∀ y ∈ x.member? refKey, y.refText? = none))

instance : DecidablePred Bare := fun x =>
  inferInstanceAs (Decidable (x.member? refKey = none))

/-- What holds wherever a path leads holds throughout. -/
theorem throughout_of_follow? {x : Json} (hwf : x.WellFormed)
    (h : ∀ path y, x.follow? path = some y → P y) : Throughout P x := by
  refine .mk (h [] x rfl) fun k hk => ?_
  have := kids_lt hk
  have hstep := hwf.step?_of_mem_kids hk
  exact throughout_of_follow? (hwf.step? hstep) fun path y hy =>
    h (k.1 :: path) y (Option.bind_eq_some_iff.mpr ⟨k.2, hstep, hy⟩)
termination_by sizeOf x

theorem throughout_distinct {x : Json} (h : x.WellFormed) : Throughout Distinct x := by
  refine .mk ?_ fun k hk => ?_
  · rintro ms rfl
    exact h.1
  · have := kids_lt hk
    exact throughout_distinct (h.step? (h.step?_of_mem_kids hk))
termination_by sizeOf x

theorem keys_withValues {ms : List (String × Json)} {ys : List Json}
    (hlen : ys.length = ms.length) : OrderedMap.keys (withValues ms ys) = OrderedMap.keys ms := by
  induction ms generalizing ys with
  | nil => rfl
  | cons m ms ih =>
    cases ys with
    | nil => cases hlen
    | cons y ys =>
      have hrest : OrderedMap.keys (withValues ms ys) = OrderedMap.keys ms :=
        ih (by simpa using hlen)
      simpa [withValues, OrderedMap.keys] using hrest

theorem Distinct.withKids {ys : List Json} (h : x.Distinct) (hlen : ys.length = x.kids.length) :
    (x.withKids ys).Distinct := by
  intro ms hms
  cases x with
  | object ms' =>
    cases hms
    rw [keys_withValues (by rwa [length_kids_object] at hlen)]
    exact h ms' rfl
  | _ => cases hms

/-! ## Literal trees -/

theorem refText?_of_member? {text : String} :
    x.refText? = some text ↔ x.member? refKey = some (.string text) := by
  unfold refText?
  constructor
  · intro h
    obtain ⟨y, hy, htext⟩ := Option.bind_eq_some_iff.mp h
    cases y with
    | string text' =>
      cases htext
      exact hy
    | _ => cases htext
  · intro h
    rw [h]
    rfl

/-- Only reference nodes are volatile where `$ref` is never computed. -/
theorem refText?_of_volatile (h : Throughout Literal x) (hv : Volatile x) :
    x.refText?.isSome := by
  induction hv with
  | text member => simp [refText?, member, string?]
  | computed member _ ih =>
    have hsome := ih (h.member? member)
    rw [h.here _ member] at hsome
    cases hsome

theorem not_volatile (h : Throughout Literal x) (hx : x.refText? = none) : ¬Volatile x := by
  intro hv
  have hsome := refText?_of_volatile h hv
  rw [hx] at hsome
  cases hsome

/-- Whether a way down from a node leads through a reference node. -/
def passesRef (x : Json) : List String → Bool
  | [] => false
  | token :: rest => x.refText?.isSome || (Pointer.child? x token).any (passesRef · rest)

theorem not_passesVolatile {tokens : List String} (h : Throughout Literal x)
    (hx : x.passesRef tokens = false) : ¬PassesVolatile x tokens := by
  intro hp
  induction hp with
  | here hv => simp [passesRef, refText?_of_volatile h hv] at hx
  | @deeper node child token rest step _ ih =>
    have hpass := (Bool.or_eq_false_iff.mp hx).2
    rw [step] at hpass
    rw [Pointer.child?_eq] at step
    obtain ⟨segment, -, hchild⟩ := Option.bind_eq_some_iff.mp step
    exact ih (h.step? hchild) hpass

namespace Kept

/-- A node that is no reference node has not become one. -/
theorem refText?_eq_none (h : Kept x y) (hlit : Throughout Literal x) (hx : x.refText? = none) :
    y.refText? = none := by
  cases hy : y.refText? with
  | none => rfl
  | some text =>
    exact absurd (h.volatile_of_refText? (by rw [hy]; rfl)) (not_volatile hlit hx)

/-- Nor has its `$ref` member. -/
theorem literal (h : Kept x y) (hlit : Throughout Literal x) (hx : x.refText? = none) :
    y.Literal := by
  intro b hb
  rw [member?_eq_step?] at hb
  obtain ⟨a, ha, hkept⟩ := (h.kidwise (not_volatile hlit hx)).step? hb
  rw [← member?_eq_step?] at ha
  exact hkept.refText?_eq_none (hlit.member? ha) (hlit.here a ha)

/-- A tree without any `$ref` has not changed. -/
theorem eq_of_bare {x y : Json} (h : Kept x y) (hbare : Throughout Bare x) : y = x := by
  have hlit : Throughout Literal x := hbare.mono fun {z} hz a ha => by
    unfold Bare at hz
    rw [hz] at ha
    cases ha
  have hfirm : ¬Volatile x := by
    refine not_volatile hlit ?_
    have hx : x.member? refKey = none := hbare.here
    simp [refText?, hx]
  refine ((h.kidwise hfirm).mono fun {k} hk {b} hkept => ?_).eq
  have := kids_lt hk
  exact eq_of_bare hkept (hbare.kid hk)
termination_by sizeOf x

end Kept

end ApiBundle.Json
