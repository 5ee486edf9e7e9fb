import ApiBundle.Proofs.Tree.Places

/-!
# Trees that are the same but for one place

`Json.SameBut a b tokens x y` says that `x` and `y` have the same members and items in the same
order, except that at the place that `tokens` lead to the one has `a` and the other has `b`.
Overwriting what is at a place gives exactly the tree that is the same but for that place
(`Pointer.overwrite_eq_some_iff`), so that reading and overwriting the place are a lens.
-/

namespace ApiBundle

open Json

namespace Json

/-- Two trees that are the same but for the nodes `a` and `b` at the end of a pointer. -/
inductive SameBut (a b : Json) : List String → Json → Json → Prop where
  | here : SameBut a b [] a b
  | member {name : String} {rest : List String} {x y : Json} {front back : OrderedMap String Json}
      (first : name ∉ OrderedMap.keys front) (inner : SameBut a b rest x y) :
      SameBut a b (name :: rest) (.object (front ++ (name, x) :: back))
        (.object (front ++ (name, y) :: back))
  | item {token : String} {rest : List String} {x y : Json} {front back : List Json}
      (index : Pointer.index? token = some front.length) (inner : SameBut a b rest x y) :
      SameBut a b (token :: rest) (.array (front ++ x :: back)) (.array (front ++ y :: back))

variable {a b x y : Json} {tokens : List String}

theorem SameBut.lookup_eq (h : SameBut a b tokens x y) : Pointer.lookup x tokens = some a := by
  induction h with
  | here => rfl
  | @member name rest x y front back first inner ih =>
    rw [Pointer.lookup, Pointer.child?, find?_middle x first]
    exact ih
  | @item token rest x y front back index inner ih =>
    rw [Pointer.lookup, Pointer.child?, index]
    simpa using ih

/-- A member with the members before and after it. -/
theorem exists_middle {ms : OrderedMap String Json} {name : String}
    (h : OrderedMap.find? ms name = some x) :
    ∃ front back, ms = front ++ (name, x) :: back ∧ name ∉ OrderedMap.keys front := by
  induction ms with
  | nil => cases h
  | cons m ms ih =>
    obtain ⟨key, z⟩ := m
    by_cases hkey : key = name
    · subst hkey
      have hz : z = x := by simpa [OrderedMap.find?] using h
      exact ⟨[], ms, by rw [hz, List.nil_append], by simp [OrderedMap.keys]⟩
    · rw [OrderedMap.find?, if_neg hkey] at h
      obtain ⟨front, back, rfl, hfront⟩ := ih h
      refine ⟨(key, z) :: front, back, rfl, fun hmem => ?_⟩
      rcases List.mem_cons.mp hmem with heq | hmem
      · exact hkey heq.symm
      · exact hfront hmem

end Json

namespace Pointer

variable {a b x y : Json} {tokens : List String}

/-- Overwriting changes what is at the place and nothing else. -/
theorem sameBut_of_overwrite (h : overwrite x b tokens = some y) :
    ∃ a, SameBut a b tokens x y := by
  induction tokens generalizing x y with
  | nil =>
    cases h
    exact ⟨x, .here⟩
  | cons token rest ih =>
    obtain ⟨step, child, child', hstep, hchild, hrest, rfl⟩ := overwrite_cons h
    obtain ⟨a, hinner⟩ := ih hrest
    refine ⟨a, ?_⟩
    cases x with
    | object ms =>
      cases hstep
      obtain ⟨front, back, rfl, hfront⟩ := exists_middle hchild
      rw [Json.replace, put_middle child child' hfront]
      exact .member hfront hinner
    | array xs =>
      obtain ⟨i, hi, rfl⟩ := Option.map_eq_some_iff.mp hstep
      obtain ⟨hlt, hget⟩ := List.getElem?_eq_some_iff.mp hchild
      obtain ⟨front, back, hxs, hlen, hset⟩ : ∃ front back, xs = front ++ xs[i] :: back ∧
          front.length = i ∧ xs.set i child' = front ++ child' :: back := List.exists_of_set hlt
      rw [Json.replace, hset, hxs, hget]
      rw [← hlen] at hi
      exact .item hi hinner
    | null | bool | number | string => cases hstep

theorem overwrite_of_sameBut (h : SameBut a b tokens x y) : overwrite x b tokens = some y := by
  induction h with
  | here => rfl
  | @member name rest x y front back first inner ih =>
    rw [overwrite, find?_middle x first]
    simp only [ih, Option.map_some, put_middle x y first]
  | @item token rest x y front back index inner ih =>
    rw [overwrite, index]
    simp [ih]

theorem overwrite_eq_some_iff : overwrite x b tokens = some y ↔ ∃ a, SameBut a b tokens x y :=
  ⟨sameBut_of_overwrite, fun ⟨_, h⟩ => overwrite_of_sameBut h⟩

end Pointer

end ApiBundle
