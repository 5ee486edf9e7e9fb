import ApiBundle.Proofs.Tree.Insert
import ApiBundle.Proofs.Tree.Replace
import ApiBundle.Proofs.Tree.Throughout
import Mathlib.Data.List.Nodup

/-!
# Places in a tree

`Json.putAt` puts a node in the place that a path leads to. A function that makes a tree around any
node surrounds the place at the end of a path (`Json.Surrounds`) if the path leads to the node that
was put in, and putting another one there makes the tree around that one. In a tree whose objects
have members of different names, each child of a node has such a place, whatever has become of the
children before it. `Json.nodes` lists the nodes of a tree in document order.
-/

namespace ApiBundle

namespace Json

/-- A tree with another node in the place that a path leads to. -/
def putAt (node : Json) (path : List Segment) (new : Json) : Json :=
  match path with
  | [] => new
  | step :: rest =>
    match node.step? step with
    | some child => node.replace step (child.putAt rest new)
    | none => node

theorem putAt_append {x y : Json} {path : List Segment} (h : x.follow? path = some y)
    (rest : List Segment) (new : Json) :
    x.putAt (path ++ rest) new = x.putAt path (y.putAt rest new) := by
  induction path generalizing x with
  | nil =>
    cases h
    rfl
  | cons step path ih =>
    obtain ⟨child, hchild, hpath⟩ := Option.bind_eq_some_iff.mp h
    simp only [List.cons_append, putAt, hchild, ih hpath]

/-! ## Children -/

theorem step_of_indexed {position : Nat} {xs : List Json} {front back : List (Segment × Json)}
    {k : Segment × Json} (h : indexed position xs = front ++ k :: back) :
    k.1 = .index (position + front.length) := by
  induction xs generalizing position front with
  | nil => simp [indexed] at h
  | cons x xs ih =>
    cases front with
    | nil =>
      obtain ⟨rfl, -⟩ := List.cons.inj h
      rfl
    | cons entry front =>
      rw [ih (List.cons.inj h).2, List.length_cons]
      congr 1
      omega

theorem withValues_append {front back : List (String × Json)} {ys zs : List Json}
    (hlen : ys.length = front.length) :
    withValues (front ++ back) (ys ++ zs) = withValues front ys ++ withValues back zs := by
  induction front generalizing ys with
  | nil =>
    cases List.length_eq_zero_iff.mp hlen
    rfl
  | cons m front ih =>
    cases ys with
    | nil => cases hlen
    | cons y ys => simp [withValues, ih (by simpa using hlen)]

theorem find?_middle {front back : OrderedMap String Json} {name : String} (x : Json)
    (h : name ∉ OrderedMap.keys front) :
    OrderedMap.find? (front ++ (name, x) :: back) name = some x := by
  induction front with
  | nil => simp [OrderedMap.find?]
  | cons m front ih =>
    obtain ⟨hne, hrest⟩ := List.ne_and_not_mem_of_not_mem_cons h
    simp only [List.cons_append, OrderedMap.find?, if_neg (Ne.symm hne)]
    exact ih hrest

theorem put_middle {front back : OrderedMap String Json} {name : String} (x y : Json)
    (h : name ∉ OrderedMap.keys front) :
    OrderedMap.put (front ++ (name, x) :: back) name y = front ++ (name, y) :: back := by
  induction front with
  | nil => simp [OrderedMap.put]
  | cons m front ih =>
    obtain ⟨hne, hrest⟩ := List.ne_and_not_mem_of_not_mem_cons h
    simp only [List.cons_append, OrderedMap.put, if_neg (Ne.symm hne)]
    rw [ih hrest]

variable {x : Json} {front back : List (Segment × Json)} {k : Segment × Json} {ys : List Json}

/-- The place of a child, whatever the children before it have become. -/
theorem Distinct.place (hx : x.Distinct) (hkids : x.kids = front ++ k :: back)
    (hlen : ys.length = front.length) (c : Json) :
    (x.withKids (ys ++ c :: back.map Prod.snd)).step? k.1 = some c ∧
      ∀ new, (x.withKids (ys ++ c :: back.map Prod.snd)).replace k.1 new =
        x.withKids (ys ++ new :: back.map Prod.snd) := by
  cases x with
  | object ms =>
    obtain ⟨ms₁, ms₂, rfl, rfl, hms⟩ := List.map_eq_append_iff.mp hkids
    obtain ⟨m, ms₃, rfl, rfl, rfl⟩ := List.map_eq_cons_iff.mp hms
    rw [List.length_map] at hlen
    have hnodup := hx _ rfl
    have hnot : m.1 ∉ OrderedMap.keys (withValues ms₁ ys) := by
      rw [keys_withValues hlen]
      simp only [OrderedMap.keys, List.map_append, List.map_cons] at hnodup ⊢
      exact fun h => (List.nodup_append.mp hnodup).2.2 _ h _ (List.mem_cons_self ..) rfl
    have hfill (c : Json) (zs : List Json) : (object (ms₁ ++ m :: ms₃)).withKids (ys ++ c :: zs) =
        object (withValues ms₁ ys ++ (m.1, c) :: withValues ms₃ zs) :=
      congrArg object (withValues_append hlen)
    simp only [hfill]
    exact ⟨find?_middle c hnot, fun new => congrArg object (put_middle c new hnot)⟩
  | array xs =>
    have hk : k.1 = .index ys.length := by
      rw [step_of_indexed hkids, hlen, Nat.zero_add]
    have hfill (zs : List Json) : (array xs).withKids zs = array zs := rfl
    simp only [hfill, hk]
    exact ⟨by simp [step?], fun new => by simp [replace]⟩
  | null | bool | number | string => simp [kids] at hkids

theorem nodup_steps (hx : x.Distinct) : (x.kids.map Prod.fst).Nodup := by
  cases x with
  | object ms =>
    have hkeys : (kids (object ms)).map Prod.fst = (OrderedMap.keys ms).map Segment.key := by
      simp [kids, OrderedMap.keys]
    rw [hkeys]
    exact (hx ms rfl).map fun a b h => Segment.key.inj h
  | array xs =>
    clear hx
    simp only [kids]
    generalize 0 = position
    induction xs generalizing position with
    | nil => exact List.nodup_nil
    | cons a xs ih =>
      refine List.nodup_cons.mpr ⟨fun h => ?_, ih _⟩
      obtain ⟨k, hk, heq⟩ := List.mem_map.mp h
      obtain ⟨i, hi, -⟩ := mem_indexed hk
      rw [hi] at heq
      injection heq with heq
      omega
  | null | bool | number | string => exact List.nodup_nil

theorem sublist_steps {k' : Segment × Json} (hkids : x.kids = front ++ k :: back) (h : k' ∈ back) :
    [k.1, k'.1].Sublist (x.kids.map Prod.fst) := by
  rw [hkids, List.map_append, List.map_cons]
  refine (List.Sublist.cons_cons _ ?_).trans (List.sublist_append_right ..)
  exact List.singleton_sublist.mpr (List.mem_map_of_mem h)

theorem map_fst_kids_withKids (hlen : ys.length = x.kids.length) :
    (x.withKids ys).kids.map Prod.fst = x.kids.map Prod.fst := by
  rw [Kidwise.kids_withKids hlen, List.map_map]
  have hcomp : Prod.fst ∘ (fun k : (Segment × Json) × Json => (k.1.1, k.2)) =
      Prod.fst ∘ Prod.fst := rfl
  rw [hcomp, ← List.map_map, List.map_fst_zip (Nat.le_of_eq hlen.symm)]

/-! ## Surroundings -/

/-- Making a tree around a node, which stands at the end of a path then. -/
structure Surrounds (around : Json → Json) (path : List Segment) : Prop where
  finds : ∀ x, (around x).follow? path = some x
  puts : ∀ x y, (around x).putAt path y = around y

theorem surrounds_nil : Surrounds id [] := ⟨fun _ => rfl, fun _ _ => rfl⟩

/-- A tree around a node is also one around each child of it. -/
theorem Surrounds.kid {around : Json → Json} {path : List Segment} (h : Surrounds around path)
    (hx : x.Distinct) (hkids : x.kids = front ++ k :: back) (hlen : ys.length = front.length) :
    Surrounds (fun c => around (x.withKids (ys ++ c :: back.map Prod.snd))) (path ++ [k.1]) := by
  refine ⟨fun c => ?_, fun c new => ?_⟩
  · rw [follow?_append, h.finds, Option.bind_some]
    simp [follow?, (hx.place hkids hlen c).1]
  · obtain ⟨hstep, hreplace⟩ := hx.place hkids hlen c
    rw [putAt_append (h.finds _), putAt, hstep]
    simp only [putAt]
    rw [hreplace, h.puts]

/-! ## Document order -/

mutual

/-- The nodes of a tree with the paths to them, each before what is below it. -/
def nodes : Json → List (List Segment × Json)
  | .object members => ([], .object members) :: nodesOfMembers members
  | .array items => ([], .array items) :: nodesOfItems 0 items
  | node => [([], node)]

/-- The nodes of items, from an index on. -/
def nodesOfItems (position : Nat) : List Json → List (List Segment × Json)
  | [] => []
  | x :: xs =>
    (nodes x).map (fun n => (.index position :: n.1, n.2)) ++ nodesOfItems (position + 1) xs

def nodesOfMembers : List (String × Json) → List (List Segment × Json)
  | [] => []
  | (name, x) :: ms => (nodes x).map (fun n => (.key name :: n.1, n.2)) ++ nodesOfMembers ms

end

/-- The nodes of children, child by child. -/
def nodesOfKids (kids : List (Segment × Json)) : List (List Segment × Json) :=
  kids.flatMap fun k => k.2.nodes.map fun n => (k.1 :: n.1, n.2)

theorem nodes_eq (x : Json) : x.nodes = ([], x) :: nodesOfKids x.kids := by
  cases x with
  | object ms =>
    have hrest : nodesOfMembers ms = nodesOfKids (ms.map fun m => (.key m.1, m.2)) := by
      induction ms with
      | nil => rfl
      | cons m ms ih =>
        simp only [nodesOfMembers, ih, nodesOfKids, List.map_cons, List.flatMap_cons]
    rw [nodes, hrest]
    rfl
  | array xs =>
    have hrest (position : Nat) : nodesOfItems position xs = nodesOfKids (indexed position xs) := by
      induction xs generalizing position with
      | nil => rfl
      | cons x xs ih => simp only [nodesOfItems, ih, nodesOfKids, indexed, List.flatMap_cons]
    rw [nodes, hrest]
    rfl
  | null | bool | number | string => rfl

/-- The nodes of a tree are what its paths lead to. -/
theorem mem_nodes_iff {x : Json} (hx : x.WellFormed) {path : List Segment} {y : Json} :
    (path, y) ∈ x.nodes ↔ x.follow? path = some y := by
  rw [nodes_eq, List.mem_cons]
  cases path with
  | nil =>
    have hno : ([], y) ∉ nodesOfKids x.kids := by
      intro h
      obtain ⟨k, -, hk⟩ := List.mem_flatMap.mp h
      obtain ⟨n, -, hn⟩ := List.mem_map.mp hk
      cases hn
    simp [hno, follow?, eq_comm]
  | cons step rest =>
    simp only [Prod.mk.injEq, reduceCtorEq, false_and, false_or, nodesOfKids, List.mem_flatMap,
      List.mem_map, follow?, Option.bind_eq_some_iff]
    constructor
    · rintro ⟨k, hk, n, hn, heq, rfl⟩
      cases heq
      have hstep := hx.step?_of_mem_kids hk
      have := kids_lt hk
      exact ⟨k.2, hstep, (mem_nodes_iff (hx.step? hstep)).mp hn⟩
    · rintro ⟨child, hchild, hrest⟩
      have hk := mem_kids_of_step? hchild
      have := kids_lt hk
      exact ⟨(step, child), hk, (rest, y), (mem_nodes_iff (hx.step? hchild)).mpr hrest,
        rfl, rfl⟩
termination_by sizeOf x

theorem nodup_nodes {x : Json} (hx : x.WellFormed) : (x.nodes.map Prod.fst).Nodup := by
  have hsteps := nodup_steps (throughout_distinct hx).here
  have hkids : (nodesOfKids x.kids).map Prod.fst =
      x.kids.flatMap fun k => (k.2.nodes.map Prod.fst).map (k.1 :: ·) := by
    simp [nodesOfKids, List.map_flatMap, Function.comp_def]
  rw [nodes_eq, List.map_cons, hkids]
  refine List.nodup_cons.mpr ⟨fun h => ?_, List.nodup_flatMap.mpr ⟨fun k hk => ?_, ?_⟩⟩
  · obtain ⟨k, -, hk⟩ := List.mem_flatMap.mp h
    simp at hk
  · have := kids_lt hk
    exact (nodup_nodes (hx.step? (hx.step?_of_mem_kids hk))).map fun a b h => (List.cons.inj h).2
  · refine (List.pairwise_map.mp hsteps).imp fun {a b} hne p hpa hpb => ?_
    obtain ⟨q, -, rfl⟩ := List.mem_map.mp hpa
    obtain ⟨r, -, hr⟩ := List.mem_map.mp hpb
    exact hne (List.cons.inj hr).1.symm
termination_by sizeOf x

end Json

end ApiBundle
