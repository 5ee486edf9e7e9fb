import ApiBundle.CommandLine.Run
import ApiBundle.Proofs.Pointer.Addressing

/-!
# References that lead nowhere

The report of a tree's references is what its nodes give in document order: each reference node
gives its place and its text, unless the text leads to a node of the tree (`Json.LeadsTo`). In a
tree whose objects have members of different names no place is listed twice, and a reference is
listed exactly if it stands in the tree and leads nowhere (`Json.ReportsUnresolved`). So checking a
task succeeds exactly if its document holds no such reference (`Task.Checked`).
-/

namespace ApiBundle

namespace Json

variable {tree x y z : Json} {path path' : List Segment} {text : String} {p : Pointer}

/-- A reference text leads to a node of a tree: behind a `#` it holds, percent-encoded in any way,
the text of a pointer whose tokens spell a path to the node. -/
def LeadsTo (tree : Json) (text : String) (x : Json) : Prop :=
  ∃ (fragment : String) (p : Pointer) (path : List Segment), text = "#" ++ fragment ∧
    Percent.decode fragment.toList = p.chars ∧ Pointer.Spells path p.tokens ∧
    tree.follow? path = some x

theorem leadsTo_iff : tree.LeadsTo text x ↔ ∃ fragment p, text = "#" ++ fragment ∧
    Pointer.ofFragment fragment = .ok p ∧ p.find? tree = some x := by
  simp only [LeadsTo, Reference.ofFragment_eq_ok, Pointer.find?, Pointer.lookup_eq_some_iff]
  grind

theorem resolvesIn_iff : tree.resolvesIn text = true ↔ ∃ x, tree.LeadsTo text x := by
  simp only [leadsTo_iff]
  unfold resolvesIn
  split
  · next fragment htext =>
    have heq : text = "#" ++ String.ofList fragment := String.toList_inj.mp (by simp [htext])
    constructor
    · intro h
      split at h
      · next p hp =>
        obtain ⟨x, hx⟩ := Option.isSome_iff_exists.mp h
        exact ⟨x, _, p, heq, hp, hx⟩
      · cases h
    · rintro ⟨x, fragment', p, heq', hp, hx⟩
      have hfragment : String.ofList fragment = fragment' := by
        have hlist := congrArg String.toList (heq.symm.trans heq')
        exact String.toList_inj.mp (by simpa using hlist)
      rw [hfragment, hp]
      exact Option.isSome_iff_exists.mpr ⟨x, hx⟩
  · next hno =>
    refine iff_of_false nofun ?_
    rintro ⟨x, fragment, p, rfl, -⟩
    exact hno fragment.toList (by simp)

/-! ## The nodes that are reported -/

/-- What a node gives for the report, with its place below another one. -/
def report? (tree : Json) (here : Pointer) (n : List Segment × Json) : Option (Pointer × String) :=
  (n.2.refText?.filter fun text => !tree.resolvesIn text).map fun text =>
    (here.join (.ofPath n.1), text)

theorem report?_cons (tree : Json) (here : Pointer) (s : Segment) (n : List Segment × Json) :
    report? tree here (s :: n.1, n.2) = report? tree (here.push s.token) n := by
  simp [report?, Pointer.join, Pointer.push, Pointer.ofPath]

mutual

/-- The report of a tree's part is what its nodes give. -/
theorem unresolvedFrom_eq (tree : Json) (here : Pointer) (x : Json) :
    unresolvedFrom tree here x = x.nodes.filterMap (report? tree here) := by
  cases x with
  | object ms =>
    rw [unresolvedFrom, unresolvedMembers_eq, nodes, List.filterMap_cons]
    cases href : refText? (object ms) with
    | none => simp [report?, href]
    | some text =>
      by_cases hres : tree.resolvesIn text <;>
        simp [report?, href, hres, Option.filter, Pointer.join, Pointer.ofPath]
  | array xs =>
    rw [unresolvedFrom, unresolvedItems_eq, nodes, List.filterMap_cons]
    rfl
  | null | bool | number | string => rfl

theorem unresolvedItems_eq (tree : Json) (here : Pointer) (position : Nat) (xs : List Json) :
    unresolvedItems tree here position xs =
      (nodesOfItems position xs).filterMap (report? tree here) := by
  cases xs with
  | nil => rfl
  | cons x xs =>
    rw [unresolvedItems, unresolvedFrom_eq, unresolvedItems_eq, nodesOfItems, List.filterMap_append,
      List.filterMap_map]
    congr 2
    funext n
    exact (report?_cons tree here (.index position) n).symm

theorem unresolvedMembers_eq (tree : Json) (here : Pointer) (ms : List (String × Json)) :
    unresolvedMembers tree here ms = (nodesOfMembers ms).filterMap (report? tree here) := by
  cases ms with
  | nil => rfl
  | cons m ms =>
    obtain ⟨name, x⟩ := m
    rw [unresolvedMembers, unresolvedFrom_eq, unresolvedMembers_eq, nodesOfMembers,
      List.filterMap_append, List.filterMap_map]
    congr 2
    funext n
    exact (report?_cons tree here (.key name) n).symm

end

theorem unresolved_eq (tree : Json) :
    tree.unresolved = tree.nodes.filterMap (report? tree .root) :=
  unresolvedFrom_eq tree .root tree

theorem report?_eq_some_iff {n : List Segment × Json} : report? tree .root n = some (p, text) ↔
    p = .ofPath n.1 ∧ n.2.refText? = some text ∧ ∀ y, ¬tree.LeadsTo text y := by
  have hnowhere : (!tree.resolvesIn text) = true ↔ ∀ y, ¬tree.LeadsTo text y := by
    rw [Bool.not_eq_true', ← Bool.not_eq_true, resolvesIn_iff, not_exists]
  rw [← hnowhere]
  simp only [report?, Option.map_eq_some_iff, Option.filter_eq_some_iff, Prod.mk.injEq]
  constructor
  · rintro ⟨_, ⟨href, hno⟩, rfl, rfl⟩
    exact ⟨rfl, href, hno⟩
  · rintro ⟨rfl, href, hno⟩
    exact ⟨text, ⟨href, hno⟩, rfl, rfl⟩

theorem mem_unresolved_iff : (p, text) ∈ tree.unresolved ↔ ∃ n ∈ tree.nodes, p = .ofPath n.1 ∧
    n.2.refText? = some text ∧ ∀ y, ¬tree.LeadsTo text y := by
  rw [unresolved_eq, List.mem_filterMap]
  simp only [report?_eq_some_iff]

/-- The places are listed as the nodes are. -/
theorem places_sublist (tree : Json) : (tree.unresolved.map Prod.fst).Sublist
    (tree.nodes.map fun n => Pointer.ofPath n.1) := by
  rw [unresolved_eq]
  induction tree.nodes with
  | nil => exact .slnil
  | cons n nodes ih =>
    rw [List.filterMap_cons, List.map_cons]
    cases hn : report? tree .root n with
    | none => exact ih.cons _
    | some r =>
      rw [← (report?_eq_some_iff.mp hn).1]
      exact ih.cons_cons _

/-- The paths of a tree have different pointers: what a node is tells names from indices. -/
theorem path_eq_of_ofPath (h : x.follow? path = some y) (h' : x.follow? path' = some z)
    (heq : Pointer.ofPath path = Pointer.ofPath path') : path = path' := by
  have htokens : path.map Segment.token = path'.map Segment.token := congrArg Pointer.tokens heq
  clear heq
  induction path generalizing x path' with
  | nil => exact (List.map_eq_nil_iff.mp htokens.symm).symm
  | cons s path ih =>
    cases path' with
    | nil => cases htokens
    | cons s' path' =>
      obtain ⟨child, hstep, hfollow⟩ := Option.bind_eq_some_iff.mp h
      obtain ⟨child', hstep', hfollow'⟩ := Option.bind_eq_some_iff.mp h'
      obtain ⟨htoken, hrest⟩ := List.cons.inj htokens
      have hs : s = s' := by
        cases s with
        | key name =>
          cases s' with
          | key name' => exact congrArg Segment.key htoken
          | index i' => cases x <;> first | cases hstep | cases hstep'
        | index i =>
          cases s' with
          | key name' => cases x <;> first | cases hstep | cases hstep'
          | index i' => exact congrArg Segment.index (Text.toString_injective htoken)
      subst hs
      cases hstep.symm.trans hstep'
      rw [ih hfollow hfollow' hrest]

/-- What the report of a tree's references holds. -/
structure ReportsUnresolved (tree : Json) : Prop where
  /-- Every place is listed once. -/
  once : (tree.unresolved.map Prod.fst).Nodup
  /-- The places are in document order. -/
  inOrder : (tree.unresolved.map Prod.fst).Sublist (tree.nodes.map fun n => Pointer.ofPath n.1)
  /-- What is listed are the references that lead nowhere, with their places. -/
  listed : ∀ {p text}, (p, text) ∈ tree.unresolved ↔ ∃ path x, p = .ofPath path ∧
    tree.follow? path = some x ∧ x.refText? = some text ∧ ∀ y, ¬tree.LeadsTo text y

theorem reportsUnresolved (h : tree.WellFormed) : tree.ReportsUnresolved where
  once := by
    have hplaces : ((tree.nodes.map Prod.fst).map Pointer.ofPath).Nodup := by
      refine (nodup_nodes h).map_on fun path hpath path' hpath' heq => ?_
      obtain ⟨⟨_, y⟩, hy, rfl⟩ := List.mem_map.mp hpath
      obtain ⟨⟨_, z⟩, hz, rfl⟩ := List.mem_map.mp hpath'
      exact path_eq_of_ofPath ((mem_nodes_iff h).mp hy) ((mem_nodes_iff h).mp hz) heq
    rw [List.map_map] at hplaces
    exact (places_sublist tree).nodup hplaces
  inOrder := places_sublist tree
  listed {p text} := by
    rw [mem_unresolved_iff]
    simp only [Prod.exists, mem_nodes_iff h]
    grind

/-- Whether all references of a tree lead to nodes of it. -/
def Resolved (tree : Json) : Prop :=
  ∀ n ∈ tree.nodes, ∀ text, n.2.refText? = some text → ∃ x, tree.LeadsTo text x

theorem unresolved_eq_nil_iff : tree.unresolved = [] ↔ tree.Resolved := by
  rw [List.eq_nil_iff_forall_not_mem]
  simp only [Prod.forall, mem_unresolved_iff, Resolved]
  grind

end Json

/-! ## Checking -/

namespace Task

variable {bound : Nat} {files : FileTree} {task : Task}

/-- What checking a task comes to. -/
theorem run_check (bound : Nat) (files : FileTree) (task : Task) :
    (Command.check task).run bound files = (task.bundle bound files).map fun a =>
      match a.result with
      | .ok tree => (Report.ofReferences tree).deliver files
      | .error e => ⟨"", files, some e⟩ := by
  unfold Command.run Command.attempt
  show ((task.bundle bound files).map _ >>= _) = _
  cases task.bundle bound files with
  | none => rfl
  | some a =>
    obtain ⟨result, requests⟩ := a
    cases result <;> rfl

theorem exitCode_eq_zero_iff {d : Report.Delivery} : d.exitCode = 0 ↔ d.failure = none := by
  unfold Report.Delivery.exitCode
  cases d.failure <;> simp

theorem failure_ofReferences (tree : Json) (files : FileTree) :
    ((Report.ofReferences tree).deliver files).failure = none ↔ tree.Resolved := by
  rw [← Json.unresolved_eq_nil_iff]
  unfold Report.ofReferences
  cases tree.unresolved <;> simp [Report.deliver]

/-- What checking a task tells about its document. -/
structure Checked (bound : Nat) (files : FileTree) (task : Task) : Prop where
  /-- Checking comes to an end exactly if bundling does. -/
  ends : ((Command.check task).run bound files).isSome = (task.bundle bound files).isSome
  /-- It succeeds exactly if there is a document all of whose references lead to nodes of it. -/
  succeeds : (∃ d, (Command.check task).run bound files = some d ∧ d.exitCode = 0) ↔
    ∃ a tree, task.bundle bound files = some a ∧ a.result = .ok tree ∧ tree.Resolved

theorem checked (bound : Nat) (files : FileTree) (task : Task) : Checked bound files task where
  ends := by
    rw [run_check, Option.isSome_map]
  succeeds := by
    simp only [run_check, Option.map_eq_some_iff]
    constructor
    · rintro ⟨_, ⟨a, ha, rfl⟩, hexit⟩
      obtain ⟨result, requests⟩ := a
      cases result with
      | error e => cases hexit
      | ok tree =>
        have hfailure := exitCode_eq_zero_iff.mp hexit
        exact ⟨_, tree, ha, rfl, (failure_ofReferences tree files).mp hfailure⟩
    · rintro ⟨a, tree, ha, hresult, hresolved⟩
      refine ⟨_, ⟨a, ha, rfl⟩, ?_⟩
      rw [hresult]
      exact exitCode_eq_zero_iff.mpr ((failure_ofReferences tree files).mpr hresolved)

end Task

namespace Json

/-- The report of a tree is exact, and checking succeeds exactly if there is nothing to report. -/
theorem report_exact : (∀ {tree : Json}, tree.WellFormed → tree.ReportsUnresolved) ∧
    ∀ bound files task, Task.Checked bound files task :=
  ⟨reportsUnresolved, Task.checked⟩

/-- References to a definition, to none, and to another document. -/
theorem report_exact_missing : ∃ tree : Json, tree.WellFormed ∧
    tree.unresolved = [(⟨["b", "0"]⟩, "#/definitions/a~1c"), (⟨["c"]⟩, "other.yaml#/a")] ∧
      (∃ x, tree.LeadsTo "#/definitions/a%7E1b" x) ∧ ∀ y, ¬tree.LeadsTo "#/definitions/a~1c" y := by
  let tree : Json := .object [("definitions", .object [("a/b", .null)]),
    ("a", refNode "#/definitions/a%7E1b"), ("b", .array [refNode "#/definitions/a~1c"]),
    ("c", refNode "other.yaml#/a")]
  have hwell : tree.WellFormed := by
    simp [tree, refNode, WellFormed, WellFormedMembers, WellFormedItems, OrderedMap.keys]
  have hlist : tree.unresolved =
      [(⟨["b", "0"]⟩, "#/definitions/a~1c"), (⟨["c"]⟩, "other.yaml#/a")] := by decide +kernel
  have hleads : tree.resolvesIn "#/definitions/a%7E1b" = true := by decide +kernel
  have hmem : ((⟨["b", "0"]⟩ : Pointer), "#/definitions/a~1c") ∈ tree.unresolved := by
    rw [hlist]
    exact List.mem_cons_self ..
  obtain ⟨-, -, -, -, -, hnowhere⟩ := (report_exact.1 hwell).listed.mp hmem
  exact ⟨tree, hwell, hlist, resolvesIn_iff.mp hleads, hnowhere⟩

end Json

end ApiBundle
