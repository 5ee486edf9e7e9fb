import ApiBundle.Proofs.Machine.Transit

/-!
# Machines assembled by calls

A machine that any calls have assembled, failed ones among them, is closed, and declaring a path on
it builds exactly that path (`Machine.DeclaresPath`): the hops that are missing and the edges along
the labels, nothing else. Paths with a common beginning share its hops (`Machine.DeclaresPaths`).
-/

namespace ApiBundle

/-- A call that assembles a machine. -/
inductive AssemblyCall (τ : Type) where
  | state (tag : τ)
  | transit (source : Nat) (labels : List String) (target : Nat)
  | copyEdges (source target : Nat)

namespace Machine

variable {τ : Type} {m : Machine τ}

/-- What a call leaves behind, whether it fails or not. -/
def call (m : Machine τ) : AssemblyCall τ → Machine τ
  | .state tag => ((addState (some tag)).run.run m).2
  | .transit source labels target => ((transit source labels target).run.run m).2
  | .copyEdges source target => ((copyEdges source target).run.run m).2

/-- What calls make of a machine. -/
def after (m : Machine τ) (calls : List (AssemblyCall τ)) : Machine τ := calls.foldl call m

/-! ## Every edge leads to a state -/

theorem closed_copyEdges (h : m.Closed) (source target : Nat) :
    ((copyEdges source target).run.run m).2.Closed := by
  unfold copyEdges
  rw [run_bind, run_record]
  cases m.states[target]? with
  | none => exact h
  | some t =>
    simp only
    rw [run_bind, run_record]
    cases hs : m.states[source]? with
    | none => exact h
    | some s =>
      have hkeep : Preserves (fun m' : Machine τ => m'.Closed ∧ m'.size = m.size)
          (s.edges.forM fun e => install target e.text e.label e.target) := by
        refine preserves_forM fun e he m' hm' => ?_
        obtain ⟨hclosed, hsize⟩ := hm'
        have hlt : e.target < m'.size := hsize ▸ h _ _ hs e he
        exact ⟨hclosed.withEdge hlt _ _ _, (size_withEdge ..).trans hsize⟩
      exact (hkeep m ⟨h, rfl⟩).1

theorem Closed.call (h : m.Closed) (c : AssemblyCall τ) : (m.call c).Closed := by
  cases c with
  | state tag => exact h.withState (some tag)
  | transit source labels target => exact (transits_transit m source labels target).closed h
  | copyEdges source target => exact closed_copyEdges h source target

theorem Closed.after (h : m.Closed) (calls : List (AssemblyCall τ)) : (m.after calls).Closed := by
  induction calls generalizing m with
  | nil => exact h
  | cons c calls ih => exact ih (h.call c)

/-! ## Declared paths -/

/-- What declaring a path comes to: a result `r` and a machine `m'`. -/
structure DeclaresPath (m : Machine τ) (source : Nat) (labels : List String) (target : Nat)
    (r : Except BundleError Unit) (m' : Machine τ) : Prop where
  closed : m'.Closed
  keeps : ∀ {q path p}, m.along? q path = some p → m'.along? q path = some p
  tags : ∀ q, m'.tag q = m.tag q
  anonymous : ∀ q, m.size ≤ q → m'.tag q = none
  reaches : r = .ok () → m'.along? source labels = some target
  /-- The new states are the missing hops. -/
  hops : r = .ok () →
    ∃ present missing, Follows.MakesHops m source labels.dropLast m' present missing
  /-- The new edges are those of the path. -/
  edges : ∀ {q text p}, m'.edge? q text = some p → m.edge? q text = some p ∨
    ∃ before after, labels = before ++ text :: after ∧ m'.along? source before = some q
  /-- It is a conflict exactly if the whole path is there and leads elsewhere. -/
  conflict : ∀ path present wanted, r = .error (.transitConflict path present wanted) ↔
    target < m.size ∧ labels ≠ [] ∧ m.along? source labels = some present ∧ present ≠ target ∧
      path = labels ∧ wanted = target
  untouched : (labels = [] ∨
    (∃ path present wanted, r = .error (.transitConflict path present wanted)) ∨
    ∃ q, r = .error (.unknownState q)) → m' = m
  failures : ∀ e, r = .error e → Transits.Fails m source target labels e

theorem Closed.declaresPath (h : m.Closed) (source : Nat) (labels : List String) (target : Nat) :
    DeclaresPath m source labels target ((transit source labels target).run.run m).1
      ((transit source labels target).run.run m).2 := by
  have hrun := transits_transit m source labels target
  have hgrows := hrun.grows
  refine ⟨hrun.closed h, hgrows.along?, hgrows.tag, fun q hq => ?_, fun hr => ?_, fun hr => ?_,
    hrun.edge_cases, fun path present wanted => hrun.conflict_iff h, ?_, fun e hr => ?_⟩
  · exact (hgrows.tag q).trans (tag_eq_none hq)
  · rw [hr] at hrun
    exact hrun.reaches
  · rw [hr] at hrun
    exact hrun.hops
  · rintro (rfl | ⟨path, present, wanted, hr⟩ | ⟨q, hr⟩)
    · rfl
    · rw [hr] at hrun
      exact hrun.eq_of_error h nofun
    · rw [hr] at hrun
      exact hrun.eq_of_error h nofun
  · rw [hr] at hrun
    exact hrun.fails h

/-- Paths can be declared on a machine as they should be. -/
structure DeclaresPaths (m : Machine τ) : Prop where
  closed : m.Closed
  path : ∀ source labels target, DeclaresPath m source labels target
    ((transit source labels target).run.run m).1 ((transit source labels target).run.run m).2
  /-- The hops of a common beginning are made once. -/
  shares : ∀ {source target target' shared labels labels' m₁ m₂},
    (transit source (shared ++ labels) target).run.run m = (.ok (), m₁) →
    (transit source (shared ++ labels') target').run.run m₁ = (.ok (), m₂) →
    ∃ q, m₁.along? source shared = some q ∧ m₂.along? source shared = some q ∧
      m₂.size ≤ m₁.size + labels'.dropLast.length

theorem exists_along?_of_append {q p : Nat} {path rest : List String}
    (h : m.along? q (path ++ rest) = some p) : ∃ next, m.along? q path = some next := by
  rw [along?_append] at h
  obtain ⟨next, hnext, -⟩ := Option.bind_eq_some_iff.mp h
  exact ⟨next, hnext⟩

/-- A path whose beginning is there needs hops for the rest of it only. -/
theorem Transits.size_le {m' : Machine τ} {source target q : Nat} {shared labels : List String}
    (h : Transits m source target (shared ++ labels) (.ok ()) m')
    (hshared : m.along? source shared = some q) : m'.size ≤ m.size + labels.dropLast.length := by
  obtain ⟨present, missing, hmakes⟩ := h.hops
  rw [hmakes.size]
  refine Nat.add_le_add_left ?_ _
  by_cases hlabels : labels = []
  · subst hlabels
    rw [List.append_nil] at hmakes
    have hinit : (m.along? source shared.dropLast).isSome := by
      rcases List.eq_nil_or_concat shared with rfl | ⟨init, last, rfl⟩
      · rfl
      · rw [List.concat_eq_append] at hshared ⊢
        obtain ⟨next, hnext⟩ := exists_along?_of_append hshared
        rw [List.dropLast_concat, hnext]
        rfl
    exact hmakes.length_le (List.append_nil _).symm hinit
  · exact hmakes.length_le (List.dropLast_append_of_ne_nil hlabels) (hshared ▸ rfl)

/-- Whatever was called before, declaring a path builds that path and nothing else. -/
theorem declaresPaths_after (calls : List (AssemblyCall τ)) :
    (empty.after calls : Machine τ).DeclaresPaths := by
  have hclosed := closed_empty.after calls
  refine ⟨hclosed, hclosed.declaresPath, ?_⟩
  intro source target target' shared labels labels' m₁ m₂ h₁ h₂
  have hfirst := transits_transit (empty.after calls) source (shared ++ labels) target
  have hsecond := transits_transit m₁ source (shared ++ labels') target'
  rw [h₁] at hfirst
  rw [h₂] at hsecond
  obtain ⟨q, hq⟩ := exists_along?_of_append hfirst.reaches
  exact ⟨q, hq, hsecond.grows.along? hq, hsecond.size_le hq⟩

/-- Two paths that start alike have their first hop in common. -/
example : ((empty : Machine Nat).after [.state 7, .state 8, .transit 0 ["p", "q"] 1,
    .transit 0 ["p", "r"] 0]).size = 3 := by decide

end Machine

end ApiBundle
