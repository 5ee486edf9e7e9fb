import ApiBundle.Proofs.Bundle.Course
import ApiBundle.Proofs.Scan.Hoisting

/-!
# References are hoisted once

Hoisting notes a reference when the content of its entry is finished, so that a reference that is
noted once was scanned once for its entry. What is noted, or has an entry and is being resolved, is
pointed at (`Session.Points`): every equal reference that is met from then on, in whatever scan, is
replaced by the same reference into the registry, and nothing else happens.

Only hoisting notes references. An entry that is made while its reference is being inlined is
brought up to date by whoever inlines it, but is not noted: a later reference may scan its content
once more, and is noted then.
-/

namespace ApiBundle

open Scanning Scan

namespace Bundle

variable {bound : Nat} {s s' : Session}

/-- What holds of references that are hoisted by scans of a bound. -/
structure HoistsOnce (bound : Nat) : Prop where
  /-- No scan notes a reference twice, or one without an entry, however it ends. -/
  scanned : ∀ id phase start s result s', s.store.WF →
    Ends (scanFrom bound id phase start) s result s' → s'.store.Legible → s.Hoisting → s'.Hoisting
  /-- What is being resolved and has an entry is not noted by the scans below. -/
  apart : ∀ id phase start s result s', s.store.WF →
    Ends (scanFrom bound id phase start) s result s' → s'.store.Legible →
    ∀ i, s.resolving.isActive i = true → s.registry.contains i = true → i ∉ s.finalized →
    i ∉ s'.finalized
  /-- The same holds of runs, from their start to their end. -/
  run : ∀ d o source root tree result s', (Reference.forDocument root).documentRef.error = none →
    Ends (run bound root tree) (.start d o source) result s' → s'.store.Legible → s'.Hoisting
  /--
  A valid reference that is hoisted stays as it was, or is replaced by one into the registry. Then
  it is pointed at, and it is noted unless somebody else is resolving it.
  -/
  answered : ∀ s s' base node r answer (t : Tracker Component) state, s.store.WF →
    t.machine = s.dialect.machine → reference? s.options base node t = some r → r.error = none →
    Ends (localize (scanFrom bound) node r state) s (.ok answer) s' → s'.store.Legible →
    answer = .doneWith node.withoutAdornment ∨
      ∃ target, answer = .doneWith target ∧ s'.Points r target ∧
        (s.isActive r = false → r.id ∈ s'.finalized)
  /-- While the content of an entry is scanned for its reference, the reference is pointed at. -/
  inside : ∀ (s : Session) r e, s.registry.find? r.id = some e → (s.enter r).Points r e.refNode
  /-- From then on every equal reference is replaced by the same one, in an unchanged state. -/
  repeated : ∀ (s s' : Session) r r' target node state, s.Points r target → s.LeadsTo s' →
    r'.id = r.id → r'.component ≠ none →
    Ends (localize (scanFrom bound) node r' state) s' (.ok (.doneWith target)) s'

theorem hoists_loadContent (r : Reference) (start : Option Nat) :
    Relates Session.Hoists (loadContent r start) := by
  intro s result s' hwf h
  obtain ⟨-, rfl⟩ := ends_onStore.mp h
  obtain ⟨id, -, hgrows, -⟩ := hwf.load s.source r start
  exact (Session.evolves_withStore (hwf.grows hgrows) hgrows.extends).hoists rfl

theorem hoisting_rooted {d : Dialect} {o : Options} {source : Source} {root : Uri} {tree : Json} :
    (rooted d o source root tree).Hoisting :=
  ⟨List.nodup_nil, List.forall_mem_nil _⟩

theorem hoisted_once (bound : Nat) : HoistsOnce bound where
  scanned := by
    intro id phase start s result s' hwf h hlegible
    exact (hoists_scanFrom bound id phase start s result s' hwf h).hoisting hlegible
  apart := by
    intro id phase start s result s' hwf h hlegible i hactive hentry hnot hmem
    have hscan := hoists_scanFrom bound id phase start s result s' hwf h
    exact hnot (hscan.apart hlegible i hactive hentry hmem)
  run := by
    intro d o source root tree result s' hroot h hlegible
    have hrun := relates_run Session.Hoists.composes hoists_loadContent (hoists_scan bound) hroot h
    exact hrun.hoisting hlegible hoisting_rooted
  answered := by
    intro s s' base node r answer t state hwf hmachine href hvalid h hlegible
    have htag : ∀ c, r.component = some c → c ∈ s.dialect.components := fun c hc =>
      tag_mem_components hmachine c (component_of_reference? href ▸ hc)
    exact points_of_localizes (hoists_scanFrom bound) hwf htag href hvalid hlegible
      (localize_ends hwf h)
  inside := fun s r e h => Session.points_enter h
  repeated := by
    intro s s' r r' target node state h hlater hid hcomponent
    exact localize_of_points (h.leadsTo hlater) hid hcomponent

namespace Recursive

/-- The URL of a root. -/
def home : Uri := ⟨"mem", some (.ofHost (some (.name "a"))), "/main.json", none, none⟩

/-- A root that refers to a schema, from outside it and from inside it. -/
def tree : Json :=
  .object [("swagger", .string "2.0"),
    ("paths", .object [("/p", .object [("get", .object [("responses", .object [
      ("200", .object [("schema", .object [("$ref", .string "#/x-tree")])])])])])]),
    ("x-tree", .object [("items", .object [("$ref", .string "#/x-tree")])])]

end Recursive

set_option maxRecDepth 10000 in
/-- The schema is noted, once, though it is met twice. -/
theorem hoisted_once_recursive :
    ∃ out s', Ends (run 10 Recursive.home Recursive.tree) (.start .swagger2 .default (.ofTexts []))
      (.ok out) s' ∧ s'.store.Legible ∧ s'.Hoisting ∧ s'.finalized.length = 1 := by
  have hrun : ((run 10 Recursive.home Recursive.tree).run.run
      (.start .swagger2 .default (.ofTexts []))).bind (fun p =>
        if p.1.toOption.isSome ∧ p.2.store.Legible ∧ p.2.finalized.length = 1
        then some () else none) = some () := by decide +kernel
  obtain ⟨⟨result, s'⟩, hends, hchecked⟩ := Option.bind_eq_some_iff.mp hrun
  split at hchecked
  · next h =>
    obtain ⟨hok, hlegible, hlength⟩ := h
    cases result with
    | error e => cases hok
    | ok out =>
      have hroot : (Reference.forDocument Recursive.home).documentRef.error = none := by
        decide
      exact ⟨out, s', hends, hlegible,
        (hoisted_once 10).run _ _ _ _ _ _ _ hroot hends hlegible, hlength⟩
  · cases hchecked

end Bundle

end ApiBundle
