import ApiBundle.Proofs.Registry.Calls
import ApiBundle.Proofs.Scan.Frame

/-!
# Names that hoisting does not give

A member named like the text of a reference makes a reference node of the container that it stands
in. Hoisting gives no entry that name: names are made of name characters, but for content that is
named after the key of its place. Such content merges with its references and is never hoisted.
-/

namespace ApiBundle

/-- Content that is named after its place merges with its references. -/
theorem Dialect.merges_of_pathKey {d : Dialect} {c : Component} (hc : c ∈ d.components)
    (h : c.info.naming = .pathKey) : c.info.conforming = true ∧ c.info.merge = true := by
  have key : ∀ d ∈ [swagger2, openApi3], ∀ c ∈ d.components, c.info.naming = .pathKey →
      c.info.conforming = true ∧ c.info.merge = true := by decide +kernel
  exact key d (by cases d <;> simp) c hc h

/-- What is neither lost nor merged is not named after its place. -/
theorem Reference.naming_of_treatment {d : Dialect} {o : Options} {r : Reference} {c : Component}
    (herror : r.treatment o ≠ .error) (hmerge : r.treatment o ≠ .merge)
    (hc : r.component = some c) (hmem : c ∈ d.components) : c.info.naming ≠ .pathKey := by
  intro hnaming
  obtain ⟨hconforming, hmerges⟩ := Dialect.merges_of_pathKey hmem hnaming
  unfold treatment at herror hmerge
  by_cases hvalid : r.isValid = true
  · simp [hvalid, hc, hconforming, hmerges] at hmerge
  · simp [hvalid] at herror

namespace Session

variable {s s' s'' : Session} {r : Reference}

/-- A later state without new entries that are named like the text of a reference. -/
structure Spares (s s' : Session) : Prop extends s.Evolves s' where
  names : ∀ h ∈ s'.registry.heads, h ∈ s.registry.heads ∨ h.name ≠ refKey

theorem Evolves.spares (h : s.Evolves s') (hsame : s'.registry.heads = s.registry.heads) :
    s.Spares s' where
  toEvolves := h
  names := fun _ hh => .inl (hsame ▸ hh)

namespace Spares

theorem refl (hwf : s.store.WF) : s.Spares s := (Evolves.refl hwf).spares rfl

theorem trans (h : s.Spares s') (h' : s'.Spares s'') : s.Spares s'' where
  toEvolves := h.toEvolves.trans h'.toEvolves
  names := by
    intro head hhead
    rcases h'.names head hhead with hold | hnew
    · exact h.names head hold
    · exact .inr hnew

theorem composes : Composes Spares := ⟨fun h => h.toEvolves, .refl, .trans⟩

/-- What happens while a reference is being resolved, seen from outside. -/
theorem around (hfree : s.isActive r = false) (h : (s.enter r).Spares s') :
    s.Spares (s'.leave r) :=
  ⟨h.toEvolves.around hfree, h.names⟩

end Spares

end Session

namespace Scan

open Scanning Session

variable {nested : NestedScan} {base : Reference} {node : Json} {r : Reference}
  {t : Tracker Component} {state : Option Nat} {s s' : Session}

/-- Scans of a kind spare the name unless they collect. -/
def NestedSpares (nested : NestedScan) : Prop :=
  ∀ id phase start, phase ≠ .collect → Relates Spares (nested id phase start)

section Steps

variable (hnested : NestedSpares nested)
include hnested

theorem carries_spares : Carries Spares nested where
  composes := Spares.composes
  quiet := fun hev hsame _ => hev.spares hsame
  around := .around
  nested := hnested

/-- Hoisting names its entry with name characters. -/
theorem spares_of_localizes {answer : Except BundleError (Disposition Completion)}
    (hwf : s.store.WF) (hr : ∀ c, r.component = some c → c ∈ s.dialect.components)
    (herror : r.treatment s.options ≠ .error) (hmerge : r.treatment s.options ≠ .merge)
    (h : Localizes nested node r state s answer s') : s.Spares s' := by
  refine relates_of_localizes (carries_spares hnested) hwf ?_
    (fun hwf => (evolves_finish hwf).spares rfl) h
  intro s₁ raw c place base e registry hev component hoist
  have hmem := hr c component
  have hnaming := Reference.naming_of_treatment herror hmerge component hmem
  refine ⟨evolves_localized hev.wf (hev.dialect ▸ hmem) hoist, ?_⟩
  exact Registry.names_localize (Component.preferredName_ne_refKey hnaming place _) hoist

theorem spares_of_visit {phase : Phase} {answer : Except BundleError (Disposition Completion)}
    (hphase : phase ≠ .collect) (hwf : s.store.WF) (hmachine : t.machine = s.dialect.machine)
    (h : Ends (visit nested phase base node t) s answer s') : s.Spares s' := by
  have htag := tag_mem_components hmachine
  refine relates_of_visit (carries_spares hnested) hwf (fun heq => absurd heq hphase)
    (fun ref herror hmerge localize => ?_) h
  exact spares_of_localizes hnested hwf (fun c hc => htag c (component_of_reference? ref ▸ hc))
    herror hmerge localize

end Steps

/-- Nothing that is hoisted while trees are settled is named like the text of a reference. -/
theorem spares_scanFrom (bound : Nat) : NestedSpares (scanFrom bound) := by
  induction bound with
  | zero =>
    intro id phase start _ s result s' _ h
    cases h
  | succ bound ih =>
    intro id phase start hphase s result s' hwf h
    exact relates_of_scanFrom (carries_spares ih)
      (fun hwf hmachine hv => spares_of_visit ih hphase hwf hmachine hv) hwf h

theorem spares_scan (bound : Nat) (id : ContentId) (phase : Phase) (hphase : phase ≠ .collect) :
    Relates Spares (scan bound id phase) :=
  Relates.get_bind fun _ => spares_scanFrom bound id phase _ hphase

end Scan

end ApiBundle
