import ApiBundle.Proofs.Scan.Steps
import ApiBundle.Proofs.Walk.Halting

/-!
# Steps that come to an end

A step *halts* if it has one result for all large enough bounds on nesting. Everything that a scan
does on its own halts. So a visit halts if the nested scans do that it asks for, and these are asked
for only while a reference is resolved that was not being resolved before. How nested scans are
known to halt is left to those who use these lemmas: by counting the references that are left, or
because no reference leads back to itself.
-/

namespace ApiBundle

namespace Scanning

variable {α β : Type} {s s₁ s' : Session}

/-- A step has one result for all large enough bounds. -/
def Comes (m : Nat → Scanning α) (s : Session) (r : Except BundleError α) (s' : Session) : Prop :=
  ∃ b₀, ∀ b, b₀ ≤ b → Ends (m b) s r s'

/-- A step has some result for all large enough bounds. -/
def Halts (m : Nat → Scanning α) (s : Session) : Prop := ∃ r s', Comes m s r s'

theorem comes_of_ends {m : Scanning α} {r : Except BundleError α} (h : Ends m s r s') :
    Comes (fun _ => m) s r s' :=
  ⟨0, fun _ _ => h⟩

theorem halts_of_ends {m : Scanning α} {r : Except BundleError α} (h : Ends m s r s') :
    Halts (fun _ => m) s :=
  ⟨r, s', comes_of_ends h⟩

theorem Comes.ends {m : Nat → Scanning α} {r : Except BundleError α} (h : Comes m s r s') :
    ∃ b, Ends (m b) s r s' :=
  ⟨h.choose, h.choose_spec _ (Nat.le_refl _)⟩

/-- What is known to end in one way for some bounds and to halt halts in that way. -/
theorem Comes.unique {m : Nat → Scanning α} {r₁ r₂ : Except BundleError α} {s₂ : Session}
    (h₁ : Comes m s r₁ s₁) (h₂ : Comes m s r₂ s₂) : r₁ = r₂ ∧ s₁ = s₂ := by
  obtain ⟨b₁, h₁⟩ := h₁
  obtain ⟨b₂, h₂⟩ := h₂
  exact (h₁ (max b₁ b₂) (by omega)).unique (h₂ _ (by omega))

theorem Comes.bind {m : Nat → Scanning α} {f : Nat → α → Scanning β} {a : α}
    {r : Except BundleError β} (hm : Comes m s (.ok a) s₁)
    (hf : Comes (fun b => f b a) s₁ r s') : Comes (fun b => m b >>= f b) s r s' := by
  obtain ⟨b₁, h₁⟩ := hm
  obtain ⟨b₂, h₂⟩ := hf
  exact ⟨max b₁ b₂, fun b hb => (ends_bind_of (h₁ b (by omega))).mpr (h₂ b (by omega))⟩

/-- The bound of a scan is one larger than that of the scans below. -/
theorem Comes.succ {m : Nat → Scanning α} {r : Except BundleError α}
    (h : Comes (fun b => m (b + 1)) s r s') : Comes m s r s' := by
  obtain ⟨b₀, h₀⟩ := h
  refine ⟨b₀ + 1, fun b hb => ?_⟩
  obtain ⟨n, rfl⟩ : ∃ n, b = n + 1 := ⟨b - 1, by omega⟩
  exact h₀ n (by omega)

/-- Two steps in a row halt if the first one does, and the second one wherever that leads. -/
theorem Halts.bind {m : Nat → Scanning α} {f : Nat → α → Scanning β} (hm : Halts m s)
    (hf : ∀ a s₁, Comes m s (.ok a) s₁ → Halts (fun b => f b a) s₁) :
    Halts (fun b => m b >>= f b) s := by
  obtain ⟨r, s₁, hm⟩ := hm
  cases r with
  | error e =>
    obtain ⟨b₀, h₀⟩ := hm
    exact ⟨.error e, s₁, b₀, fun b hb => ends_bind.mpr (.inl ⟨e, h₀ b hb, rfl⟩)⟩
  | ok a =>
    obtain ⟨r, s', hf⟩ := hf a s₁ hm
    exact ⟨r, s', hm.bind hf⟩

/-- The same where the first step does not depend on the bound. -/
theorem Halts.after {m : Scanning α} {f : Nat → α → Scanning β} {a : α}
    (hm : Ends m s (.ok a) s₁) (hf : Halts (fun b => f b a) s₁) :
    Halts (fun b => m >>= f b) s := by
  obtain ⟨r, s', hf⟩ := hf
  exact ⟨r, s', (comes_of_ends hm).bind hf⟩

theorem halts_pure {a : α} : Halts (fun _ => (pure a : Scanning α)) s :=
  halts_of_ends (ends_pure.mpr ⟨rfl, rfl⟩)

theorem Halts.get {f : Nat → Session → Scanning α} (h : Halts (fun b => f b s) s) :
    Halts (fun b => (MonadState.get : Scanning Session) >>= f b) s :=
  .after (ends_get.mpr ⟨rfl, rfl⟩) h

theorem Halts.ofExcept {x : Except BundleError α} {f : Nat → α → Scanning β}
    (h : ∀ a, x = .ok a → Halts (fun b => f b a) s) :
    Halts (fun b => MonadExcept.ofExcept x >>= f b) s := by
  refine Halts.bind (halts_of_ends (ends_ofExcept.mpr ⟨rfl, rfl⟩)) fun a s₁ hx => ?_
  obtain ⟨_, hends⟩ := hx.ends
  obtain ⟨heq, rfl⟩ := ends_ofExcept.mp hends
  exact h a heq.symm

/-- A step halts while a reference is resolved if it halts after the reference was entered. -/
theorem Halts.resolving {m : Nat → Scanning α} {r : Reference} (hfree : s.isActive r = false)
    (h : Halts m (s.enter r)) : Halts (fun b => resolving r (m b)) s := by
  obtain ⟨result, s₁, b₀, h₀⟩ := h
  exact ⟨result, s₁.leave r, b₀, fun b hb =>
    (ends_resolving hfree).mpr ⟨s₁, h₀ b hb, rfl⟩⟩

/-- The lookup of a target halts; what follows has to halt in either case. -/
theorem Halts.loadTarget {r : Reference} {start : Option Nat} (hwf : s.store.WF)
    {f : Nat → Except Reference ContentId → Scanning α}
    (h : ∀ target s₁, Loads r start s target s₁ → Halts (fun b => f b target) s₁) :
    Halts (fun b => Scanning.loadTarget r start >>= f b) s := by
  obtain ⟨target, s₁, hends, hloads⟩ := loadTarget_ends hwf r start
  exact .after hends (h target s₁ hloads)

end Scanning

namespace Scan

open Scanning

variable {nested : Nat → NestedScan} {base : Reference} {node : Json} {r : Reference}
  {t : Tracker Component} {state : Option Nat} {s : Session}

theorem halts_splice (hwf : s.store.WF)
    (h : ∀ id s₁, s.isActive r = false → Loads r state s (.ok id) s₁ →
      Halts (fun b => nested b id .load state) (s₁.enter r)) :
    Halts (fun b => splice (nested b) node r state) s := by
  unfold splice
  refine .after ends_isResolving ?_
  cases hactive : s.isActive r with
  | true =>
    simp only [if_true]
    exact halts_of_ends (ends_lose_bind.mpr (ends_pure.mpr ⟨rfl, rfl⟩))
  | false =>
    simp only [Bool.false_eq_true, if_false]
    refine .loadTarget hwf fun target s₁ hloads => ?_
    cases target with
    | error r' => exact halts_pure
    | ok id =>
      have hfree : s₁.isActive r = false := by rw [isActive_of_loads hloads, hactive]
      refine .bind (.resolving hfree (h id s₁ hactive hloads)) fun tree s₂ _ => ?_
      cases tree <;> exact halts_pure

theorem halts_load (hwf : s.store.WF)
    (h : ∀ r id s₁, reference? s.options base node t = some r →
      r.treatment s.options = .inlineNonconforming → s.isActive r = false →
      Loads r t.current s (.ok id) s₁ →
      Halts (fun b => nested b id .load t.current) (s₁.enter r)) :
    Halts (fun b => load (nested b) base node t) s := by
  unfold load
  refine .get ?_
  cases href : reference? s.options base node t with
  | none =>
    simp only [href]
    exact halts_pure
  | some r =>
    simp only [href]
    cases htreat : r.treatment s.options with
    | error =>
      simp only
      exact halts_of_ends (ends_lose_bind.mpr (ends_pure.mpr ⟨rfl, rfl⟩))
    | inlineNonconforming =>
      simp only
      exact halts_splice hwf fun id s₁ => h r id s₁ href htreat
    | merge | inlineConforming | localize | retain =>
      simp only
      exact halts_pure

theorem halts_collect : Halts (fun _ => collect base node t) s := by
  unfold collect
  split
  · refine .get (.ofExcept fun entry _ => ?_)
    obtain ⟨e, registry⟩ := entry
    exact halts_of_ends (ends_setRegistry_bind.mpr (ends_pure.mpr ⟨rfl, rfl⟩))
  · exact halts_pure

theorem halts_localize (hwf : s.store.WF)
    (h : ∀ id s₁ g, s.isActive r = false → Loads r state s (.ok id) s₁ →
      Halts (fun b => rescan (nested b) id state) ((s₁.withRegistry g).enter r)) :
    Halts (fun b => localize (nested b) node r state) s := by
  unfold localize
  refine .get ?_
  split
  · exact halts_pure
  · exact halts_pure
  · refine .loadTarget hwf fun target s₁ hloads => ?_
    cases target with
    | error r' => exact halts_pure
    | ok id =>
      refine .get ?_
      simp only
      split
      · refine .get (.ofExcept fun entry _ => ?_)
        obtain ⟨e, registry⟩ := entry
        refine .after (ends_setRegistry.mpr ⟨rfl, rfl⟩) (.after ends_isResolving ?_)
        have hsame : (s₁.withRegistry registry).isActive r = s.isActive r :=
          isActive_of_loads hloads r
        cases hactive : (s₁.withRegistry registry).isActive r with
        | true => exact halts_pure
        | false =>
          simp only [Bool.false_eq_true, if_false]
          have hfree := hsame.symm.trans hactive
          refine .bind (.resolving hactive (h id s₁ registry hfree hloads)) fun tree s₂ _ => ?_
          cases tree with
          | some tree =>
            exact halts_of_ends (ends_refreshEntry_bind.mpr
              (ends_modify_bind.mpr (ends_pure.mpr ⟨rfl, rfl⟩)))
          | none => exact halts_of_ends (ends_modify_bind.mpr (ends_pure.mpr ⟨rfl, rfl⟩))
      · exact halts_pure

theorem halts_inline {conforming : Bool} (hwf : s.store.WF)
    (hlocal : s.isActive r = true → Halts (fun b => localize (nested b) node r state) s)
    (h : ∀ id s₁, s.isActive r = false → Loads r state s (.ok id) s₁ →
      Halts (fun b => rescan (nested b) id state) (s₁.enter r)) :
    Halts (fun b => inline (nested b) node r conforming state) s := by
  unfold inline
  refine .after ends_isResolving ?_
  cases hactive : s.isActive r with
  | true =>
    simp only [if_true]
    split
    · exact hlocal hactive
    · exact halts_of_ends (ends_lose_bind.mpr (ends_pure.mpr ⟨rfl, rfl⟩))
  | false =>
    simp only [Bool.false_eq_true, if_false]
    refine .loadTarget hwf fun target s₁ hloads => ?_
    cases target with
    | error r' => exact halts_pure
    | ok id =>
      have hfree : s₁.isActive r = false := by rw [isActive_of_loads hloads, hactive]
      refine .bind (.resolving hfree (h id s₁ hactive hloads)) fun tree s₂ _ => ?_
      cases tree with
      | none => exact halts_pure
      | some tree => exact halts_of_ends (ends_refreshEntry_bind.mpr (ends_pure.mpr ⟨rfl, rfl⟩))

theorem halts_mergeTarget (hwf : s.store.WF)
    (h : ∀ id s₁, s.isActive r = false → Loads r state s (.ok id) s₁ →
      Halts (fun b => rescan (nested b) id state) (s₁.enter r)) :
    Halts (fun b => mergeTarget (nested b) r state) s := by
  unfold mergeTarget
  refine .after ends_isResolving ?_
  cases hactive : s.isActive r with
  | true =>
    simp only [if_true]
    exact halts_of_ends (ends_lose_bind.mpr (ends_pure.mpr ⟨rfl, rfl⟩))
  | false =>
    simp only [Bool.false_eq_true, if_false]
    refine .loadTarget hwf fun target s₁ hloads => ?_
    cases target with
    | error r' => exact halts_pure
    | ok id =>
      have hfree : s₁.isActive r = false := by rw [isActive_of_loads hloads, hactive]
      exact .bind (.resolving hfree (h id s₁ hactive hloads)) fun tree s₂ _ => halts_pure

theorem halts_settle (hwf : s.store.WF)
    (h : ∀ r id s₁ g, reference? s.options base node t = some r → s.isActive r = false →
      Loads r t.current s (.ok id) s₁ →
      Halts (fun b => rescan (nested b) id t.current) ((s₁.withRegistry g).enter r)) :
    Halts (fun b => settle (nested b) base node t) s := by
  have completing {m : Nat → Scanning (Disposition Completion)} {completion : Option Completion}
      (hm : Halts m s) : Halts (fun b => do return (← m b).andThen completion) s :=
    .bind hm fun _ _ _ => halts_pure
  unfold settle
  refine .get ?_
  cases href : reference? s.options base node t with
  | none =>
    simp only [href]
    exact halts_pure
  | some r =>
    simp only [href]
    have hlocal : Halts (fun b => localize (nested b) node r t.current) s :=
      halts_localize hwf fun id s₁ g => h r id s₁ g href
    have hscan : ∀ id s₁, s.isActive r = false → Loads r t.current s (.ok id) s₁ →
        Halts (fun b => rescan (nested b) id t.current) (s₁.enter r) :=
      fun id s₁ => h r id s₁ s₁.registry href
    cases r.treatment s.options with
    | merge =>
      simp only
      unfold merge
      exact .bind (halts_mergeTarget hwf hscan) fun _ _ _ => halts_pure
    | error =>
      simp only
      exact halts_of_ends (ends_lose_bind.mpr (ends_pure.mpr ⟨rfl, rfl⟩))
    | retain =>
      simp only
      exact halts_pure
    | localize =>
      simp only
      exact completing hlocal
    | inlineConforming =>
      simp only
      exact completing (halts_inline hwf (fun _ => hlocal) hscan)
    | inlineNonconforming =>
      simp only
      exact completing (halts_inline hwf (fun _ => hlocal) hscan)

/-- Loading and settling halts if each of the two does. -/
theorem halts_rescan {id : ContentId} (load : Halts (fun b => nested b id .load state) s)
    (settle : ∀ y s₁, Comes (fun b => nested b id .load state) s (.ok y) s₁ →
      Halts (fun b => nested b id .settle state) s₁) :
    Halts (fun b => rescan (nested b) id state) s := by
  unfold rescan
  exact .bind load settle

/-- Completions halt. -/
theorem complete_comes {phase : Phase} (c : Completion) (x : Json) (t : Tracker Component)
    (s : Session) : ∃ out s', Bounded.Comes
      (fun b => (visitor (nested b) phase base).complete c x t) s out s' := by
  have key : Halts (fun _ => complete c x) s := by
    unfold complete
    cases c with
    | refresh origin => exact halts_of_ends (ends_refreshEntry_bind.mpr (ends_pure.mpr ⟨rfl, rfl⟩))
    | merge target origin plain =>
      cases origin with
      | none => exact halts_pure
      | some origin =>
        refine .get ?_
        simp only
        split
        · split
          · refine .get (.ofExcept fun registry _ => ?_)
            exact halts_of_ends (ends_setRegistry_bind.mpr (ends_pure.mpr ⟨rfl, rfl⟩))
          · exact halts_pure
        · exact halts_pure
  obtain ⟨result, s₁, b₀, h₀⟩ := key
  cases result with
  | ok y =>
    exact ⟨(y, none), s₁, b₀, fun b hb => Bounded.bind_eq_some.mpr ⟨.ok y, s₁, h₀ b hb, rfl⟩⟩
  | error e =>
    exact ⟨(x, some e), s₁, b₀, fun b hb =>
      Bounded.bind_eq_some.mpr ⟨.error e, s₁, h₀ b hb, rfl⟩⟩

/-- What a walk gives without a failure, the scan of its tree gives. -/
theorem scanFrom_comes {id : ContentId} {phase : Phase} {c : Content} {x y : Json}
    {s₁ s' : Session} (hc : s.store.content? id = some c) (hx : s.store.tree? id = some x)
    (hwalk : Walk.Comes scope (fun b => visitor (scanFrom b) phase c.reference) [] x
      (.start s.dialect.machine state) s (y, none) s₁)
    (hlast : if phase = .load then ∃ store, s₁.store.write id y = .ok store ∧ s' = s₁.withStore store
      else s' = s₁) : Comes (fun b => scanFrom b id phase state) s (.ok (some y)) s' := by
  have hwalked : Comes (fun b => walk (scanFrom b) phase c.reference b state x) s (.ok y) s₁ := by
    obtain ⟨b₀, h₀⟩ := hwalk
    refine ⟨b₀, fun b hb => ?_⟩
    unfold walk
    rw [ends_get_bind]
    have hrun : Ends (liftM (Walk.tree scope (visitor (scanFrom b) phase c.reference) b
        s.dialect.machine state x) : Scanning _) s (.ok (y, none)) s₁ :=
      ends_lift.mpr ⟨_, h₀ b b hb hb, rfl⟩
    exact (ends_bind_of hrun).mpr (ends_pure.mpr ⟨rfl, rfl⟩)
  refine Comes.succ ?_
  obtain ⟨b₀, h₀⟩ := hwalked
  refine ⟨b₀, fun b hb => ?_⟩
  unfold scanFrom
  rw [ends_get_bind]
  simp only [hc, hx]
  rw [ends_bind_of (h₀ b hb)]
  by_cases hphase : phase = .load
  · rw [if_pos hphase] at hlast ⊢
    obtain ⟨store, hstore, rfl⟩ := hlast
    have hwrite : Ends (writeTree id y) s₁ (.ok ()) (s₁.withStore store) :=
      ends_writeTree_ok.mpr ⟨store, hstore, rfl⟩
    exact (ends_bind_of hwrite).mpr (ends_pure.mpr ⟨rfl, rfl⟩)
  · rw [if_neg hphase] at hlast ⊢
    subst hlast
    exact ends_pure.mpr ⟨rfl, rfl⟩

/-- A scan halts if the walk of its tree does. -/
theorem halts_scanFrom {id : ContentId} {phase : Phase}
    (h : ∀ c tree, s.store.content? id = some c → s.store.tree? id = some tree →
      ∃ out s', Walk.Comes scope (fun b => visitor (scanFrom b) phase c.reference) [] tree
        (.start s.dialect.machine state) s out s') :
    Halts (fun b => scanFrom b id phase state) s := by
  suffices h : Halts (fun b => scanFrom (b + 1) id phase state) s by
    obtain ⟨r, s', hcomes⟩ := h
    exact ⟨r, s', hcomes.succ⟩
  unfold scanFrom
  refine .get ?_
  simp only
  split
  · next c tree hc htree =>
    obtain ⟨⟨y, e⟩, s₁, b₀, hwalk⟩ := h c tree hc htree
    refine .bind ?_ fun y s₁ _ => ?_
    · unfold walk
      refine .get (.bind ⟨.ok (y, e), s₁, b₀, fun b hb => ?_⟩ fun out s₂ _ => ?_)
      · exact ends_lift.mpr ⟨_, hwalk b b hb hb, rfl⟩
      · obtain ⟨y, e⟩ := out
        cases e with
        | none => exact halts_pure
        | some e => exact halts_of_ends (ends_throw.mpr ⟨rfl, rfl⟩)
    · split
      · refine .bind ?_ fun _ s₂ _ => halts_pure
        unfold writeTree
        exact .get (.ofExcept fun store _ => halts_of_ends (ends_modify.mpr ⟨rfl, rfl⟩))
      · exact halts_pure
  · exact halts_pure

end Scan

end ApiBundle
