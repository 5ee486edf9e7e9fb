import ApiBundle.Bundle

/-!
# Ends of steps

A step of a run takes a state to a result and a state, or has no result within its bound.
`Scanning.Ends` names the first case. A step made of steps ends exactly when its parts do, one after
the other, up to the first failure; the equivalences below take such steps apart and put them
together.
-/

namespace ApiBundle

theorem ok_of_toOption {ε α : Type} {x : Except ε α} {a : α} (h : x.toOption = some a) :
    x = .ok a := by
  cases x with
  | ok b => exact congrArg _ (Option.some.inj h)
  | error e => cases h

/-- A step ends from a state with a result and a state. -/
def Scanning.Ends {α : Type} (m : Scanning α) (s : Session) (r : Except BundleError α)
    (s' : Session) : Prop :=
  m.run s = some (r, s')

namespace Scanning

variable {α β : Type} {s s' : Session} {r : Except BundleError α}

@[simp] theorem ends_pure {a : α} : Ends (pure a) s r s' ↔ r = .ok a ∧ s' = s := by
  constructor
  · intro h
    cases h
    exact ⟨rfl, rfl⟩
  · rintro ⟨rfl, rfl⟩
    rfl

@[simp] theorem ends_throw {e : BundleError} :
    Ends (throw e : Scanning α) s r s' ↔ r = .error e ∧ s' = s := by
  constructor
  · intro h
    cases h
    exact ⟨rfl, rfl⟩
  · rintro ⟨rfl, rfl⟩
    rfl

/-- Two steps in a row: the first one fails, or the second one takes over. -/
theorem ends_bind {m : Scanning α} {f : α → Scanning β} {r : Except BundleError β} :
    Ends (m >>= f) s r s' ↔
      (∃ e, Ends m s (.error e) s' ∧ r = .error e) ∨
        ∃ a s₁, Ends m s (.ok a) s₁ ∧ Ends (f a) s₁ r s' := by
  have key : (m >>= f).run s = (m.run s).bind fun p =>
      match p.1 with
      | .ok a => (f a).run p.2
      | .error e => some (.error e, p.2) := by
    show ((m.run s).bind fun p => ExceptT.bindCont f p.1 p.2) = _
    cases hm : m.run s with
    | none => rfl
    | some p =>
      obtain ⟨result, s₁⟩ := p
      cases result <;> rfl
  unfold Ends
  rw [key]
  constructor
  · intro h
    cases hm : m.run s with
    | none => rw [hm] at h; cases h
    | some p =>
      obtain ⟨result, s₁⟩ := p
      rw [hm] at h
      cases result with
      | error e =>
        cases h
        exact .inl ⟨e, rfl, rfl⟩
      | ok a => exact .inr ⟨a, s₁, rfl, h⟩
  · rintro (⟨e, hm, rfl⟩ | ⟨a, s₁, hm, hf⟩)
    · rw [hm]; rfl
    · rw [hm]; exact hf

@[simp] theorem ends_get {r : Except BundleError Session} :
    Ends (get : Scanning Session) s r s' ↔ r = .ok s ∧ s' = s := by
  constructor
  · intro h
    cases h
    exact ⟨rfl, rfl⟩
  · rintro ⟨rfl, rfl⟩
    rfl

@[simp] theorem ends_set {s₁ : Session} {r : Except BundleError PUnit} :
    Ends (set s₁ : Scanning PUnit) s r s' ↔ r = .ok ⟨⟩ ∧ s' = s₁ := by
  constructor
  · intro h
    cases h
    exact ⟨rfl, rfl⟩
  · rintro ⟨rfl, rfl⟩
    rfl

@[simp] theorem ends_modify {f : Session → Session} {r : Except BundleError PUnit} :
    Ends (modify f : Scanning PUnit) s r s' ↔ r = .ok ⟨⟩ ∧ s' = f s := by
  constructor
  · intro h
    cases h
    exact ⟨rfl, rfl⟩
  · rintro ⟨rfl, rfl⟩
    rfl

@[simp] theorem ends_ofExcept {x : Except BundleError α} :
    Ends (MonadExcept.ofExcept x : Scanning α) s r s' ↔ r = x ∧ s' = s := by
  cases x <;> simp [MonadExcept.ofExcept]

/-- A step that cannot fail, among steps that can. -/
@[simp] theorem ends_lift {m : Bounded Session α} :
    Ends (liftM m : Scanning α) s r s' ↔ ∃ a, m s = some (a, s') ∧ r = .ok a := by
  have key : (liftM m : Scanning α).run s = (m s).map fun p => (.ok p.1, p.2) := by
    show ((m s).bind fun p => some (Except.ok p.1, p.2)) = _
    cases hm : m s <;> rfl
  unfold Ends
  rw [key]
  cases hm : m s with
  | none => simp
  | some p =>
    obtain ⟨a, s₁⟩ := p
    simp only [Option.map_some, Option.some.injEq, Prod.mk.injEq]
    constructor
    · rintro ⟨rfl, rfl⟩
      exact ⟨a, ⟨rfl, rfl⟩, rfl⟩
    · rintro ⟨b, ⟨rfl, rfl⟩, rfl⟩
      exact ⟨rfl, rfl⟩

/-- A step ends in one way only. -/
theorem Ends.unique {m : Scanning α} {r₁ r₂ : Except BundleError α} {s₁ s₂ : Session}
    (h₁ : Ends m s r₁ s₁) (h₂ : Ends m s r₂ s₂) : r₁ = r₂ ∧ s₁ = s₂ := by
  have h := h₁.symm.trans h₂
  simpa using h

/-- Two steps in a row where it is known how the first one ends. -/
theorem ends_bind_of {m : Scanning α} {f : α → Scanning β} {r : Except BundleError β} {a : α}
    {s₁ : Session} (h : Ends m s (.ok a) s₁) : Ends (m >>= f) s r s' ↔ Ends (f a) s₁ r s' := by
  rw [ends_bind]
  constructor
  · rintro (⟨e, he, -⟩ | ⟨a', s₁', hm, hf⟩)
    · cases (h.unique he).1
    · obtain ⟨ha, rfl⟩ := h.unique hm
      cases ha
      exact hf
  · exact fun hf => .inr ⟨a, s₁, h, hf⟩

@[simp] theorem ends_get_bind {f : Session → Scanning α} :
    Ends (get >>= f) s r s' ↔ Ends (f s) s r s' :=
  ends_bind_of (ends_get.mpr ⟨rfl, rfl⟩)

@[simp] theorem ends_set_bind {s₁ : Session} {f : PUnit → Scanning α} :
    Ends (set s₁ >>= f) s r s' ↔ Ends (f ⟨⟩) s₁ r s' :=
  ends_bind_of (ends_set.mpr ⟨rfl, rfl⟩)

@[simp] theorem ends_modify_bind {g : Session → Session} {f : PUnit → Scanning α} :
    Ends (modify g >>= f) s r s' ↔ Ends (f ⟨⟩) (g s) r s' :=
  ends_bind_of (ends_modify.mpr ⟨rfl, rfl⟩)

/-! ## Steps that do not fail -/

theorem ends_bind_ok {m : Scanning α} {f : α → Scanning β} {b : β} :
    Ends (m >>= f) s (.ok b) s' ↔ ∃ a s₁, Ends m s (.ok a) s₁ ∧ Ends (f a) s₁ (.ok b) s' := by
  rw [ends_bind]
  exact ⟨fun h => h.resolve_left (fun ⟨_, _, he⟩ => nomatch he), .inr⟩

theorem ends_discard_ok {m : Scanning α} :
    Ends (discard m) s (.ok ⟨⟩) s' ↔ ∃ a, Ends m s (.ok a) s' := by
  rw [Functor.discard, LawfulFunctor.map_const, Function.comp_apply, map_eq_pure_bind, ends_bind_ok]
  constructor
  · rintro ⟨a, s₁, hm, hlast⟩
    obtain ⟨-, rfl⟩ := ends_pure.mp hlast
    exact ⟨a, hm⟩
  · rintro ⟨a, hm⟩
    exact ⟨a, s', hm, ends_pure.mpr ⟨rfl, rfl⟩⟩

theorem ends_forM_nil {f : α → Scanning PUnit} {r : Except BundleError PUnit} :
    Ends ([].forM f) s r s' ↔ r = .ok ⟨⟩ ∧ s' = s := by
  rw [List.forM_eq_forM, List.forM_nil, ends_pure]

theorem ends_forM_cons {f : α → Scanning PUnit} {a : α} {as : List α} :
    Ends ((a :: as).forM f) s (.ok ⟨⟩) s' ↔
      ∃ s₁, Ends (f a) s (.ok ⟨⟩) s₁ ∧ Ends (as.forM f) s₁ (.ok ⟨⟩) s' := by
  rw [List.forM_eq_forM, List.forM_cons, ends_bind_ok]
  exact ⟨fun ⟨_, s₁, h⟩ => ⟨s₁, h⟩, fun ⟨s₁, h⟩ => ⟨⟨⟩, s₁, h⟩⟩

theorem ends_mapM_cons {f : α → Scanning β} {a : α} {as : List α} {bs : List β} :
    Ends ((a :: as).mapM f) s (.ok bs) s' ↔ ∃ b s₁ rest, Ends (f a) s (.ok b) s₁ ∧
      Ends (as.mapM f) s₁ (.ok rest) s' ∧ bs = b :: rest := by
  rw [List.mapM_cons, ends_bind_ok]
  constructor
  · rintro ⟨b, s₁, hf, hrest⟩
    obtain ⟨rest, s₂, hmap, hlast⟩ := ends_bind_ok.mp hrest
    obtain ⟨heq, rfl⟩ := ends_pure.mp hlast
    exact ⟨b, s₁, rest, hf, hmap, Except.ok.inj heq⟩
  · rintro ⟨b, s₁, rest, hf, hmap, rfl⟩
    exact ⟨b, s₁, hf, ends_bind_ok.mpr ⟨rest, s', hmap, ends_pure.mpr ⟨rfl, rfl⟩⟩⟩

end Scanning

end ApiBundle
