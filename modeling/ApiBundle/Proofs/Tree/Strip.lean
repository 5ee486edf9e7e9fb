import ApiBundle.Proofs.OrderedMap
import ApiBundle.Proofs.Tree.Insert
import ApiBundle.RefNode

/-!
# Trees without adornments

Taking the adornments off changes nothing about where paths lead, except that the adornments of
reference nodes are gone. Whether a node is a reference node stays as it is.
-/

namespace ApiBundle

namespace Json

theorem find?_stripMembers (ms : List (String × Json)) (k : String) :
    OrderedMap.find? (stripMembers ms) k = (OrderedMap.find? ms k).map stripAdornments := by
  induction ms with
  | nil => simp [stripMembers, OrderedMap.find?]
  | cons m ms ih =>
    obtain ⟨l, x⟩ := m
    by_cases h : l = k <;> simp [stripMembers, OrderedMap.find?, h, ih]

theorem getElem?_stripItems (xs : List Json) (i : Nat) :
    (stripItems xs)[i]? = xs[i]?.map stripAdornments := by
  induction xs generalizing i with
  | nil => simp [stripItems]
  | cons x xs ih => cases i <;> simp [stripItems, ih]

theorem step?_stripAdornments (x : Json) (step : Segment) :
    x.stripAdornments.step? step =
      if x.isRefNode = true ∧ step = .key adornmentKey then none
      else (x.step? step).map stripAdornments := by
  cases x with
  | object ms =>
    rw [stripAdornments]
    cases step with
    | key k =>
      have heq : Segment.key k = .key adornmentKey ↔ adornmentKey = k :=
        ⟨fun h => (Segment.key.inj h).symm, fun h => congrArg _ h.symm⟩
      simp only [step?, heq]
      cases isRefNode (.object ms) with
      | true => simp [OrderedMap.find?_remove, find?_stripMembers]
      | false => simp [find?_stripMembers]
    | index i => simp [step?]
  | array xs =>
    rw [stripAdornments]
    cases step with
    | key k => simp [step?]
    | index i => simp [step?, isRefNode, refText?, member?, getElem?_stripItems]
  | null | bool | number | string => cases step <;> simp [stripAdornments, step?]

/-- A path that has no adornments on it leads to what it led to, without adornments. -/
theorem follow?_stripAdornments {x : Json} {path : List Segment}
    (h : .key adornmentKey ∉ path) :
    x.stripAdornments.follow? path = (x.follow? path).map stripAdornments := by
  induction path generalizing x with
  | nil => rfl
  | cons step path ih =>
    have hne : step ≠ .key adornmentKey := fun heq => h (heq ▸ List.mem_cons_self ..)
    show (x.stripAdornments.step? step).bind _ = ((x.step? step).bind _).map _
    rw [step?_stripAdornments, if_neg fun hstep => hne hstep.2]
    cases x.step? step with
    | none => rfl
    | some y => exact ih fun hpath => h (List.mem_cons_of_mem _ hpath)

theorem refText?_stripAdornments (x : Json) : x.stripAdornments.refText? = x.refText? := by
  have hmember : ∀ y : Json, y.member? refKey = y.step? (.key refKey) := by
    intro y
    cases y <;> rfl
  unfold refText?
  rw [hmember, hmember, step?_stripAdornments, if_neg fun hkey => absurd hkey.2 (by decide)]
  cases x.step? (.key refKey) with
  | none => rfl
  | some y => cases y <;> simp [stripAdornments, string?]

end Json

end ApiBundle
