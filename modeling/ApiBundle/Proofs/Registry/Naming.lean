import ApiBundle.Proofs.Text.Percent
import ApiBundle.Registry
import Mathlib.Data.List.Nodup
import Mathlib.Data.List.Perm.Subperm

/-!
# Free names

The candidates for a name are pairwise different, so among the first `n + 1` of them there is one
that is not among `n` taken names. `Registry.freeName` gives the first such candidate
(`Registry.freeName_spec`): the bound on its search is never what ends it. A taken name may itself
look like a candidate with a number behind it; nothing here depends on where taken names come from.

Names for containers are made of name characters only (`IsName`), so they need no escape in a
reference.
-/

namespace ApiBundle

namespace Registry

variable {taken : List String} {preferred : String}

/-- Different numbers give different candidates. -/
theorem candidate_injective (preferred : String) : Function.Injective (candidate preferred) := by
  intro i j h
  have hlist := congrArg String.toList h
  cases i with
  | zero =>
    cases j with
    | zero => rfl
    | succ j => simp [candidate, String.toList_append] at hlist
  | succ i =>
    cases j with
    | zero => simp [candidate, String.toList_append] at hlist
    | succ j =>
      simp only [candidate, String.toList_append] at hlist
      have hdigits := List.append_cancel_left hlist
      have hnumber := congrArg (fun ds => Nat.ofDigitChars 10 ds 0) hdigits
      simpa [Nat.toString_eq_ofList_toDigits] using hnumber

/-- The search ends at the first free candidate, or with its fuel. -/
theorem freeFrom_spec (taken : List String) (preferred : String) (n fuel : Nat) :
    ∃ k, freeFrom taken preferred n fuel = candidate preferred k ∧ n ≤ k ∧ k ≤ n + fuel ∧
      (∀ j, n ≤ j → j < k → candidate preferred j ∈ taken) ∧
      (k < n + fuel → candidate preferred k ∉ taken) := by
  induction fuel generalizing n with
  | zero => exact ⟨n, rfl, by omega, by omega, fun j _ _ => by omega, fun _ => by omega⟩
  | succ fuel ih =>
    unfold freeFrom
    by_cases h : candidate preferred n ∈ taken
    · obtain ⟨k, heq, hle, hbound, htaken, hfree⟩ := ih (n + 1)
      refine ⟨k, by simpa [h] using heq, by omega, by omega, fun j hj hjk => ?_, fun hk => ?_⟩
      · by_cases hjn : j = n
        · exact hjn ▸ h
        · exact htaken j (by omega) hjk
      · exact hfree (by omega)
    · exact ⟨n, by simp [h], by omega, by omega, fun j _ _ => by omega, fun _ => h⟩

/-- Not all of more candidates than there are taken names are taken. -/
theorem le_length_of_taken {k : Nat} (htaken : ∀ j < k, candidate preferred j ∈ taken) :
    k ≤ taken.length := by
  have hnodup : ((List.range k).map (candidate preferred)).Nodup :=
    List.nodup_range.map (candidate_injective preferred)
  have hsub : (List.range k).map (candidate preferred) ⊆ taken := by
    intro name hname
    obtain ⟨j, hj, rfl⟩ := List.mem_map.mp hname
    exact htaken j (List.mem_range.mp hj)
  have hlen := (List.subperm_of_subset hnodup hsub).length_le
  rwa [List.length_map, List.length_range] at hlen

/-- The free name is the first candidate that is not taken. -/
theorem freeName_spec (taken : List String) (preferred : String) :
    ∃ k, freeName taken preferred = candidate preferred k ∧ candidate preferred k ∉ taken ∧
      ∀ j < k, candidate preferred j ∈ taken := by
  obtain ⟨k, heq, -, hbound, htaken, hfree⟩ := freeFrom_spec taken preferred 0 taken.length
  have hbelow : ∀ j < k, candidate preferred j ∈ taken := fun j hj => htaken j (by omega) hj
  refine ⟨k, heq, fun hk => ?_, hbelow⟩
  by_cases hlt : k < 0 + taken.length
  · exact hfree hlt hk
  · have hall : ∀ j < k + 1, candidate preferred j ∈ taken := by
      intro j hj
      by_cases hjk : j = k
      · exact hjk ▸ hk
      · exact hbelow j (by omega)
    have := le_length_of_taken hall
    omega

theorem freeName_not_mem (taken : List String) (preferred : String) :
    freeName taken preferred ∉ taken := by
  obtain ⟨k, heq, hfree, -⟩ := freeName_spec taken preferred
  rwa [heq]

/-- A preferred name that is not taken is given. -/
theorem freeName_eq_preferred (h : preferred ∉ taken) : freeName taken preferred = preferred := by
  obtain ⟨k, heq, -, hbelow⟩ := freeName_spec taken preferred
  cases k with
  | zero => exact heq
  | succ k => exact absurd (hbelow 0 (by omega)) h

end Registry

/-! ## Characters -/

/-- A text of name characters. -/
def IsName (text : String) : Prop := ∀ c ∈ text.toList, isNameChar c

instance (text : String) : Decidable (IsName text) :=
  decidable_of_iff (text.toList.all isNameChar = true) List.all_eq_true

theorem isPlain_of_isNameChar {c : Char} (h : isNameChar c) : Percent.IsPlain c := by
  delta isNameChar Char.isAlphanum Char.isAlpha Char.isUpper Char.isLower Char.isDigit at h
  simp only [UInt32.le_iff_toNat_le, Bool.or_eq_true, Bool.and_eq_true, decide_eq_true_eq] at h
  refine ⟨?_, ?_⟩
  · rcases h with ((((h | h) | h) | h) | h) | h
    all_goals first | (subst h; decide) | (simp at h; omega)
  · rintro rfl
    revert h
    decide

theorem isName_append {a b : String} (ha : IsName a) (hb : IsName b) : IsName (a ++ b) := by
  intro c hc
  rw [String.toList_append, List.mem_append] at hc
  exact hc.elim (ha c) (hb c)

theorem isName_fixName (text : String) : IsName (fixName text) := by
  intro c hc
  unfold fixName at hc
  rw [String.toList_ofList] at hc
  obtain ⟨x, -, rfl⟩ := List.mem_map.mp hc
  split
  · assumption
  · decide

theorem fixName_eq {text : String} (h : IsName text) : fixName text = text := by
  apply String.toList_inj.mp
  unfold fixName
  rw [String.toList_ofList]
  conv_rhs => rw [← List.map_id text.toList]
  exact List.map_congr_left fun c hc => if_pos (h c hc)

theorem isName_toString (n : Nat) : IsName (toString n) := by
  intro c hc
  rw [Nat.toString_eq_ofList_toDigits, String.toList_ofList] at hc
  have hdigit := Nat.isDigit_of_mem_toDigits (by omega) (by omega) hc
  simp [isNameChar, Char.isAlphanum, hdigit]

theorem isName_candidate {preferred : String} (h : IsName preferred) (k : Nat) :
    IsName (Registry.candidate preferred k) := by
  cases k with
  | zero => exact h
  | succ k => exact isName_append (isName_append h (by decide)) (isName_toString _)

/-- Numbers behind a name do not make it the one under which the text of a reference stands. -/
theorem candidate_ne_refKey {preferred : String} (h : preferred ≠ refKey) (k : Nat) :
    Registry.candidate preferred k ≠ refKey := by
  intro heq
  cases k with
  | zero => exact h heq
  | succ k =>
    have hmem : '_' ∈ refKey.toList := by
      rw [← heq]
      simp [Registry.candidate, String.toList_append]
    revert hmem
    decide

namespace Component

theorem isName_name (c : Component) : IsName c.name := by
  have h : ∀ kind : Kind, IsName kind.name := by
    intro kind
    cases kind <;> decide
  exact h c.kind

theorem isName_fileName (c : Component) (location : Option Uri) : IsName (c.fileName location) := by
  unfold fileName
  split
  · exact isName_append (isName_append (isName_fixName _) (by decide)) c.isName_name
  · exact c.isName_name

/-- Where content is named after its container, the name is made of name characters. -/
theorem isName_preferredName {c : Component} {containers : List String}
    (h : c.info.naming = .container containers) (place : Pointer) (location : Option Uri) :
    IsName (c.preferredName place location) := by
  unfold preferredName
  rw [h]
  simp only
  split
  · exact isName_fixName _
  · exact c.isName_fileName location

/-- Only content that is named after its place may want a name that is not made so. -/
theorem preferredName_ne_refKey {c : Component} (h : c.info.naming ≠ .pathKey) (place : Pointer)
    (location : Option Uri) : c.preferredName place location ≠ refKey := by
  have hname : IsName (c.preferredName place location) := by
    cases hnaming : c.info.naming with
    | none =>
      unfold preferredName
      rw [hnaming]
      exact c.isName_name
    | pathKey => exact absurd hnaming h
    | container containers => exact isName_preferredName hnaming place location
  intro heq
  rw [heq] at hname
  revert hname
  decide

end Component

end ApiBundle
