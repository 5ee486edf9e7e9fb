import ApiBundle.Uri.Basic

/-!
# URLs of whole documents

Taking the fragment off a URL once is enough.
-/

namespace ApiBundle.Uri

theorem dropTrailingBlanks_dropTrailingBlanks (cs : List Char) :
    dropTrailingBlanks (dropTrailingBlanks cs) = dropTrailingBlanks cs := by
  unfold dropTrailingBlanks
  rw [List.reverse_reverse]
  congr 1
  induction cs.reverse with
  | nil => rfl
  | cons c rest ih =>
    by_cases hc : c = ' '
    · simpa [hc] using ih
    · simp [hc]

/-- A URL without a fragment, and without blanks that would be lost, is that of a whole document. -/
theorem withoutFragment_eq_self {u : Uri} (hfragment : u.fragment = none)
    (hpath : u.isOpaque = true → u.query = none →
      String.ofList (dropTrailingBlanks u.path.toList) = u.path) : u.withoutFragment = u := by
  unfold withoutFragment
  split
  · next h =>
    simp only [Bool.and_eq_true, Option.isNone_iff_eq_none] at h
    rw [hpath h.1 h.2, ← hfragment]
  · rw [← hfragment]

theorem withoutFragment_withoutFragment (u : Uri) :
    u.withoutFragment.withoutFragment = u.withoutFragment := by
  refine withoutFragment_eq_self rfl fun hopaque hquery => ?_
  have hquery : u.query = none := hquery
  cases hu : u.isOpaque with
  | true => simp [withoutFragment, hu, hquery, dropTrailingBlanks_dropTrailingBlanks]
  | false =>
    have hsame : u.withoutFragment = { u with fragment := none } := by
      simp [withoutFragment, hu]
    rw [hsame] at hopaque
    exact absurd (hu.symm.trans hopaque) (by simp)

end ApiBundle.Uri
