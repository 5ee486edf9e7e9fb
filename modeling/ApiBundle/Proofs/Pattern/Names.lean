import ApiBundle.Machine.Label
import ApiBundle.Proofs.Pattern.Spans
import ApiBundle.Proofs.Registry.Naming

/-!
# The names of definitions

The members of a container that are definitions are told by their names, with one pattern in every
dialect. It allows the names of name characters that are not empty and do not start with `x-`
(`Label.allows_definitionPattern`).
-/

namespace ApiBundle

open Pattern

/-- The start of the names of vendor extensions. -/
def extensionMark : List Char := ['x', '-']

/-- A name of a definition, which is not empty and none of a vendor extension. -/
def IsDefinitionName (name : String) : Prop :=
  IsName name ∧ name ≠ "" ∧ ¬extensionMark <+: name.toList

theorem extensionMark_prefix_iff {cs : List Char} :
    extensionMark <+: cs ↔ ∃ ds, cs = 'x' :: '-' :: ds := by
  constructor
  · rintro ⟨ds, rfl⟩
    exact ⟨ds, rfl⟩
  · rintro ⟨ds, rfl⟩
    exact ⟨ds, rfl⟩

instance (name : String) : Decidable (IsDefinitionName name) :=
  inferInstanceAs (Decidable (_ ∧ _ ∧ _))

/-! ## The pattern of names -/

namespace CharSet

def names : CharSet := ⟨[(45, 46), (48, 57), (65, 90), (95, 95), (97, 122)]⟩

theorem exists_of_contains {ranges : Ranges} {n : Nat} (h : ranges.contains n = true) :
    ∃ range ∈ ranges, n ≤ range.2 := by
  induction ranges with
  | nil => cases h
  | cons range rest ih =>
    unfold Ranges.contains at h
    split at h
    · cases h
    · split at h
      · exact ⟨range, List.mem_cons_self .., by assumption⟩
      · obtain ⟨range', hmem, hle⟩ := ih h
        exact ⟨range', List.mem_cons_of_mem _ hmem, hle⟩

/-- A set of name characters is known by its code points in ASCII. -/
theorem mem_eq {s : CharSet} {f : Char → Bool} (hascii : s.ranges.all (·.2 < 128) = true)
    (hf : ∀ c, f c = true → isNameChar c = true)
    (h : ∀ n < 128, s.ranges.contains n = f (Char.ofNat n)) (c : Char) : s.mem c = f c := by
  by_cases hc : c.toNat < 128
  · exact (h c.toNat hc).trans (by rw [Char.ofNat_toNat])
  · have hout : s.mem c = false := by
      refine Bool.eq_false_iff.mpr fun hmem => hc ?_
      obtain ⟨range, hrange, hle⟩ := exists_of_contains hmem
      have hlt : range.2 < 128 := by simpa using List.all_eq_true.mp hascii range hrange
      omega
    have hnone : f c = false :=
      Bool.eq_false_iff.mpr fun hfc => hc (isPlain_of_isNameChar (hf c hfc)).1
    rw [hout, hnone]

theorem mem_names (c : Char) : names.mem c = isNameChar c :=
  mem_eq (by decide) (fun _ h => h) (by decide) c

theorem mem_names_without_x (c : Char) :
    (names.without (.one 'x')).mem c = (isNameChar c && c != 'x') :=
  mem_eq (f := fun c => isNameChar c && c != 'x') (by decide)
    (fun _ h => (Bool.and_eq_true_iff.mp h).1) (by decide) c

theorem mem_names_without_hyphen (c : Char) :
    (names.without (.one '-')).mem c = (isNameChar c && c != '-') :=
  mem_eq (f := fun c => isNameChar c && c != '-') (by decide)
    (fun _ h => (Bool.and_eq_true_iff.mp h).1) (by decide) c

theorem mem_x (c : Char) : (one 'x').mem c = (c == 'x') :=
  mem_eq (f := fun c => c == 'x') (by decide) (fun _ h => eq_of_beq h ▸ by decide)
    (by decide) c

end CharSet

/-- The names of definitions: those that do not start with an `x`, that letter, and those that go
on behind it without a hyphen. -/
def definitionPattern : Pattern :=
  let rest := repeated (char .names) 0 none
  alt (seq (char (CharSet.names.without (.one 'x'))) rest)
    (alt (char (.one 'x'))
      (seq (char (.one 'x')) (seq (char (CharSet.names.without (.one '-'))) rest)))

theorem spans_definitionPattern {cs : List Char} : Spans definitionPattern none cs none ↔
    (∀ c ∈ cs, isNameChar c) ∧ cs ≠ [] ∧ ¬extensionMark <+: cs := by
  unfold definitionPattern
  simp only [spans_alt, spans_char_seq, spans_char, spans_repeated_char, CharSet.mem_names,
    CharSet.mem_names_without_x, CharSet.mem_names_without_hyphen, CharSet.mem_x,
    extensionMark_prefix_iff, Bool.and_eq_true, bne_iff_ne, beq_iff_eq]
  have hx : isNameChar 'x' = true := by decide
  constructor
  · rintro (⟨c, ds, rfl, hc, hds⟩ | ⟨c, rfl, rfl⟩ | ⟨c, _, rfl, rfl, c', ds, rfl, hc', hds⟩)
    · refine ⟨List.forall_mem_cons.mpr ⟨hc.1, hds⟩, nofun, ?_⟩
      rintro ⟨ds', heq⟩
      exact hc.2 (List.cons.inj heq).1
    · simp [hx]
    · refine ⟨List.forall_mem_cons.mpr ⟨hx, List.forall_mem_cons.mpr ⟨hc'.1, hds⟩⟩, nofun, ?_⟩
      rintro ⟨ds', heq⟩
      exact hc'.2 (List.cons.inj (List.cons.inj heq).2).1
  · rintro ⟨hnames, hne, hmark⟩
    match cs with
    | [] => exact absurd rfl hne
    | c :: cs =>
      obtain ⟨hc, hcs⟩ := List.forall_mem_cons.mp hnames
      by_cases hcx : c = 'x'
      · subst hcx
        match cs with
        | [] => exact .inr (.inl ⟨_, rfl, rfl⟩)
        | c' :: ds =>
          obtain ⟨hc', hds⟩ := List.forall_mem_cons.mp hcs
          have hhyphen : c' ≠ '-' := by
            rintro rfl
            exact hmark ⟨ds, rfl⟩
          exact .inr (.inr ⟨_, _, rfl, rfl, c', ds, rfl, ⟨hc', hhyphen⟩, hds⟩)
      · exact .inl ⟨c, cs, rfl, ⟨hc, hcx⟩, hcs⟩

theorem Label.allows_definitionPattern {name : String} :
    (Label.pattern definitionPattern.anchored).allows name = true ↔ IsDefinitionName name := by
  have hpattern : (Label.pattern definitionPattern.anchored).allows name = true ↔
      Spans definitionPattern none name.toList none :=
    ⟨spans_of_occursIn_anchored, occursIn_anchored (by decide)⟩
  rw [hpattern, spans_definitionPattern]
  simp [IsDefinitionName, IsName]

end ApiBundle
