import ApiBundle.Pattern.Basic

/-!
# What a pattern spans

A relation between patterns and the texts that they match, each text between the character before it
and the one after it. The least counts of repetitions are left out: a repeated pattern spans any
number of rounds up to its greatest count. So the relation says more than the matcher accepts, and
is enough to know of which characters an accepted text is made (`Spans.exists_mem_sets`). Of a
pattern without least counts (`mayStop`) the matcher accepts exactly what the pattern spans
(`acceptsFrom_of_spans`), and finds it wherever it stands in a text (`occursIn_iff`).
-/

namespace ApiBundle.Pattern

/-- What a pattern spans between two characters, or an end of the text. -/
inductive Spans : Pattern → Option Char → List Char → Option Char → Prop where
  | nothing {before after : Option Char} : Spans nothing before [] after
  | boundary {b : Boundary} {before after : Option Char} (holds : b.holds before after = true) :
    Spans (boundary b) before [] after
  | char {s : CharSet} {c : Char} {before after : Option Char} (mem : s.mem c = true) :
    Spans (char s) before [c] after
  | seq {p q : Pattern} {before after : Option Char} {cs ds : List Char}
      (first : Spans p before cs (ds.head?.or after))
      (second : Spans q (cs.getLast?.or before) ds after) : Spans (seq p q) before (cs ++ ds) after
  | left {p q : Pattern} {before after : Option Char} {cs : List Char}
      (one : Spans p before cs after) : Spans (alt p q) before cs after
  | right {p q : Pattern} {before after : Option Char} {cs : List Char}
      (other : Spans q before cs after) : Spans (alt p q) before cs after
  | stop {p : Pattern} {low : Nat} {high : Option Nat} {before after : Option Char} :
    Spans (repeated p low high) before [] after
  | more {p : Pattern} {low low' : Nat} {high : Option Nat} {before after : Option Char}
      {cs ds : List Char} (allowed : high ≠ some 0) (first : Spans p before cs (ds.head?.or after))
      (rest : Spans (repeated p low' (high.map (· - 1))) (cs.getLast?.or before) ds after) :
    Spans (repeated p low high) before (cs ++ ds) after

variable {p q : Pattern} {before after : Option Char} {c : Char} {cs ds : List Char}

/-- What stands before the rest of a text that starts with a character. -/
theorem getLast?_cons_or (c : Char) (cs : List Char) (before : Option Char) :
    (c :: cs).getLast?.or before = cs.getLast?.or (some c) := by
  cases cs with
  | nil => rfl
  | cons d ds => simp [List.getLast?_cons]

/-- A first part that spans nothing. -/
theorem Spans.seq_nil (first : Spans p before [] (cs.head?.or after))
    (second : Spans q before cs after) : Spans (Pattern.seq p q) before cs after := by
  have h : Spans (Pattern.seq p q) before ([] ++ cs) after := .seq first second
  exact h

/-- A second part that spans nothing. -/
theorem Spans.nil_seq (first : Spans p before cs after)
    (second : Spans q (cs.getLast?.or before) [] after) :
    Spans (Pattern.seq p q) before cs after := by
  have h : Spans (Pattern.seq p q) before (cs ++ []) after := .seq first second
  rwa [List.append_nil] at h

/-- A first part that starts with a character. -/
theorem Spans.seq_cons (first : Spans p before (c :: cs) (ds.head?.or after))
    (second : Spans q (cs.getLast?.or (some c)) ds after) :
    Spans (Pattern.seq p q) before (c :: (cs ++ ds)) after := by
  rw [← getLast?_cons_or c cs before] at second
  exact .seq first second

/-- A round that starts with a character. -/
theorem Spans.more_cons {low low' : Nat} {high : Option Nat} (allowed : high ≠ some 0)
    (first : Spans p before (c :: cs) (ds.head?.or after))
    (rest : Spans (repeated p low' (high.map (· - 1))) (cs.getLast?.or (some c)) ds after) :
    Spans (repeated p low high) before (c :: (cs ++ ds)) after := by
  rw [← getLast?_cons_or c cs before] at rest
  exact .more allowed first rest

theorem spans_of_nullable (h : nullable before after p = true) : Spans p before [] after := by
  induction p with
  | never => cases h
  | nothing => exact .nothing
  | boundary b => exact .boundary h
  | char s => cases h
  | seq p q ihp ihq =>
    simp only [nullable, Bool.and_eq_true] at h
    exact .seq_nil (ihp h.1) (ihq h.2)
  | alt p q ihp ihq =>
    simp only [nullable, Bool.or_eq_true] at h
    rcases h with hp | hq
    · exact .left (ihp hp)
    · exact .right (ihq hq)
  | repeated p low high => exact .stop

/-- Taking needless parts out adds no texts. -/
theorem spans_of_andThen (h : Spans (andThen p q) before cs after) :
    Spans (seq p q) before cs after := by
  unfold andThen at h
  split at h
  · cases h
  · cases h
  · exact .seq_nil .nothing h
  · exact .nil_seq h .nothing
  · exact h

theorem spans_of_orElse (h : Spans (orElse p q) before cs after) :
    Spans p before cs after ∨ Spans q before cs after := by
  induction p generalizing q with
  | alt p₁ p₂ ih₁ ih₂ =>
    rw [orElse] at h
    rcases ih₁ h with h₁ | h
    · exact .inl (.left h₁)
    · rcases ih₂ h with h₂ | h
      · exact .inl (.right h₂)
      · exact .inr h
  | never =>
    rw [orElse] at h
    exact .inr h
  | nothing | boundary | char | seq | repeated =>
    rw [orElse] at h
    · split at h
      · exact .inl h
      · split at h
        · exact .inr h
        · cases h with
          | left one => exact .inl one
          | right other => exact .inr other
    all_goals intros; contradiction

/-- What a derivative spans, the pattern spans behind the character. -/
theorem spans_of_derivative (h : Spans (derivative before c p) (some c) cs after) :
    Spans p before (c :: cs) after := by
  induction p generalizing cs after with
  | never | nothing | boundary => cases h
  | char s =>
    rw [derivative] at h
    split at h
    · next hmem =>
      cases h
      exact .char hmem
    · cases h
  | seq p q ihp ihq =>
    have front {cs : List Char} (h : Spans (andThen (derivative before c p) q) (some c) cs after) :
        Spans (seq p q) before (c :: cs) after := by
      cases spans_of_andThen h with
      | seq first second => exact .seq_cons (ihp first) second
    rw [derivative] at h
    split at h
    · next hnull =>
      rcases spans_of_orElse h with h | h
      · exact front h
      · exact .seq_nil (spans_of_nullable hnull) (ihq h)
    · exact front h
  | alt p q ihp ihq =>
    rw [derivative] at h
    rcases spans_of_orElse h with h | h
    · exact .left (ihp h)
    · exact .right (ihq h)
  | repeated p low high ih =>
    rw [derivative] at h
    split at h
    · cases h
    · next allowed =>
      cases spans_of_andThen h with
      | seq first second =>
        unfold times at second
        split at second
        · cases second
          have hstop {b : Option Char} :
              Spans (Pattern.repeated p low (high.map (· - 1))) b [] after := .stop
          exact .more_cons allowed (ih first) hstop
        · exact .more_cons allowed (ih first) second

theorem spans_of_acceptsFrom (h : acceptsFrom before p cs = true) : Spans p before cs none := by
  induction cs generalizing before p with
  | nil => exact spans_of_nullable h
  | cons c cs ih => exact spans_of_derivative (ih h)

/-! ## Patterns without least counts -/

/-- Whether every repetition in a pattern may stop at once. -/
def mayStop : Pattern → Bool
  | never | nothing | boundary _ | char _ => true
  | seq p q | alt p q => p.mayStop && q.mayStop
  | repeated p low _ => low = 0 && p.mayStop

theorem mayStop_andThen (hp : p.mayStop = true) (hq : q.mayStop = true) :
    (andThen p q).mayStop = true := by
  unfold andThen
  split <;> simp_all [mayStop]

theorem mayStop_orElse (hp : p.mayStop = true) (hq : q.mayStop = true) :
    (orElse p q).mayStop = true := by
  induction p generalizing q with
  | alt p₁ p₂ ih₁ ih₂ =>
    rw [orElse]
    have hparts := Bool.and_eq_true_iff.mp hp
    exact ih₁ hparts.1 (ih₂ hparts.2 hq)
  | never =>
    rw [orElse]
    exact hq
  | nothing | boundary | char | seq | repeated =>
    rw [orElse]
    · split
      · exact hp
      · split
        · exact hq
        · exact Bool.and_eq_true_iff.mpr ⟨hp, hq⟩
    all_goals intros; contradiction

theorem mayStop_derivative (hp : p.mayStop = true) :
    (derivative before c p).mayStop = true := by
  induction p with
  | never | nothing | boundary => rfl
  | char s =>
    rw [derivative]
    split <;> rfl
  | seq p q ihp ihq =>
    obtain ⟨hp, hq⟩ := Bool.and_eq_true_iff.mp hp
    rw [derivative]
    split
    · exact mayStop_orElse (mayStop_andThen (ihp hp) hq) (ihq hq)
    · exact mayStop_andThen (ihp hp) hq
  | alt p q ihp ihq =>
    obtain ⟨hp, hq⟩ := Bool.and_eq_true_iff.mp hp
    rw [derivative]
    exact mayStop_orElse (ihp hp) (ihq hq)
  | repeated p low high ih =>
    simp only [mayStop, Bool.and_eq_true, decide_eq_true_eq] at hp
    obtain ⟨rfl, hp⟩ := hp
    rw [derivative]
    split
    · rfl
    · refine mayStop_andThen (ih hp) ?_
      unfold times
      split
      · rfl
      · simp [mayStop, hp]

theorem nullable_of_spans (hp : p.mayStop = true) (h : Spans p before [] after) :
    nullable before after p = true := by
  induction p with
  | never => cases h
  | nothing => rfl
  | boundary b =>
    cases h
    assumption
  | char s => cases h
  | seq p q ihp ihq =>
    obtain ⟨hp, hq⟩ := Bool.and_eq_true_iff.mp hp
    generalize hcs : ([] : List Char) = cs at h
    cases h with
    | seq first second =>
      obtain ⟨rfl, rfl⟩ := List.append_eq_nil_iff.mp hcs.symm
      exact Bool.and_eq_true_iff.mpr ⟨ihp hp first, ihq hq second⟩
  | alt p q ihp ihq =>
    obtain ⟨hp, hq⟩ := Bool.and_eq_true_iff.mp hp
    cases h with
    | left one => exact Bool.or_eq_true_iff.mpr (.inl (ihp hp one))
    | right other => exact Bool.or_eq_true_iff.mpr (.inr (ihq hq other))
  | repeated p low high =>
    simp only [mayStop, Bool.and_eq_true] at hp
    simp [nullable, of_decide_eq_true hp.1]

theorem Spans.andThen (h : Spans (Pattern.seq p q) before cs after) :
    Spans (Pattern.andThen p q) before cs after := by
  cases h with
  | seq first second =>
    unfold Pattern.andThen
    split
    · cases first
    · cases second
    · cases first
      exact second
    · cases second
      simpa using first
    · exact .seq first second

theorem Spans.of_isAlternative (h : isAlternative p q = true) (hp : Spans p before cs after) :
    Spans q before cs after := by
  induction q with
  | alt q₁ q₂ ih₁ ih₂ =>
    rw [isAlternative, Bool.or_eq_true] at h
    rcases h with h | h
    · exact .left (ih₁ h)
    · exact .right (ih₂ h)
  | never | nothing | boundary | char | seq | repeated =>
    rw [isAlternative] at h
    · exact eq_of_beq h ▸ hp
    all_goals intros; contradiction

theorem Spans.orElse (h : Spans p before cs after ∨ Spans q before cs after) :
    Spans (Pattern.orElse p q) before cs after := by
  induction p generalizing q with
  | alt p₁ p₂ ih₁ ih₂ =>
    rw [Pattern.orElse]
    rcases h with h | h
    · cases h with
      | left one => exact ih₁ (.inl one)
      | right other => exact ih₁ (.inr (ih₂ (.inl other)))
    · exact ih₁ (.inr (ih₂ (.inr h)))
  | never =>
    rw [Pattern.orElse]
    rcases h with h | h
    · cases h
    · exact h
  | nothing | boundary | char | seq | repeated =>
    rw [Pattern.orElse]
    · split
      · next hq =>
        rcases h with h | h
        · exact h
        · rw [hq] at h
          cases h
      · split
        · next hsame => exact h.elim (of_isAlternative hsame) id
        · exact h.elim .left .right
    all_goals intros; contradiction

/-- A least count makes no difference, and one more round may be allowed. -/
theorem Spans.recount {low low' : Nat} {high : Option Nat}
    (h : Spans (repeated p low high) before cs after) :
    Spans (repeated p low' high) before cs after := by
  cases h with
  | stop => exact .stop
  | more allowed first rest => exact .more allowed first rest

theorem Spans.of_pred {low : Nat} {high : Option Nat}
    (h : Spans (repeated p low (high.map (· - 1))) before cs after) :
    Spans (repeated p low high) before cs after := by
  generalize hq : repeated p low (high.map (· - 1)) = q at h
  induction h generalizing low high with
  | nothing | boundary | char | seq | left | right => cases hq
  | stop =>
    cases hq
    exact .stop
  | more allowed first rest _ ih =>
    cases hq
    refine .more (fun hnone => allowed ?_) first (ih rfl)
    rw [hnone]
    rfl

/-- Without a round nothing is spanned. -/
theorem Spans.eq_nil {low : Nat} (h : Spans (repeated p low (some 0)) before cs after) :
    cs = [] := by
  cases h with
  | stop => rfl
  | more allowed => exact absurd rfl allowed

theorem Spans.exists_round {low : Nat} {high : Option Nat}
    (h : Spans (repeated p low high) before (c :: cs) after) :
    high ≠ some 0 ∧ ∃ cs₁ cs₂, cs = cs₁ ++ cs₂ ∧ Spans p before (c :: cs₁) (cs₂.head?.or after) ∧
      Spans (repeated p low (high.map (· - 1))) (cs₁.getLast?.or (some c)) cs₂ after := by
  generalize hq : repeated p low high = q at h
  generalize hds : c :: cs = ds at h
  induction h generalizing low high with
  | nothing | boundary | char | seq | left | right => cases hq
  | stop => cases hds
  | @more _ _ _ _ _ _ cs₁ cs₂ allowed first rest _ ih =>
    cases hq
    refine ⟨allowed, ?_⟩
    cases cs₁ with
    | nil =>
      -- a round that takes nothing is passed over
      obtain ⟨-, cs₁, cs₂', rfl, hround, hrest⟩ := ih rfl hds
      exact ⟨cs₁, cs₂', rfl, hround, hrest.of_pred.recount⟩
    | cons c' cs₁ =>
      obtain ⟨rfl, rfl⟩ := List.cons.inj hds
      rw [getLast?_cons_or] at rest
      exact ⟨cs₁, cs₂, rfl, first, rest.recount⟩

/-- What a pattern spans behind a character, its derivative spans. -/
theorem Spans.derivative (hp : p.mayStop = true) (h : Spans p before (c :: cs) after) :
    Spans (Pattern.derivative before c p) (some c) cs after := by
  induction p generalizing before cs after with
  | never | nothing | boundary => cases h
  | char s =>
    cases h with
    | char mem =>
      rw [Pattern.derivative, if_pos mem]
      exact .nothing
  | seq p q ihp ihq =>
    obtain ⟨hp, hq⟩ := Bool.and_eq_true_iff.mp hp
    generalize hds : c :: cs = ds at h
    rw [Pattern.derivative]
    cases h with
    | @seq _ _ _ _ cs₁ cs₂ first second =>
      cases cs₁ with
      | nil =>
        cases hds
        have hnull := nullable_of_spans hp first
        rw [if_pos (by simpa using hnull)]
        exact .orElse (.inr (ihq hq second))
      | cons c' cs₁ =>
        obtain ⟨rfl, rfl⟩ := List.cons.inj hds
        rw [getLast?_cons_or] at second
        have hfront : Spans (Pattern.andThen (Pattern.derivative before c p) q) (some c)
            (cs₁ ++ cs₂) after := .andThen (.seq (ihp hp first) second)
        split
        · exact .orElse (.inl hfront)
        · exact hfront
  | alt p q ihp ihq =>
    obtain ⟨hp, hq⟩ := Bool.and_eq_true_iff.mp hp
    rw [Pattern.derivative]
    cases h with
    | left one => exact .orElse (.inl (ihp hp one))
    | right other => exact .orElse (.inr (ihq hq other))
  | repeated p low high ih =>
    simp only [mayStop, Bool.and_eq_true, decide_eq_true_eq] at hp
    obtain ⟨rfl, hp⟩ := hp
    obtain ⟨allowed, cs₁, cs₂, rfl, hround, hrest⟩ := h.exists_round
    rw [Pattern.derivative, if_neg allowed]
    refine .andThen (.seq (ih hp hround) ?_)
    unfold times
    split
    · next hlast =>
      rw [hlast] at hrest
      cases hrest.eq_nil
      exact .nothing
    · exact hrest.recount

theorem acceptsFrom_of_spans (hp : p.mayStop = true) (h : Spans p before cs none) :
    acceptsFrom before p cs = true := by
  induction cs generalizing before p with
  | nil => exact nullable_of_spans hp h
  | cons c cs ih => exact ih (mayStop_derivative hp) (h.derivative hp)

/-! ## Characters -/

/-- The sets of characters in a pattern. -/
def sets : Pattern → List CharSet
  | never | nothing | boundary _ => []
  | char s => [s]
  | seq p q | alt p q => p.sets ++ q.sets
  | repeated p _ _ => p.sets

/-- Every character of a spanned text is of one of the sets. -/
theorem Spans.exists_mem_sets (h : Spans p before cs after) :
    ∀ c ∈ cs, ∃ s ∈ p.sets, s.mem c = true := by
  induction h with
  | nothing | boundary | stop => simp
  | char mem => simpa [sets] using mem
  | seq _ _ ih₁ ih₂ =>
    intro c hc
    rcases List.mem_append.mp hc with hc | hc
    · obtain ⟨s, hs, hmem⟩ := ih₁ c hc
      exact ⟨s, List.mem_append_left _ hs, hmem⟩
    · obtain ⟨s, hs, hmem⟩ := ih₂ c hc
      exact ⟨s, List.mem_append_right _ hs, hmem⟩
  | left _ ih =>
    intro c hc
    obtain ⟨s, hs, hmem⟩ := ih c hc
    exact ⟨s, List.mem_append_left _ hs, hmem⟩
  | right _ ih =>
    intro c hc
    obtain ⟨s, hs, hmem⟩ := ih c hc
    exact ⟨s, List.mem_append_right _ hs, hmem⟩
  | more _ _ _ ih₁ ih₂ =>
    intro c hc
    rcases List.mem_append.mp hc with hc | hc
    · exact ih₁ c hc
    · exact ih₂ c hc

theorem spans_alt : Spans (alt p q) before cs after ↔
    Spans p before cs after ∨ Spans q before cs after := by
  constructor
  · intro h
    cases h with
    | left one => exact .inl one
    | right other => exact .inr other
  · exact fun h => h.elim .left .right

theorem spans_char {s : CharSet} : Spans (char s) before cs after ↔ ∃ c, cs = [c] ∧ s.mem c := by
  constructor
  · intro h
    cases h with
    | char mem => exact ⟨_, rfl, mem⟩
  · rintro ⟨c, rfl, hmem⟩
    exact .char hmem

theorem spans_char_seq {s : CharSet} : Spans (seq (char s) q) before cs after ↔
    ∃ c ds, cs = c :: ds ∧ s.mem c ∧ Spans q (some c) ds after := by
  constructor
  · intro h
    cases h with
    | seq first second =>
      obtain ⟨c, rfl, hmem⟩ := spans_char.mp first
      exact ⟨c, _, rfl, hmem, second⟩
  · rintro ⟨c, ds, rfl, hmem, hrest⟩
    have hfirst : Spans (char s) before [c] (ds.head?.or after) := .char hmem
    exact hfirst.seq_cons hrest

theorem spans_repeated_char {s : CharSet} {low : Nat} :
    Spans (repeated (char s) low none) before cs after ↔ ∀ c ∈ cs, s.mem c := by
  constructor
  · intro h c hc
    simpa [sets] using h.exists_mem_sets c hc
  · intro h
    induction cs generalizing before with
    | nil => exact .stop
    | cons c cs ih =>
      have hfirst : Spans (char s) before [c] (cs.head?.or after) :=
        .char (h c (List.mem_cons_self ..))
      have hrest : Spans (repeated (char s) low none) (some c) cs after :=
        ih fun c hc => h c (List.mem_cons_of_mem _ hc)
      have hmore : Spans (repeated (char s) low none) before (c :: ([] ++ cs)) after :=
        .more_cons nofun hfirst hrest
      exact hmore

theorem spans_seq_char {s : CharSet} : Spans (seq p (char s)) before cs after ↔
    ∃ ds c, cs = ds ++ [c] ∧ Spans p before ds (some c) ∧ s.mem c := by
  constructor
  · intro h
    cases h with
    | seq first second =>
      obtain ⟨c, rfl, hmem⟩ := spans_char.mp second
      exact ⟨_, c, rfl, first, hmem⟩
  · rintro ⟨ds, c, rfl, hfirst, hmem⟩
    exact .seq hfirst (.char hmem)

theorem spans_optional {low : Nat} : Spans (repeated p low (some 1)) before cs after ↔
    cs = [] ∨ Spans p before cs after := by
  constructor
  · intro h
    cases h with
    | stop => exact .inl rfl
    | more allowed first rest =>
      cases rest.eq_nil
      rw [List.append_nil]
      exact .inr first
  · rintro (rfl | h)
    · exact .stop
    · have hmore : Spans (repeated p low (some 1)) before (cs ++ []) after :=
        .more (by decide) h (.stop : Spans (repeated p low (some 0)) _ [] after)
      rwa [List.append_nil] at hmore

/-! ## Occurrences -/

theorem mem_all (c : Char) : CharSet.all.mem c = true := by
  have hranges : CharSet.all.ranges = [(0, 0x10ffff)] := by decide
  have hvalid : c.toNat < 0xd800 ∨ 0xdfff < c.toNat ∧ c.toNat < 0x110000 := c.valid
  have hc : c.toNat ≤ 0x10ffff := by omega
  simp [CharSet.mem, hranges, Ranges.contains, hc]

theorem spans_anything : Spans anything before cs after :=
  spans_repeated_char.mpr fun c _ => mem_all c

theorem exists_spans_of_occursIn (h : p.occursIn cs = true) :
    ∃ lead own rest, cs = lead ++ (own ++ rest) ∧ Spans p lead.getLast? own rest.head? := by
  cases spans_of_acceptsFrom h with
  | @seq _ _ _ _ lead tail _ htail =>
    cases htail with
    | @seq _ _ _ _ own rest hown _ =>
      rw [Option.or_none, Option.or_none] at hown
      exact ⟨lead, own, rest, rfl, hown⟩

/-- A pattern without least counts occurs where it spans a part of a text. -/
theorem occursIn_iff (hp : p.mayStop = true) : p.occursIn cs = true ↔
    ∃ lead own rest, cs = lead ++ (own ++ rest) ∧ Spans p lead.getLast? own rest.head? := by
  refine ⟨exists_spans_of_occursIn, ?_⟩
  rintro ⟨lead, own, rest, rfl, h⟩
  refine acceptsFrom_of_spans ?_ (.seq spans_anything (.seq ?_ spans_anything))
  · simp [mayStop, anything, hp]
  · simpa using h

/-! ## Anchors -/

theorem spans_textStart_seq : Spans (seq (boundary .textStart) p) before cs after ↔
    before = none ∧ Spans p before cs after := by
  constructor
  · intro h
    cases h with
    | seq first second =>
      cases first with
      | boundary holds => exact ⟨Option.isNone_iff_eq_none.mp holds, second⟩
  · rintro ⟨rfl, h⟩
    exact .seq_nil (.boundary rfl) h

theorem spans_seq_textEnd : Spans (seq p (boundary .textEnd)) before cs after ↔
    after = none ∧ Spans p before cs after := by
  constructor
  · intro h
    cases h with
    | seq first second =>
      cases second with
      | boundary holds =>
        rw [List.append_nil]
        exact ⟨Option.isNone_iff_eq_none.mp holds, first⟩
  · rintro ⟨rfl, h⟩
    exact .nil_seq h (.boundary rfl)

/-- A pattern that is matched by whole texts. -/
def anchored (p : Pattern) : Pattern := seq (boundary .textStart) (seq p (boundary .textEnd))

/-- A text in which an anchored pattern occurs is spanned by it as a whole. -/
theorem spans_of_occursIn_anchored (h : p.anchored.occursIn cs = true) : Spans p none cs none := by
  obtain ⟨lead, own, rest, rfl, hspans⟩ := exists_spans_of_occursIn h
  obtain ⟨hlead, hspans⟩ := spans_textStart_seq.mp hspans
  obtain ⟨hrest, hspans⟩ := spans_seq_textEnd.mp hspans
  cases List.getLast?_eq_none_iff.mp hlead
  cases List.head?_eq_none_iff.mp hrest
  simpa using hspans

/-- An anchored pattern without least counts occurs in what it spans as a whole. -/
theorem occursIn_anchored (hp : p.mayStop = true) (h : Spans p none cs none) :
    p.anchored.occursIn cs = true := by
  refine (occursIn_iff ?_).mpr ⟨[], cs, [], by simp, ?_⟩
  · simp [mayStop, anchored, hp]
  · exact spans_textStart_seq.mpr ⟨rfl, spans_seq_textEnd.mpr ⟨rfl, h⟩⟩

end ApiBundle.Pattern
