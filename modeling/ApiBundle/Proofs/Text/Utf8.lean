import ApiBundle.Text.Utf8

/-!
# Reading UTF-8

The reader makes something out of every octet: no octets are lost, and none makes more than one
character. After the octets of a character it is between characters, wherever it was before, so it
reads what was written (`decode_encode`). It takes no longer form of an ASCII character for one
(`eq_of_mem_step`).
-/

namespace ApiBundle.Utf8

variable {p : Pending} {b : Nat} {c : Char} {rest : List Nat}

/-- What becomes of a character that is not gone on with. -/
def Pending.flush (p : Pending) : List Char := if p.owed = 0 then [] else [replacement]

/-- Whatever goes on with a character is no first octet of one. -/
def Pending.Sound (p : Pending) : Prop := p.owed ≠ 0 → 0x80 ≤ p.least ∧ p.greatest ≤ 0xBF

@[simp]
theorem flush_none : Pending.none.flush = [] := rfl

theorem sound_none : Pending.none.Sound := fun h => absurd rfl h

theorem sound_first (b : Nat) : (first b).2.Sound := by
  unfold first Pending.Sound
  repeat' split
  all_goals simp [Pending.none]

theorem sound_step (p : Pending) (b : Nat) : (step p b).2.Sound := by
  unfold step
  split
  · exact sound_first b
  · split
    · simp only
      split
      · exact sound_none
      · exact fun _ => ⟨Nat.le_refl _, Nat.le_refl _⟩
    · exact sound_first b

theorem decodeFrom_nil (p : Pending) : decodeFrom p [] = p.flush := rfl

theorem decodeFrom_cons (p : Pending) (b : Nat) (rest : List Nat) :
    decodeFrom p (b :: rest) = (step p b).1 ++ decodeFrom (step p b).2 rest := rfl

/-- The first octet of a character ends any other character. -/
theorem step_of_lead (hp : p.Sound) (hb : b < 0x80 ∨ 0xBF < b) :
    step p b = (p.flush ++ (first b).1, (first b).2) := by
  unfold step Pending.flush
  by_cases howed : p.owed = 0
  · simp [howed]
  · have hrange := hp howed
    rw [if_neg howed, if_neg (by omega), if_neg howed]
    rfl

theorem decodeFrom_tail {owed bits least greatest : Nat} (h : least ≤ b ∧ b ≤ greatest) :
    decodeFrom ⟨owed + 2, bits, least, greatest⟩ (b :: rest) =
      decodeFrom ⟨owed + 1, bits * 64 + b % 64, 0x80, 0xBF⟩ rest := by
  simp [decodeFrom_cons, step, h]

theorem decodeFrom_last {bits least greatest : Nat} (h : least ≤ b ∧ b ≤ greatest) :
    decodeFrom ⟨1, bits, least, greatest⟩ (b :: rest) =
      Char.ofNat (bits * 64 + b % 64) :: decodeFrom .none rest := by
  simp [decodeFrom_cons, step, h]

/-! ## Written characters are read -/

theorem first_two {n : Nat} (hlow : 0x80 ≤ n) (hhigh : n < 0x800) :
    first (0xC0 + n / 64) = ([], ⟨1, n / 64, 0x80, 0xBF⟩) := by
  unfold first
  rw [if_neg (by omega), if_pos (by omega), show (0xC0 + n / 64) % 32 = n / 64 by omega]

/-- The second of three octets is in range: it belongs to no shorter form, and to no surrogate. -/
theorem first_three {n : Nat} (hlow : 0x800 ≤ n) (hhigh : n < 0x10000)
    (hvalid : n < 0xD800 ∨ 0xDFFF < n) : ∃ least greatest,
      first (0xE0 + n / 4096) = ([], ⟨2, n / 4096, least, greatest⟩) ∧
        least ≤ 0x80 + n / 64 % 64 ∧ 0x80 + n / 64 % 64 ≤ greatest := by
  unfold first
  rw [if_neg (by omega), if_neg (by omega)]
  split
  · exact ⟨_, _, by rw [show n / 4096 = 0 by omega], by omega⟩
  · split
    · exact ⟨_, _, by rw [show n / 4096 = 13 by omega], by omega⟩
    · rw [if_pos (by omega), show (0xE0 + n / 4096) % 16 = n / 4096 by omega]
      exact ⟨_, _, rfl, by omega⟩

/-- The second of four octets is in range: it belongs to no shorter form, and there is no character
beyond the last one. -/
theorem first_four {n : Nat} (hlow : 0x10000 ≤ n) (hhigh : n < 0x110000) : ∃ least greatest,
      first (0xF0 + n / 262144) = ([], ⟨3, n / 262144, least, greatest⟩) ∧
        least ≤ 0x80 + n / 4096 % 64 ∧ 0x80 + n / 4096 % 64 ≤ greatest := by
  unfold first
  rw [if_neg (by omega), if_neg (by omega), if_neg (by omega), if_neg (by omega),
    if_neg (by omega)]
  split
  · exact ⟨_, _, by rw [show n / 262144 = 0 by omega], by omega⟩
  · split
    · rw [show (0xF0 + n / 262144) % 8 = n / 262144 by omega]
      exact ⟨_, _, rfl, by omega⟩
    · rw [if_pos (by omega)]
      exact ⟨_, _, by rw [show n / 262144 = 4 by omega], by omega⟩

/-- The octets of a character are read as that character. -/
theorem decodeFrom_encodeChar (hp : p.Sound) (c : Char) (rest : List Nat) :
    decodeFrom p (encodeChar c ++ rest) = p.flush ++ c :: decodeFrom .none rest := by
  have hvalid : c.toNat < 0xD800 ∨ 0xDFFF < c.toNat ∧ c.toNat < 0x110000 := c.valid
  have hread : ∀ n, n = c.toNat → Char.ofNat n = c := fun n hn => hn ▸ Char.ofNat_toNat c
  unfold encodeChar
  generalize c.toNat = n at hvalid hread
  simp only
  split
  · next hone =>
    rw [List.singleton_append, decodeFrom_cons, step_of_lead hp (.inl hone)]
    simp [first, hone, hread n rfl]
  · split
    · next hone htwo =>
      rw [List.cons_append, decodeFrom_cons, step_of_lead hp (.inr (by omega)),
        first_two (by omega) htwo, List.append_nil, List.singleton_append,
        decodeFrom_last (by omega), hread _ (by omega)]
    · split
      · next htwo hthree =>
        obtain ⟨least, greatest, hfirst, hrange⟩ :=
          first_three (Nat.not_lt.mp htwo) hthree (hvalid.imp_right And.left)
        rw [List.cons_append, decodeFrom_cons, step_of_lead hp (.inr (by omega)), hfirst,
          List.append_nil, List.cons_append, decodeFrom_tail hrange, List.singleton_append,
          decodeFrom_last (by omega), hread _ (by omega)]
      · next hthree =>
        obtain ⟨least, greatest, hfirst, hrange⟩ :=
          first_four (Nat.not_lt.mp hthree) (by omega)
        rw [List.cons_append, decodeFrom_cons, step_of_lead hp (.inr (by omega)), hfirst,
          List.append_nil, List.cons_append, decodeFrom_tail hrange, List.cons_append,
          decodeFrom_tail (by omega), List.singleton_append, decodeFrom_last (by omega),
          hread _ (by omega)]

theorem decode_encode (cs : List Char) : decode (encode cs) = cs := by
  unfold decode encode
  induction cs with
  | nil => rfl
  | cons c cs ih =>
    rw [List.flatMap_cons, decodeFrom_encodeChar sound_none, ih]
    rfl

/-- No octet makes more than one character, counting one that is still under way. -/
theorem length_step_le (p : Pending) (b : Nat) :
    (step p b).1.length + (step p b).2.flush.length ≤ p.flush.length + 1 := by
  have hfirst : (first b).1.length + (first b).2.flush.length ≤ 1 := by
    unfold first Pending.flush
    repeat' split
    all_goals simp_all [Pending.none]
  unfold step
  split
  · omega
  · next howed =>
    have hflush : p.flush.length = 1 := by simp [Pending.flush, howed]
    split
    · simp only
      split
      · simp [hflush]
      · simp only [hflush, List.length_nil]
        unfold Pending.flush
        split <;> simp
    · simp only [List.length_cons]
      omega

theorem encode_cons (c : Char) (cs : List Char) : encode (c :: cs) = encodeChar c ++ encode cs :=
  List.flatMap_cons

theorem encodeChar_of_ascii (h : c.toNat < 0x80) : encodeChar c = [c.toNat] := by
  simp [encodeChar, h]

theorem eq_cons_of_encode {cs : List Char} (h : encode cs = b :: rest) (hb : b < 0x80) :
    ∃ c cs', cs = c :: cs' ∧ c.toNat = b ∧ encode cs' = rest := by
  cases cs with
  | nil => cases h
  | cons c cs =>
    rw [encode_cons] at h
    by_cases hc : c.toNat < 0x80
    · rw [encodeChar_of_ascii hc] at h
      obtain ⟨rfl, rfl⟩ := List.cons.inj h
      exact ⟨c, cs, rfl, rfl, rfl⟩
    · have hhead : ∃ b' os, encodeChar c = b' :: os ∧ 0x80 ≤ b' := by
        unfold encodeChar
        simp only [hc, if_false]
        split
        · exact ⟨_, _, rfl, by omega⟩
        · split <;> exact ⟨_, _, rfl, by omega⟩
      obtain ⟨b', os, heq, hle⟩ := hhead
      rw [heq] at h
      have hsame := (List.cons.inj h).1
      omega

/-! ## Nothing is lost -/

theorem owed_of_step (h : (step p b).1 = []) : (step p b).2.owed ≠ 0 := by
  have hfirst : (first b).1 = [] → (first b).2.owed ≠ 0 := by
    unfold first
    intro h
    repeat' split
    all_goals simp_all
  unfold step at h ⊢
  simp only at h ⊢
  split
  · next howed =>
    rw [if_pos howed] at h
    exact hfirst h
  · next howed =>
    rw [if_neg howed] at h
    split
    · next hrange =>
      rw [if_pos hrange] at h
      split
      · next hone => simp [hone] at h
      · next hone =>
        simp only
        omega
    · next hrange => simp [hrange] at h

theorem eq_nil_of_decodeFrom {octets : List Nat} (h : decodeFrom p octets = []) :
    p.owed = 0 ∧ octets = [] := by
  induction octets generalizing p with
  | nil =>
    rw [decodeFrom_nil] at h
    unfold Pending.flush at h
    split at h
    · next howed => exact ⟨howed, rfl⟩
    · cases h
  | cons b rest ih =>
    rw [decodeFrom_cons, List.append_eq_nil_iff] at h
    exact absurd (ih h.2).1 (owed_of_step h.1)

theorem eq_nil_of_encode {cs : List Char} (h : encode cs = []) : cs = [] := by
  cases cs with
  | nil => rfl
  | cons c cs =>
    unfold encode at h
    rw [List.flatMap_cons, List.append_eq_nil_iff] at h
    have hc := h.1
    unfold encodeChar at hc
    simp only at hc
    repeat' split at hc
    all_goals cases hc

/-! ## Characters of one octet -/

/-- What goes on with a character makes one beyond ASCII, so that no octets but the shortest make an
ASCII character. -/
structure Pending.Wide (p : Pending) : Prop where
  sound : p.Sound
  /-- With the next octet there are enough bits to be before the last octet. -/
  next : p.owed ≠ 0 → 2 ≤ p.bits * 64 + p.least % 64
  last : p.owed = 1 → 2 ≤ p.bits

theorem wide_none : Pending.none.Wide := ⟨sound_none, fun h => absurd rfl h, nofun⟩

theorem wide_first (b : Nat) : (first b).2.Wide := by
  refine ⟨sound_first b, ?_, ?_⟩
  all_goals
    unfold first
    repeat' split
  all_goals
    simp [Pending.none] <;> omega

theorem wide_step (hp : p.Wide) (b : Nat) : (step p b).2.Wide := by
  have hfirst := wide_first b
  unfold step
  split
  · exact hfirst
  · next howed =>
    split
    · next hrange =>
      simp only
      split
      · exact wide_none
      · next hone =>
        obtain ⟨hlow, hhigh⟩ := hp.sound howed
        have hbits := hp.next howed
        have hnext : 2 ≤ p.bits * 64 + b % 64 := by omega
        have hrest : 2 ≤ (p.bits * 64 + b % 64) * 64 + 0x80 % 64 := by omega
        exact ⟨fun _ => ⟨Nat.le_refl _, Nat.le_refl _⟩, fun _ => hrest, fun _ => hnext⟩
    · exact hfirst

/-- A number that no character has makes NUL. -/
theorem toNat_ofNat (n : Nat) :
    (Char.ofNat n).toNat = n ∨ ¬n.isValidChar ∧ (Char.ofNat n).toNat = 0 := by
  by_cases h : n.isValidChar
  · exact .inl (by rw [Char.ofNat, dif_pos h]; rfl)
  · exact .inr ⟨h, by rw [Char.ofNat, dif_neg h]; rfl⟩

theorem eq_of_mem_first (hc : c.toNat < 0x80) (h : c ∈ (first b).1) : c.toNat = b := by
  have hreplacement : c ≠ replacement := by
    rintro rfl
    exact absurd hc (by decide)
  unfold first at h
  repeat' split at h
  all_goals
    simp only [List.mem_cons, List.not_mem_nil, or_false] at h
  · next hascii =>
    rcases toNat_ofNat b with hb | ⟨hinvalid, -⟩
    · rw [h, hb]
    · exact absurd (.inl (by omega)) hinvalid
  · exact absurd h hreplacement

/-- An ASCII character is made by its own octet and no other. NUL is left out, for
`toNat_ofNat`. -/
theorem eq_of_mem_step (hp : p.Wide) (hzero : 0 < c.toNat) (hc : c.toNat < 0x80)
    (h : c ∈ (step p b).1) : c.toNat = b := by
  unfold step at h
  split at h
  · exact eq_of_mem_first hc h
  · next howed =>
    split at h
    · next hrange =>
      simp only at h
      split at h
      · next hone =>
        have hbits := hp.last hone
        rw [List.mem_singleton.mp h] at hzero hc
        rcases toNat_ofNat (p.bits * 64 + b % 64) with hn | ⟨-, hn⟩
        · omega
        · omega
      · cases h
    · rcases List.mem_cons.mp h with rfl | h
      · exact absurd hc (by decide)
      · exact eq_of_mem_first hc h

theorem not_mem_flush (hc : c.toNat < 0x80) : c ∉ p.flush := by
  unfold Pending.flush
  split
  · exact List.not_mem_nil
  · rw [List.mem_singleton]
    rintro rfl
    exact absurd hc (by decide)

/-- An ASCII character comes first only where no other one was under way. -/
theorem eq_of_flush_append {d : Char} {cs out : List Char} (hc : c.toNat < 0x80)
    (h : p.flush ++ d :: cs = c :: out) : p.owed = 0 ∧ d = c ∧ cs = out := by
  by_cases howed : p.owed = 0
  · simp only [Pending.flush, howed, if_true, List.nil_append, List.cons.injEq] at h
    exact ⟨howed, h.1, h.2⟩
  · have hmem : c ∈ p.flush := by
      simp only [Pending.flush, howed, if_false, List.cons_append, List.cons.injEq] at h ⊢
      exact List.mem_singleton.mpr h.1.symm
    exact absurd hmem (not_mem_flush hc)

end ApiBundle.Utf8
