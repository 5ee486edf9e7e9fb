import ApiBundle.Proofs.Text.Utf8
import ApiBundle.Text.Percent

/-!
# What decoding does to a text

A text is read one escape or one character after the other (`text_induction`): what escapes make is
decided octet by octet, and every other character stands for itself. Decoding percent escapes never
makes something out of nothing or nothing out of something. An escape is three characters for one
octet, so decoding leaves exactly those texts alone that hold no escape (`decode_eq_self`).
An ASCII character in what is read was there before, or an escape of its own octet was
(`reads_of_decodeFrom`).
-/

namespace ApiBundle.Percent

variable {x y c : Char} {cs : List Char} {b : Nat}

/-- Whether a character is a hexadecimal digit. -/
def isHexDigit (c : Char) : Bool := (hexOctet? c.toNat).isSome

/-- The octet that two hexadecimal digits write. -/
def octet? (x y : Char) : Option Nat :=
  (hexOctet? x.toNat).bind fun h => (hexOctet? y.toNat).map (h * 16 + ·)

/-- The octet of the escape that a text starts with. -/
def leading? : List Char → Option Nat
  | '%' :: x :: y :: _ => octet? x y
  | _ => none

/-- A percent sign and two hexadecimal digits stand somewhere in a text. -/
def HoldsEscape (cs : List Char) : Prop :=
  ∃ x y, isHexDigit x = true ∧ isHexDigit y = true ∧ ['%', x, y] <:+: cs

theorem lt_of_hexOctet? {b n : Nat} (h : hexOctet? b = some n) : b < 0x80 := by
  unfold hexOctet? at h
  split at h
  · omega
  · split at h
    · omega
    · split at h
      · omega
      · cases h

theorem ne_of_isHexDigit (h : isHexDigit x = true) (hc : isHexDigit c = false) : x ≠ c := by
  rintro rfl
  rw [h] at hc
  cases hc

theorem octet?_isSome : (octet? x y).isSome ↔ isHexDigit x = true ∧ isHexDigit y = true := by
  unfold octet? isHexDigit
  cases hexOctet? x.toNat <;> cases hexOctet? y.toNat <;> simp

theorem isHexDigit_of_octet? (h : octet? x y = some b) :
    isHexDigit x = true ∧ isHexDigit y = true :=
  octet?_isSome.mp (Option.isSome_of_eq_some h)

theorem leading?_eq_some :
    leading? cs = some b ↔ ∃ x y rest, cs = '%' :: x :: y :: rest ∧ octet? x y = some b := by
  constructor
  · intro h
    unfold leading? at h
    split at h
    · exact ⟨_, _, _, rfl, h⟩
    · cases h
  · rintro ⟨x, y, rest, rfl, h⟩
    exact h

theorem leading?_of_ne (h : c ≠ '%') : leading? (c :: cs) = none := by
  rw [Option.eq_none_iff_forall_ne_some]
  intro b hb
  obtain ⟨x, y, rest, heq, -⟩ := leading?_eq_some.mp hb
  exact h (List.cons.inj heq).1

/-- Induction along a text, one escape or one character after the other. -/
@[elab_as_elim]
theorem text_induction {motive : List Char → Prop} (nil : motive [])
    (escape : ∀ x y b cs, octet? x y = some b → motive cs → motive ('%' :: x :: y :: cs))
    (char : ∀ c cs, leading? (c :: cs) = none → motive cs → motive (c :: cs))
    (cs : List Char) : motive cs := by
  match cs with
  | [] => exact nil
  | c :: cs =>
    cases h : leading? (c :: cs) with
    | none => exact char c cs h (text_induction nil escape char cs)
    | some b =>
      obtain ⟨x, y, rest, heq, hb⟩ := leading?_eq_some.mp h
      cases heq
      exact escape x y b rest hb (text_induction nil escape char rest)
termination_by cs.length

/-! ## Escapes in a text -/

theorem not_holdsEscape (h : '%' ∉ cs) : ¬HoldsEscape cs := by
  rintro ⟨x, y, -, -, hin⟩
  exact h (hin.mem (List.mem_cons_self ..))

theorem holdsEscape_cons : HoldsEscape (c :: cs) ↔
    (∃ x y rest, c = '%' ∧ cs = x :: y :: rest ∧ isHexDigit x = true ∧ isHexDigit y = true) ∨
      HoldsEscape cs := by
  constructor
  · rintro ⟨x, y, hx, hy, h⟩
    rcases List.infix_cons_iff.mp h with ⟨rest, hrest⟩ | h
    · obtain ⟨rfl, rfl⟩ := List.cons.inj hrest
      exact .inl ⟨x, y, rest, rfl, rfl, hx, hy⟩
    · exact .inr ⟨x, y, hx, hy, h⟩
  · rintro (⟨x, y, rest, rfl, rfl, hx, hy⟩ | ⟨x, y, hx, hy, h⟩)
    · exact ⟨x, y, hx, hy, List.infix_cons_iff.mpr (.inl ⟨rest, rfl⟩)⟩
    · exact ⟨x, y, hx, hy, List.infix_cons_iff.mpr (.inr h)⟩

theorem holdsEscape_char (h : leading? (c :: cs) = none) :
    HoldsEscape (c :: cs) ↔ HoldsEscape cs := by
  rw [holdsEscape_cons, or_iff_right]
  rintro ⟨x, y, rest, rfl, rfl, hx, hy⟩
  have hsome := octet?_isSome.mpr ⟨hx, hy⟩
  rw [show octet? x y = none from h] at hsome
  cases hsome

/-- What stands before a text is no part of an escape, unless it has a percent sign. -/
theorem holdsEscape_append {front : List Char} (h : '%' ∉ front) :
    HoldsEscape (front ++ cs) ↔ HoldsEscape cs := by
  induction front with
  | nil => rfl
  | cons c front ih =>
    rw [List.mem_cons, not_or] at h
    rw [List.cons_append, holdsEscape_cons, ih h.2]
    constructor
    · rintro (⟨_, _, _, rfl, -⟩ | hcs)
      · exact absurd rfl h.1
      · exact hcs
    · exact .inr

/-- Nor is what stands behind it, from a character on that is no digit. -/
theorem holdsEscape_append_cons {back : List Char} (hc : isHexDigit c = false) (hsign : c ≠ '%')
    (h : '%' ∉ back) : HoldsEscape (cs ++ c :: back) ↔ HoldsEscape cs := by
  induction cs with
  | nil =>
    have hback : '%' ∉ c :: back := by simp [hsign.symm, h]
    exact iff_of_false (not_holdsEscape hback) (not_holdsEscape List.not_mem_nil)
  | cons a cs ih =>
    rw [List.cons_append, holdsEscape_cons, holdsEscape_cons, ih]
    refine or_congr_left ⟨?_, ?_⟩
    · rintro ⟨x, y, rest, ha, heq, hx, hy⟩
      match cs with
      | [] =>
        rw [← (List.cons.inj heq).1, hc] at hx
        cases hx
      | [_] =>
        rw [← (List.cons.inj (List.cons.inj heq).2).1, hc] at hy
        cases hy
      | _ :: _ :: cs =>
        obtain ⟨rfl, hrest⟩ := List.cons.inj heq
        obtain ⟨rfl, -⟩ := List.cons.inj hrest
        exact ⟨_, _, cs, ha, rfl, hx, hy⟩
    · rintro ⟨x, y, rest, ha, rfl, hx, hy⟩
      exact ⟨x, y, rest ++ c :: back, ha, rfl, hx, hy⟩

/-! ## What octets are read -/

theorem decodeOctets_append {octets rest : List Nat} (h : 37 ∉ octets) :
    decodeOctets (octets ++ rest) = octets ++ decodeOctets rest := by
  induction octets with
  | nil => rfl
  | cons b octets ih =>
    have hb : b ≠ 37 := fun heq => h (heq ▸ List.mem_cons_self ..)
    rw [List.cons_append, List.cons_append, ← ih fun hmem => h (List.mem_cons_of_mem _ hmem),
      decodeOctets]
    rintro x y rest' rfl -
    exact hb rfl

theorem decodeOctets_percent {octets : List Nat}
    (h : ∀ x y rest, octets = x :: y :: rest → hexOctet? x = none ∨ hexOctet? y = none) :
    decodeOctets (37 :: octets) = 37 :: decodeOctets octets := by
  match octets with
  | [] => rfl
  | [b] => rfl
  | x :: y :: rest =>
    rw [decodeOctets]
    split
    · next hx hy =>
      rcases h x y rest rfl with hnone | hnone
      · rw [hx] at hnone
        cases hnone
      · rw [hy] at hnone
        cases hnone
    · rfl

theorem not_mem_encodeChar (h : c ≠ '%') : 37 ∉ Utf8.encodeChar c := by
  have hne : c.toNat ≠ 37 := fun heq => h (Char.toNat_inj.mp heq)
  unfold Utf8.encodeChar
  simp only
  repeat' split
  all_goals
    simp only [List.mem_cons, List.not_mem_nil, or_false]
    omega

theorem decodeOctets_escape (h : octet? x y = some b) (cs : List Char) :
    decodeOctets (Utf8.encode ('%' :: x :: y :: cs)) = b :: decodeOctets (Utf8.encode cs) := by
  obtain ⟨m, hm, h⟩ := Option.bind_eq_some_iff.mp h
  obtain ⟨n, hn, rfl⟩ := Option.map_eq_some_iff.mp h
  rw [Utf8.encode_cons, Utf8.encode_cons, Utf8.encode_cons, Utf8.encodeChar_of_ascii (by decide),
    Utf8.encodeChar_of_ascii (lt_of_hexOctet? hm), Utf8.encodeChar_of_ascii (lt_of_hexOctet? hn)]
  show decodeOctets (37 :: x.toNat :: y.toNat :: Utf8.encode cs) = _
  rw [decodeOctets, hm, hn]

/-- A character that starts no escape is left alone. -/
theorem decodeOctets_encode_cons (h : leading? (c :: cs) = none) :
    decodeOctets (Utf8.encode (c :: cs)) = Utf8.encodeChar c ++ decodeOctets (Utf8.encode cs) := by
  rw [Utf8.encode_cons]
  by_cases hc : c = '%'
  · subst hc
    rw [Utf8.encodeChar_of_ascii (by decide)]
    refine decodeOctets_percent fun m n octets heq => ?_
    cases hm : hexOctet? m with
    | none => exact .inl rfl
    | some _ =>
      cases hn : hexOctet? n with
      | none => exact .inr rfl
      | some _ =>
        obtain ⟨x, cs, rfl, rfl, hrest⟩ := Utf8.eq_cons_of_encode heq (lt_of_hexOctet? hm)
        obtain ⟨y, cs, rfl, rfl, -⟩ := Utf8.eq_cons_of_encode hrest (lt_of_hexOctet? hn)
        have hnone : octet? x y = none := h
        simp [octet?, hm, hn] at hnone
  · exact decodeOctets_append (not_mem_encodeChar hc)

/-- Decodes the escapes of a text, from the middle of a character on. -/
def decodeFrom (p : Utf8.Pending) (cs : List Char) : List Char :=
  Utf8.decodeFrom p (decodeOctets (Utf8.encode cs))

variable {p : Utf8.Pending}

theorem decodeFrom_none (cs : List Char) : decodeFrom .none cs = decode cs := rfl

theorem decodeFrom_nil (p : Utf8.Pending) : decodeFrom p [] = p.flush := rfl

theorem decodeFrom_escape (h : octet? x y = some b) (p : Utf8.Pending)
    (cs : List Char) :
    decodeFrom p ('%' :: x :: y :: cs) = (Utf8.step p b).1 ++ decodeFrom (Utf8.step p b).2 cs := by
  unfold decodeFrom
  rw [decodeOctets_escape h, Utf8.decodeFrom_cons]

theorem decodeFrom_char (hp : p.Sound) (h : leading? (c :: cs) = none) :
    decodeFrom p (c :: cs) = p.flush ++ c :: decode cs := by
  unfold decodeFrom
  rw [decodeOctets_encode_cons h, Utf8.decodeFrom_encodeChar hp]
  rfl

/-- Decoding makes no text longer, and every text with an escape shorter. -/
theorem length_decodeFrom_le (hp : p.Sound) (cs : List Char) :
    (decodeFrom p cs).length ≤ p.flush.length + cs.length ∧
      (HoldsEscape cs → (decodeFrom p cs).length < p.flush.length + cs.length) := by
  induction cs using text_induction generalizing p with
  | nil => exact ⟨Nat.le_refl _, fun h => absurd h (not_holdsEscape List.not_mem_nil)⟩
  | escape x y b cs hb ih =>
    have hstep := Utf8.length_step_le p b
    have hrest := (ih (Utf8.sound_step p b)).1
    rw [decodeFrom_escape hb, List.length_append]
    simp only [List.length_cons]
    exact ⟨by omega, fun _ => by omega⟩
  | char c cs hc ih =>
    have hrest := ih Utf8.sound_none
    rw [decodeFrom_char hp hc, List.length_append, holdsEscape_char hc, ← decodeFrom_none]
    simp only [List.length_cons, Utf8.flush_none, List.length_nil] at hrest ⊢
    refine ⟨by omega, fun hescape => ?_⟩
    have := hrest.2 hescape
    omega

/-- Decoding leaves exactly the texts without escapes alone. -/
theorem decode_eq_self {cs : List Char} : decode cs = cs ↔ ¬HoldsEscape cs := by
  constructor
  · intro h hescape
    have hlt := (length_decodeFrom_le Utf8.sound_none cs).2 hescape
    rw [decodeFrom_none, h] at hlt
    simp at hlt
  · intro h
    induction cs using text_induction with
    | nil => rfl
    | escape x y b cs hb _ =>
      obtain ⟨hx, hy⟩ := isHexDigit_of_octet? hb
      exact absurd (holdsEscape_cons.mpr (.inl ⟨x, y, cs, rfl, rfl, hx, hy⟩)) h
    | char c cs hc ih =>
      rw [holdsEscape_char hc] at h
      rw [← decodeFrom_none, decodeFrom_char Utf8.sound_none hc, ih h]
      rfl

/-- A character that stands for itself in every context: neither beyond ASCII nor an escape. -/
def IsPlain (c : Char) : Prop := c.toNat < 0x80 ∧ c ≠ '%'

theorem decode_of_plain {cs : List Char} (h : ∀ c ∈ cs, IsPlain c) : decode cs = cs :=
  decode_eq_self.mpr (not_holdsEscape fun hmem => (h _ hmem).2 rfl)

theorem eq_nil_of_decodeOctets {octets : List Nat} (h : decodeOctets octets = []) :
    octets = [] := by
  unfold decodeOctets at h
  split at h
  · rfl
  · split at h <;> cases h
  · cases h

theorem eq_nil_of_decode {cs : List Char} (h : decode cs = []) : cs = [] :=
  Utf8.eq_nil_of_encode (eq_nil_of_decodeOctets (Utf8.eq_nil_of_decodeFrom h).2)

/-! ## ASCII characters -/

/-- A text is read as a character and what the rest is read as: the character stands there, or the
escape of its octet. -/
inductive Reads (c : Char) : List Char → List Char → Prop where
  | plain {rest : List Char} (h : leading? (c :: rest) = none) : Reads c (c :: rest) rest
  | escaped {x y : Char} {rest : List Char} (h : octet? x y = some c.toNat) :
    Reads c ('%' :: x :: y :: rest) rest

variable {rest out : List Char}

theorem Reads.length_lt (h : Reads c cs rest) : rest.length < cs.length := by
  cases h <;> simp only [List.length_cons] <;> omega

theorem Reads.suffix (h : Reads c cs rest) : rest <:+ cs := by
  cases h with
  | plain => exact List.suffix_cons c rest
  | escaped => exact List.suffix_append ['%', _, _] rest

theorem Reads.decodeFrom_eq (h : Reads c cs rest) (hp : p.Sound) (hc : c.toNat < 0x80) :
    decodeFrom p cs = p.flush ++ c :: decode rest := by
  cases h with
  | plain h => exact decodeFrom_char hp h
  | escaped h =>
    rw [decodeFrom_escape h, Utf8.step_of_lead hp (.inl hc)]
    simp [Utf8.first, hc, decodeFrom_none]

/-- No octets but its own are read as an ASCII character, whatever came before. -/
theorem reads_of_decodeFrom (hzero : 0 < c.toNat) (hc : c.toNat < 0x80) (hp : p.Wide)
    (h : decodeFrom p cs = c :: out) :
    p.owed = 0 ∧ ∃ rest, Reads c cs rest ∧ out = decode rest := by
  induction cs using text_induction generalizing p with
  | nil =>
    rw [decodeFrom_nil] at h
    have hmem : c ∈ p.flush := h ▸ List.mem_cons_self ..
    exact absurd hmem (Utf8.not_mem_flush hc)
  | escape x y b cs hb ih =>
    have hstep := h
    rw [decodeFrom_escape hb] at hstep
    cases hout : (Utf8.step p b).1 with
    | nil =>
      rw [hout, List.nil_append] at hstep
      exact absurd (ih (Utf8.wide_step hp b) hstep).1 (Utf8.owed_of_step hout)
    | cons d out' =>
      rw [hout, List.cons_append] at hstep
      have hmem : c ∈ (Utf8.step p b).1 := by
        rw [hout, (List.cons.inj hstep).1]
        exact List.mem_cons_self ..
      have hread : Reads c ('%' :: x :: y :: cs) cs :=
        .escaped (Utf8.eq_of_mem_step hp hzero hc hmem ▸ hb)
      rw [hread.decodeFrom_eq hp.sound hc] at h
      obtain ⟨howed, -, hrest⟩ := Utf8.eq_of_flush_append hc h
      exact ⟨howed, cs, hread, hrest.symm⟩
  | char d cs hd ih =>
    rw [decodeFrom_char hp.sound hd] at h
    obtain ⟨howed, rfl, rfl⟩ := Utf8.eq_of_flush_append hc h
    exact ⟨howed, cs, .plain hd, rfl⟩

end ApiBundle.Percent
