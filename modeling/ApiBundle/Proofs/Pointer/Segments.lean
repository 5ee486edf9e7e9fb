import ApiBundle.Proofs.Pointer.Grammar
import ApiBundle.Proofs.Text.Percent
import Mathlib.Data.List.Infix

/-!
# Segments of fragments

A fragment is read as a pointer in this order: percent escapes, slashes, tilde escapes. A segment by
itself is read in another: tilde escapes first, percent escapes last. Nothing that tilde escapes
make is part of a percent escape, and what percent escapes make is part of the pointer's syntax only
if it is a slash, a tilde, or a digit behind a tilde. So apart from those the order makes no
difference, and the tokens of a fragment are what its segments are read as, if it is cut at the
escapes for slashes as well (`Pointer.tokens_of_segments`). With an escape for a tilde, or for the
digit behind one, it always makes a difference (`Pointer.decodesAlike_iff`).
-/

namespace ApiBundle

open Percent

namespace Text

variable {sep : Char} {cs piece front : List Char} {pieces : List (List Char)}

/-- What comes before a text without a separator belongs to its first piece. -/
theorem splitAt_append_of_not_mem (hfront : sep ∉ front) (h : splitAt sep cs = piece :: pieces) :
    splitAt sep (front ++ cs) = (front ++ piece) :: pieces := by
  induction front with
  | nil => exact h
  | cons c front ih =>
    rw [List.mem_cons, not_or] at hfront
    exact splitAt_cons (Ne.symm hfront.1) (ih hfront.2)

end Text

namespace Percent

variable {R : List Char → List Char → Prop} {cs out : List Char} {c : Char}

/-- A hexadecimal digit comes first in what a text becomes only if it came first in the text. -/
def KeepsDigits (R : List Char → List Char → Prop) : Prop :=
  ∀ {cs x out}, isHexDigit x = true → R cs (x :: out) → ∃ rest, cs = x :: rest ∧ R rest out

/-- Then no percent sign starts an escape that started none before. -/
theorem KeepsDigits.leading? (hR : KeepsDigits R) (h : R cs out) (hc : leading? (c :: cs) = none) :
    Percent.leading? (c :: out) = none := by
  rw [Option.eq_none_iff_forall_ne_some]
  intro b hb
  obtain ⟨x, y, rest, heq, hxy⟩ := leading?_eq_some.mp hb
  obtain ⟨rfl, rfl⟩ := List.cons.inj heq
  obtain ⟨hx, hy⟩ := isHexDigit_of_octet? hxy
  obtain ⟨cs₁, rfl, h₁⟩ := hR hx h
  obtain ⟨cs₂, rfl, -⟩ := hR hy h₁
  rw [show Percent.leading? ('%' :: x :: y :: cs₂) = octet? x y from rfl, hxy] at hc
  cases hc

end Percent

namespace Pointer

/-! ## Cutting at slashes -/

/-- Replaces the escapes for slashes. -/
def showSlashes : List Char → List Char
  | '%' :: x :: y :: cs =>
    if octet? x y = some '/'.toNat then '/' :: showSlashes cs else '%' :: showSlashes (x :: y :: cs)
  | c :: cs => c :: showSlashes cs
  | [] => []

/-- What stands between slashes, written and escaped. -/
def pieces (cs : List Char) : List (List Char) := Text.splitAt '/' (showSlashes cs)

/-- The segments of a fragment: it is cut at slashes and at the escapes for slashes. -/
def segments (fragment : String) : List String := (pieces fragment.toList).map String.ofList

/-- An escape stands for a slash. -/
def HidesSlash (cs : List Char) : Prop := ∃ s ∈ cs.tails, leading? s = some '/'.toNat

instance (cs : List Char) : Decidable (HidesSlash cs) :=
  inferInstanceAs (Decidable (∃ s ∈ cs.tails, _))

/-- How a text is cut, read from its start: into the first piece and the others. -/
inductive Cut : List Char → List Char → List (List Char) → Prop where
  | nil : Cut [] [] []
  | slash {cs rest piece : List Char} {ps : List (List Char)} (h : Reads '/' cs rest)
    (hrest : Cut rest piece ps) : Cut cs [] (piece :: ps)
  | escape {x y : Char} {b : Nat} {cs piece : List Char} {ps : List (List Char)}
    (h : octet? x y = some b) (hb : b ≠ '/'.toNat) (hcs : Cut cs piece ps) :
    Cut ('%' :: x :: y :: cs) ('%' :: x :: y :: piece) ps
  | char {c : Char} {cs piece : List Char} {ps : List (List Char)} (h : leading? (c :: cs) = none)
    (hc : c ≠ '/') (hcs : Cut cs piece ps) : Cut (c :: cs) (c :: piece) ps

variable {cs rest out t piece : List Char} {c d x y : Char} {b : Nat} {p : Utf8.Pending}
  {ps : List (List Char)}

theorem showSlashes_char (h : leading? (c :: cs) = none) :
    showSlashes (c :: cs) = c :: showSlashes cs := by
  conv_lhs => unfold showSlashes
  split
  · next x y cs heq =>
    obtain ⟨rfl, rfl⟩ := List.cons.inj heq
    rw [show octet? x y = none from h, if_neg nofun]
  · next heq =>
    obtain ⟨rfl, rfl⟩ := List.cons.inj heq
    rfl
  · next heq => cases heq

theorem showSlashes_escape (h : octet? x y = some b) (hb : b ≠ '/'.toNat) :
    showSlashes ('%' :: x :: y :: cs) = '%' :: x :: y :: showSlashes cs := by
  obtain ⟨hx, hy⟩ := isHexDigit_of_octet? h
  rw [showSlashes, h, if_neg fun heq => hb (Option.some.inj heq),
    showSlashes_char (leading?_of_ne (ne_of_isHexDigit hx rfl)),
    showSlashes_char (leading?_of_ne (ne_of_isHexDigit hy rfl))]

theorem cut_pieces (cs : List Char) : ∃ piece ps, pieces cs = piece :: ps ∧ Cut cs piece ps := by
  unfold pieces
  induction cs using text_induction with
  | nil => exact ⟨[], [], rfl, .nil⟩
  | escape x y b cs h ih =>
    obtain ⟨piece, ps, hcs, hcut⟩ := ih
    by_cases hb : b = '/'.toNat
    · subst hb
      refine ⟨[], piece :: ps, ?_, .slash (.escaped h) hcut⟩
      rw [showSlashes, if_pos h, Text.splitAt, if_pos rfl, hcs]
    · obtain ⟨hx, hy⟩ := isHexDigit_of_octet? h
      have hpiece := Text.splitAt_cons (ne_of_isHexDigit hx rfl)
        (Text.splitAt_cons (ne_of_isHexDigit hy rfl) hcs)
      refine ⟨'%' :: x :: y :: piece, ps, ?_, .escape h hb hcut⟩
      rw [showSlashes_escape h hb, Text.splitAt_cons (by decide) hpiece]
  | char c cs h ih =>
    obtain ⟨piece, ps, hcs, hcut⟩ := ih
    rw [showSlashes_char h]
    by_cases hc : c = '/'
    · subst hc
      refine ⟨[], piece :: ps, ?_, .slash (.plain h) hcut⟩
      rw [Text.splitAt, if_pos rfl, hcs]
    · exact ⟨c :: piece, ps, Text.splitAt_cons hc hcs, .char h hc hcut⟩

theorem keepsDigits_cut : KeepsDigits fun cs piece => ∃ ps, Cut cs piece ps := by
  rintro cs x out hx ⟨ps, h⟩
  cases h with
  | escape => exact absurd rfl (ne_of_isHexDigit hx (c := '%') rfl)
  | char _ _ hcut => exact ⟨_, rfl, ps, hcut⟩

/-- What is read has a slash where one is written or escaped. -/
theorem Cut.splitAt_decodeFrom (h : Cut cs piece ps) (hp : p.Wide) :
    Text.splitAt '/' (decodeFrom p cs) = decodeFrom p piece :: ps.map decode := by
  have hflush {p : Utf8.Pending} : '/' ∉ p.flush := Utf8.not_mem_flush (by decide)
  induction h generalizing p with
  | nil => exact Text.splitAt_of_not_mem hflush
  | slash hread _ ih =>
    rw [hread.decodeFrom_eq hp.sound (by decide), Text.splitAt_append hflush, ← decodeFrom_none,
      ih Utf8.wide_none]
    rfl
  | @escape x y b _ _ _ hb hslash _ ih =>
    have hout : '/' ∉ (Utf8.step p b).1 := fun hmem =>
      hslash (Utf8.eq_of_mem_step hp (by decide) (by decide) hmem).symm
    rw [decodeFrom_escape hb, decodeFrom_escape hb]
    exact Text.splitAt_append_of_not_mem hout (ih (Utf8.wide_step hp b))
  | char hc hslash hcut ih =>
    have hpiece := keepsDigits_cut.leading? ⟨_, hcut⟩ hc
    rw [decodeFrom_char hp.sound hc, decodeFrom_char hp.sound hpiece, ← decodeFrom_none,
      ← decodeFrom_none]
    exact Text.splitAt_append_of_not_mem hflush (Text.splitAt_cons hslash (ih Utf8.wide_none))

theorem Cut.parts (h : Cut cs piece ps) : piece <+: cs ∧ ∀ q ∈ ps, q <:+: cs := by
  induction h with
  | nil => exact ⟨⟨_, rfl⟩, nofun⟩
  | slash hread _ ih =>
    have hrest := hread.suffix.isInfix
    refine ⟨⟨_, rfl⟩, List.forall_mem_cons.mpr ⟨ih.1.isInfix.trans hrest, fun q hq => ?_⟩⟩
    exact (ih.2 q hq).trans hrest
  | escape _ _ _ ih =>
    refine ⟨(List.prefix_append_right_inj ['%', _, _]).mpr ih.1, fun q hq => ?_⟩
    exact (ih.2 q hq).trans (List.suffix_append ['%', _, _] _).isInfix
  | char _ _ _ ih =>
    refine ⟨(List.prefix_append_right_inj [_]).mpr ih.1, fun q hq => ?_⟩
    exact (ih.2 q hq).trans (List.suffix_cons _ _).isInfix

theorem hidesSlash_cons :
    HidesSlash (c :: cs) ↔ leading? (c :: cs) = some '/'.toNat ∨ HidesSlash cs := by
  simp [HidesSlash]

theorem hidesSlash_char (h : leading? (c :: cs) = none) : HidesSlash (c :: cs) ↔ HidesSlash cs := by
  rw [hidesSlash_cons, h, or_iff_right nofun]

theorem hidesSlash_escape (h : octet? x y = some b) :
    HidesSlash ('%' :: x :: y :: cs) ↔ b = '/'.toNat ∨ HidesSlash cs := by
  obtain ⟨hx, hy⟩ := isHexDigit_of_octet? h
  rw [hidesSlash_cons, hidesSlash_char (leading?_of_ne (ne_of_isHexDigit hx rfl)),
    hidesSlash_char (leading?_of_ne (ne_of_isHexDigit hy rfl)), leading?, h, Option.some.injEq]

/-- A text without slashes is one piece, unless it has an escape for one. -/
theorem Cut.whole_or_hides (h : Cut cs piece ps) (hslash : '/' ∉ cs) :
    ¬HidesSlash cs ∧ piece = cs ∧ ps = [] ∨ HidesSlash cs ∧ ps ≠ [] := by
  induction h with
  | nil => exact .inl ⟨by decide, rfl, rfl⟩
  | slash hread _ _ =>
    cases hread with
    | plain => exact absurd (List.mem_cons_self ..) hslash
    | escaped hb => exact .inr ⟨(hidesSlash_escape hb).mpr (.inl rfl), List.cons_ne_nil _ _⟩
  | escape hb hne _ ih =>
    rw [List.mem_cons, List.mem_cons, List.mem_cons, not_or, not_or, not_or] at hslash
    rw [hidesSlash_escape hb, or_iff_right hne]
    rcases ih hslash.2.2.2 with ⟨hno, rfl, rfl⟩ | hyes
    · exact .inl ⟨hno, rfl, rfl⟩
    · exact .inr hyes
  | char hc _ _ ih =>
    rw [List.mem_cons, not_or] at hslash
    rw [hidesSlash_char hc]
    rcases ih hslash.2 with ⟨hno, rfl, rfl⟩ | hyes
    · exact .inl ⟨hno, rfl, rfl⟩
    · exact .inr hyes

/-! ## Tilde escapes -/

/-- A digit behind a tilde, and the character that both stand for. -/
def Unescapes (d c : Char) : Prop := d = '0' ∧ c = '~' ∨ d = '1' ∧ c = '/'

theorem Unescapes.chars (h : Unescapes d c) :
    d ≠ '~' ∧ d ≠ '%' ∧ c ≠ '%' ∧ 0 < d.toNat ∧ d.toNat < 0x80 := by
  rcases h with ⟨rfl, rfl⟩ | ⟨rfl, rfl⟩
  · decide
  · decide

theorem unescapeToken?_cons (hc : c ≠ '~') :
    unescapeToken? (c :: cs) = (unescapeToken? cs).map (c :: ·) := by
  rw [unescapeToken?, if_neg hc]
  · exact fun _ heq => absurd heq hc
  · exact fun _ heq => absurd heq hc

theorem unescapeToken?_append {front : List Char} (h : '~' ∉ front) :
    unescapeToken? (front ++ cs) = (unescapeToken? cs).map (front ++ ·) := by
  induction front with
  | nil => simp
  | cons c front ih =>
    rw [List.mem_cons, not_or] at h
    rw [List.cons_append, unescapeToken?_cons (Ne.symm h.1), ih h.2, Option.map_map]
    rfl

theorem unescapeToken?_tilde (h : unescapeToken? ('~' :: cs) = some t) :
    ∃ d c rest t', Unescapes d c ∧ cs = d :: rest ∧ unescapeToken? rest = some t' ∧
      t = c :: t' := by
  unfold unescapeToken? at h
  split at h
  · next heq => cases heq
  · next rest heq =>
    cases heq
    obtain ⟨t', ht', rfl⟩ := Option.map_eq_some_iff.mp h
    exact ⟨'0', '~', rest, t', .inl ⟨rfl, rfl⟩, rfl, ht', rfl⟩
  · next rest heq =>
    cases heq
    obtain ⟨t', ht', rfl⟩ := Option.map_eq_some_iff.mp h
    exact ⟨'1', '/', rest, t', .inr ⟨rfl, rfl⟩, rfl, ht', rfl⟩
  · next heq =>
    cases heq
    rw [if_pos rfl] at h
    cases h

/-- The two replacements that decode a segment. -/
def unescapeLoosely (cs : List Char) : List Char := unescapeTildes (unescapeSlashes cs)

theorem unescapeLoosely_tilde (h : Unescapes d c) (cs : List Char) :
    unescapeLoosely ('~' :: d :: cs) = c :: unescapeLoosely cs := by
  unfold unescapeLoosely
  rcases h with ⟨rfl, rfl⟩ | ⟨rfl, rfl⟩
  · simp [unescapeSlashes, unescapeTildes]
  · simp [unescapeSlashes, unescapeTildes]

theorem unescapeLoosely_cons (h : ∀ {d e rest}, c = '~' → cs = d :: rest → ¬Unescapes d e) :
    unescapeLoosely (c :: cs) = c :: unescapeLoosely cs := by
  have hslashes : unescapeSlashes (c :: cs) = c :: unescapeSlashes cs := by
    rw [unescapeSlashes]
    rintro rest rfl rfl
    exact h rfl rfl (.inr ⟨rfl, rfl⟩)
  unfold unescapeLoosely
  rw [hslashes, unescapeTildes]
  rintro rest rfl hrest
  -- The first replacement brings no `0` to the front that was not there.
  unfold unescapeSlashes at hrest
  split at hrest
  · cases hrest
  · obtain ⟨rfl, -⟩ := List.cons.inj hrest
    exact h rfl rfl (.inl ⟨rfl, rfl⟩)
  · cases hrest

theorem unescapeLoosely_cons_of_ne (h : c ≠ '~') :
    unescapeLoosely (c :: cs) = c :: unescapeLoosely cs :=
  unescapeLoosely_cons fun hc => absurd hc h

theorem unescapeLoosely_escape (h : octet? x y = some b) :
    unescapeLoosely ('%' :: x :: y :: cs) = '%' :: x :: y :: unescapeLoosely cs := by
  obtain ⟨hx, hy⟩ := isHexDigit_of_octet? h
  rw [unescapeLoosely_cons_of_ne (by decide), unescapeLoosely_cons_of_ne (ne_of_isHexDigit hx rfl),
    unescapeLoosely_cons_of_ne (ne_of_isHexDigit hy rfl)]

theorem keepsDigits_unescapeLoosely : KeepsDigits fun cs out => unescapeLoosely cs = out := by
  intro cs x out hx h
  match cs with
  | [] => cases h
  | c :: cs =>
    by_cases hescape : ∃ d e rest, c = '~' ∧ cs = d :: rest ∧ Unescapes d e
    · obtain ⟨d, e, rest, rfl, rfl, hd⟩ := hescape
      rw [unescapeLoosely_tilde hd] at h
      obtain ⟨rfl, -⟩ := List.cons.inj h
      rcases hd with ⟨-, rfl⟩ | ⟨-, rfl⟩
      · exact absurd rfl (ne_of_isHexDigit hx (c := '~') rfl)
      · exact absurd rfl (ne_of_isHexDigit hx (c := '/') rfl)
    · rw [unescapeLoosely_cons fun hc hcs hd => hescape ⟨_, _, _, hc, hcs, hd⟩] at h
      obtain ⟨rfl, rfl⟩ := List.cons.inj h
      exact ⟨cs, rfl, rfl⟩

/-- An escape comes first for a tilde, or behind a first tilde for a digit that makes an escape of
it. -/
def hidesTilde : List Char → Bool
  | '~' :: cs => leading? cs == some '0'.toNat || leading? cs == some '1'.toNat
  | cs => leading? cs == some '~'.toNat

/-- There are tilde escapes that are no tilde escapes as long as percent escapes are not read. -/
def HidesTilde (cs : List Char) : Prop := ∃ s ∈ cs.tails, hidesTilde s = true

instance (cs : List Char) : Decidable (HidesTilde cs) :=
  inferInstanceAs (Decidable (∃ s ∈ cs.tails, _))

theorem hidesTilde_cons :
    HidesTilde (c :: cs) ↔ hidesTilde (c :: cs) = true ∨ HidesTilde cs := by
  simp [HidesTilde]

theorem hidesTilde_of_ne (h : c ≠ '~') :
    hidesTilde (c :: cs) = true ↔ leading? (c :: cs) = some '~'.toNat := by
  unfold hidesTilde
  split
  · next heq => exact absurd (List.cons.inj heq).1 h
  · exact beq_iff_eq

theorem hidesTilde_char (h : leading? (c :: cs) = none) (hc : c ≠ '~') :
    HidesTilde (c :: cs) ↔ HidesTilde cs := by
  rw [hidesTilde_cons, hidesTilde_of_ne hc, h, or_iff_right nofun]

theorem hidesTilde_escape (h : octet? x y = some b) :
    HidesTilde ('%' :: x :: y :: cs) ↔ b = '~'.toNat ∨ HidesTilde cs := by
  obtain ⟨hx, hy⟩ := isHexDigit_of_octet? h
  have hrest : HidesTilde (x :: y :: cs) ↔ HidesTilde cs := by
    rw [hidesTilde_char (leading?_of_ne (ne_of_isHexDigit hx rfl)) (ne_of_isHexDigit hx rfl),
      hidesTilde_char (leading?_of_ne (ne_of_isHexDigit hy rfl)) (ne_of_isHexDigit hy rfl)]
  rw [hidesTilde_cons, hidesTilde_of_ne (by decide), hrest, leading?, h, Option.some.injEq]

theorem hidesTilde_tilde : HidesTilde ('~' :: cs) ↔
    (leading? cs = some '0'.toNat ∨ leading? cs = some '1'.toNat) ∨ HidesTilde cs := by
  rw [hidesTilde_cons]
  simp [hidesTilde]

theorem leading?_append (h : leading? cs = some b) (back : List Char) :
    leading? (cs ++ back) = some b := by
  obtain ⟨x, y, rest, rfl, hb⟩ := leading?_eq_some.mp h
  exact hb

theorem hidesTilde_append (h : hidesTilde cs = true) (back : List Char) :
    hidesTilde (cs ++ back) = true := by
  match cs with
  | [] => cases h
  | c :: cs =>
    by_cases hc : c = '~'
    · subst hc
      simp only [List.cons_append, hidesTilde, Bool.or_eq_true, beq_iff_eq] at h ⊢
      exact h.imp (leading?_append · back) (leading?_append · back)
    · rw [List.cons_append, hidesTilde_of_ne hc, ← List.cons_append]
      exact leading?_append ((hidesTilde_of_ne hc).mp h) back

theorem HidesTilde.mono (h : HidesTilde piece) (hin : piece <:+: cs) : HidesTilde cs := by
  obtain ⟨s, hs, hhides⟩ := h
  obtain ⟨front, back, rfl⟩ := hin
  obtain ⟨between, rfl⟩ := (List.mem_tails s piece).mp hs
  refine ⟨s ++ back, (List.mem_tails _ _).mpr ⟨front ++ between, ?_⟩, hidesTilde_append hhides back⟩
  simp only [List.append_assoc]

/-! ## The two orders -/

theorem reads_unescapeLoosely (h : Reads d cs rest) (hd : d ≠ '~') :
    Reads d (unescapeLoosely cs) (unescapeLoosely rest) := by
  cases h with
  | plain h =>
    rw [unescapeLoosely_cons_of_ne hd]
    exact .plain (keepsDigits_unescapeLoosely.leading? rfl h)
  | escaped h =>
    rw [unescapeLoosely_escape h]
    exact .escaped h

/-- A tilde and a digit that are read stand there, or the replacements leave them alone. -/
theorem tilde_cases (h : Reads '~' cs out) (hout : Reads d out rest) (hd : Unescapes d c) :
    cs = '~' :: d :: rest ∨
      HidesTilde cs ∧ Reads '~' (unescapeLoosely cs) (unescapeLoosely out) := by
  cases h with
  | plain _ =>
    cases hout with
    | plain => exact .inl rfl
    | escaped hb =>
      refine .inr ⟨hidesTilde_tilde.mpr (.inl ?_), ?_⟩
      · rcases hd with ⟨rfl, -⟩ | ⟨rfl, -⟩
        · exact .inl hb
        · exact .inr hb
      · rw [unescapeLoosely_cons]
        · exact .plain (leading?_of_ne (by decide))
        · rintro d e rest - heq (⟨rfl, -⟩ | ⟨rfl, -⟩)
          · cases heq
          · cases heq
  | escaped hb =>
    refine .inr ⟨(hidesTilde_escape hb).mpr (.inl rfl), ?_⟩
    rw [unescapeLoosely_escape hb]
    exact .escaped hb

/-- Two texts are the same, or else, if something is hidden, the first one is shorter. -/
def SameUnless (hidden : Prop) (t out : List Char) : Prop :=
  ¬hidden ∧ t = out ∨ hidden ∧ t.length < out.length

theorem SameUnless.append_left {hidden : Prop} (h : SameUnless hidden t out) (front : List Char) :
    SameUnless hidden (front ++ t) (front ++ out) := by
  rcases h with ⟨hno, rfl⟩ | ⟨hyes, hlt⟩
  · exact .inl ⟨hno, rfl⟩
  · refine .inr ⟨hyes, ?_⟩
    rw [List.length_append, List.length_append]
    omega

theorem SameUnless.length_le {hidden : Prop} (h : SameUnless hidden t out) :
    t.length ≤ out.length := by
  rcases h with ⟨-, rfl⟩ | ⟨-, hlt⟩ <;> omega

/-- Where a tilde and a digit are read, the token has one character for both. So does what the
segment is decoded to, unless one of them is an escape. -/
theorem sameUnless_of_tilde (hp : p.Wide) (hd : Unescapes d c) (hread : Reads '~' cs out)
    (hout : Reads d out rest) (h : SameUnless (HidesTilde rest) t (decode (unescapeLoosely rest))) :
    SameUnless (HidesTilde cs) (p.flush ++ c :: t) (decodeFrom p (unescapeLoosely cs)) := by
  obtain ⟨htilde, hsign, hcsign, -, hascii⟩ := hd.chars
  rcases tilde_cases hread hout hd with rfl | ⟨hhides, hloose⟩
  · have hdigit : leading? (d :: rest) = none := leading?_of_ne hsign
    have hrest : HidesTilde ('~' :: d :: rest) ↔ HidesTilde rest := by
      rw [hidesTilde_tilde, hidesTilde_char hdigit htilde, hdigit, or_iff_right]
      rintro (hzero | hone)
      · cases hzero
      · cases hone
    rw [hrest, unescapeLoosely_tilde hd, decodeFrom_char hp.sound (leading?_of_ne hcsign)]
    exact (h.append_left [c]).append_left p.flush
  · refine .inr ⟨hhides, ?_⟩
    have hle := h.length_le
    rw [hloose.decodeFrom_eq hp.sound (by decide), ← decodeFrom_none,
      (reads_unescapeLoosely hout htilde).decodeFrom_eq Utf8.sound_none hascii, Utf8.flush_none]
    simp only [List.length_append, List.length_cons, List.length_nil]
    omega

/-- The token that a segment is read as, and what the segment is decoded to. -/
theorem sameUnless_hidesTilde {p : Utf8.Pending} {cs t : List Char} (hp : p.Wide)
    (h : unescapeToken? (decodeFrom p cs) = some t) :
    SameUnless (HidesTilde cs) t (decodeFrom p (unescapeLoosely cs)) := by
  have hflush : '~' ∉ p.flush := Utf8.not_mem_flush (by decide)
  -- A tilde that is read takes the digit behind it along, so what is left gets shorter by two.
  by_cases htilde : ∃ out, Reads '~' cs out
  · obtain ⟨out, hread⟩ := htilde
    rw [hread.decodeFrom_eq hp.sound (by decide), unescapeToken?_append hflush] at h
    obtain ⟨t, ht, rfl⟩ := Option.map_eq_some_iff.mp h
    obtain ⟨d, c, rest, t, hd, hout, ht, rfl⟩ := unescapeToken?_tilde ht
    obtain ⟨-, -, -, hzero, hascii⟩ := hd.chars
    obtain ⟨-, rest, hdigit, rfl⟩ := reads_of_decodeFrom hzero hascii Utf8.wide_none hout
    have hlt : rest.length < cs.length := hdigit.length_lt.trans hread.length_lt
    exact sameUnless_of_tilde hp hd hread hdigit (sameUnless_hidesTilde Utf8.wide_none ht)
  · match cs with
    | [] =>
      rw [decodeFrom_nil, ← List.append_nil p.flush, unescapeToken?_append hflush] at h
      obtain rfl : p.flush ++ [] = t := Option.some.inj h
      exact .inl ⟨by decide, List.append_nil _⟩
    | c :: cs =>
      cases hlead : leading? (c :: cs) with
      | none =>
        have hc : c ≠ '~' := fun heq => htilde ⟨cs, heq ▸ .plain hlead⟩
        rw [decodeFrom_char hp.sound hlead, unescapeToken?_append hflush,
          unescapeToken?_cons hc] at h
        obtain ⟨_, h₁, rfl⟩ := Option.map_eq_some_iff.mp h
        obtain ⟨t, ht, rfl⟩ := Option.map_eq_some_iff.mp h₁
        have hrest := sameUnless_hidesTilde Utf8.wide_none ht
        have hloose := keepsDigits_unescapeLoosely.leading? rfl hlead
        rw [hidesTilde_char hlead hc, unescapeLoosely_cons_of_ne hc,
          decodeFrom_char hp.sound hloose]
        exact (hrest.append_left [c]).append_left p.flush
      | some b =>
        obtain ⟨x, y, rest, heq, hb⟩ := leading?_eq_some.mp hlead
        cases heq
        have hne : b ≠ '~'.toNat := fun heq => htilde ⟨rest, .escaped (heq ▸ hb)⟩
        have hout : '~' ∉ (Utf8.step p b).1 := fun hmem =>
          hne (Utf8.eq_of_mem_step hp (by decide) (by decide) hmem).symm
        rw [decodeFrom_escape hb, unescapeToken?_append hout] at h
        obtain ⟨t, ht, rfl⟩ := Option.map_eq_some_iff.mp h
        rw [hidesTilde_escape hb, or_iff_right hne, unescapeLoosely_escape hb,
          decodeFrom_escape hb]
        exact (sameUnless_hidesTilde (Utf8.wide_step hp b) ht).append_left _
termination_by cs.length

/-! ## Tokens -/

theorem ofFragment_slash {fragment : String} {q : Pointer} :
    ofFragment ("/" ++ fragment) = .ok q ↔ tokens? (decode fragment.toList) = some q.tokens := by
  have hdecode : decode ("/" ++ fragment).toList = '/' :: decode fragment.toList := by
    rw [String.toList_append]
    exact decodeFrom_char Utf8.sound_none rfl
  obtain ⟨tokens⟩ := q
  unfold ofFragment parse
  rw [String.toList_ofList, hdecode]
  cases htokens : tokens? (decode fragment.toList) with
  | none => simp [htokens]
  | some tokens' => simp [htokens]

/-- The tokens of a fragment, segment by segment. -/
theorem sameUnless_tokens {fragment : String} {q : Pointer}
    (h : ofFragment ("/" ++ fragment) = .ok q) :
    List.Forall₂ (fun piece token => SameUnless (HidesTilde piece) token.toList
      (decodeSegment (String.ofList piece)).toList) (pieces fragment.toList) q.tokens := by
  obtain ⟨piece, ps, hpieces, hcut⟩ := cut_pieces fragment.toList
  have htokens := tokens?_eq_some_iff.mp (ofFragment_slash.mp h)
  rw [← decodeFrom_none, hcut.splitAt_decodeFrom Utf8.wide_none, decodeFrom_none, ← List.map_cons,
    ← hpieces, List.forall₂_map_left_iff] at htokens
  refine htokens.imp fun piece token htoken => ?_
  have hsame := sameUnless_hidesTilde Utf8.wide_none htoken
  rw [decodeSegment, String.toList_ofList, String.toList_ofList]
  exact hsame

theorem tokens_eq_map {fragment : String} {q : Pointer} (h : ofFragment ("/" ++ fragment) = .ok q)
    (htilde : ¬HidesTilde fragment.toList) : q.tokens = (segments fragment).map decodeSegment := by
  obtain ⟨piece, ps, hpieces, hcut⟩ := cut_pieces fragment.toList
  have hplain : ∀ piece ∈ pieces fragment.toList, ¬HidesTilde piece := by
    rw [hpieces, List.forall_mem_cons]
    exact ⟨fun hhides => htilde (hhides.mono hcut.parts.1.isInfix),
      fun q hq hhides => htilde (hhides.mono (hcut.parts.2 q hq))⟩
  have hsame := (List.forall₂_and_left _ _).mpr ⟨hplain, sameUnless_tokens h⟩
  have heq : List.Forall₂ (fun piece token => decodeSegment (String.ofList piece) = token)
      (pieces fragment.toList) q.tokens := by
    refine hsame.imp fun piece token ⟨hpiece, hcases⟩ => ?_
    rcases hcases with ⟨-, htoken⟩ | ⟨hhides, -⟩
    · exact String.toList_inj.mp htoken.symm
    · exact absurd hhides hpiece
  rw [← List.forall₂_map_left_iff, List.forall₂_eq_eq_eq] at heq
  rw [segments, List.map_map, ← heq]
  rfl

theorem segments_eq_singleton {segment : String} (hslash : '/' ∉ segment.toList)
    (h : ¬HidesSlash segment.toList) : segments segment = [segment] := by
  obtain ⟨piece, ps, hpieces, hcut⟩ := cut_pieces segment.toList
  rcases hcut.whole_or_hides hslash with ⟨-, rfl, rfl⟩ | ⟨hyes, -⟩
  · rw [segments, hpieces, List.map_singleton, String.ofList_toList]
  · exact absurd hyes h

/-- The tokens of a fragment that hides no tilde are what its segments are decoded to. Where no
slash is written or hidden, the fragment is one segment. -/
theorem tokens_of_segments {fragment : String} {q : Pointer}
    (h : ofFragment ("/" ++ fragment) = .ok q) (htilde : ¬HidesTilde fragment.toList) :
    q.tokens = (segments fragment).map decodeSegment ∧
      ('/' ∉ fragment.toList → ¬HidesSlash fragment.toList →
        q.tokens = [decodeSegment fragment]) := by
  have htokens := tokens_eq_map h htilde
  refine ⟨htokens, fun hslash hhides => ?_⟩
  rw [htokens, segments_eq_singleton hslash hhides]
  rfl

theorem tokens_of_segments_pets :
    ofFragment ("/" ++ "~1pets~0x%20y") = .ok ⟨["/pets~x y"]⟩ ∧
      ¬HidesTilde "~1pets~0x%20y".toList ∧ '/' ∉ "~1pets~0x%20y".toList ∧
      ¬HidesSlash "~1pets~0x%20y".toList ∧ ["/pets~x y"] = [decodeSegment "~1pets~0x%20y"] := by
  have hread : ofFragment ("/" ++ "~1pets~0x%20y") = .ok ⟨["/pets~x y"]⟩ := by decide
  have htilde : ¬HidesTilde "~1pets~0x%20y".toList := by decide
  have hslash : '/' ∉ "~1pets~0x%20y".toList := by decide
  have hhides : ¬HidesSlash "~1pets~0x%20y".toList := by decide
  exact ⟨hread, htilde, hslash, hhides, (tokens_of_segments hread htilde).2 hslash hhides⟩

/-- At the escape for a slash a fragment is cut, and a segment is not. -/
theorem tokens_ne_of_hidden_slash : '/' ∉ "%2F".toList ∧
    ∃ q, ofFragment ("/" ++ "%2F") = .ok q ∧ q.tokens ≠ [decodeSegment "%2F"] :=
  ⟨by decide, ⟨["", ""]⟩, by decide, by decide⟩

/-- One token that is the decoded segment is read exactly if nothing is hidden. -/
theorem decodesAlike_iff {segment : String} {q : Pointer} (hslash : '/' ∉ segment.toList)
    (h : ofFragment ("/" ++ segment) = .ok q) :
    q.tokens = [decodeSegment segment] ↔
      ¬HidesSlash segment.toList ∧ ¬HidesTilde segment.toList := by
  constructor
  · intro htokens
    have hcases := sameUnless_tokens h
    obtain ⟨piece, ps, hpieces, hcut⟩ := cut_pieces segment.toList
    rw [htokens, hpieces] at hcases
    obtain ⟨hsame, hnil⟩ := List.forall₂_cons.mp hcases
    rcases hcut.whole_or_hides hslash with ⟨hhides, rfl, -⟩ | ⟨-, hne⟩
    · refine ⟨hhides, fun htilde => ?_⟩
      rw [String.ofList_toList] at hsame
      rcases hsame with ⟨hplain, -⟩ | ⟨-, hlt⟩
      · exact hplain htilde
      · exact Nat.lt_irrefl _ hlt
    · exact absurd (List.forall₂_nil_right_iff.mp hnil) hne
  · rintro ⟨hhides, htilde⟩
    rw [tokens_eq_map h htilde, segments_eq_singleton hslash hhides]
    rfl

/-- Escapes for a tilde, and for a digit behind one. -/
example : ofFragment "/%7E1" = .ok ⟨["/"]⟩ ∧ decodeSegment "%7E1" = "~1" ∧
    ofFragment "/~%30" = .ok ⟨["~"]⟩ ∧ decodeSegment "~%30" = "~0" := by
  decide

end Pointer

end ApiBundle
