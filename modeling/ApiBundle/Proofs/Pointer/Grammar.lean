import ApiBundle.Proofs.Pointer.Text

/-!
# The grammar of pointer texts

A text is a pointer's if it is empty, or starts with a slash and has no tilde that starts no escape
(`Pointer.IsText`). Reading accepts these texts and no others, and writing gives exactly these:
every list of tokens has one text, whatever characters the tokens are made of, and every accepted
text has one list of tokens (`Pointer.codec`).

A token is written by two replacements one after the other. No tilde is left over from the first one
that does not belong to an escape, and the second one leaves tildes alone, so that both together
write the token character by character (`Pointer.escapeToken_eq`).
-/

namespace ApiBundle

namespace Text

/-- A text with another one in the place of every occurrence of a character. -/
def replace (old : Char) (new cs : List Char) : List Char :=
  cs.flatMap fun c => if c = old then new else [c]

variable {sep c : Char} {cs piece : List Char} {pieces : List (List Char)}

/-- Cutting a text that starts with no separator. -/
theorem splitAt_cons (hc : c ≠ sep) (h : splitAt sep cs = piece :: pieces) :
    splitAt sep (c :: cs) = (c :: piece) :: pieces := by
  simp [splitAt, hc, h]

/-- The first piece starts as the text does, unless that is with the separator. -/
theorem head?_of_splitAt (h : splitAt sep cs = piece :: pieces) (hc : c ≠ sep) :
    piece.head? = some c ↔ cs.head? = some c := by
  cases cs with
  | nil =>
    cases h
    rfl
  | cons d cs =>
    by_cases hd : d = sep
    · simp only [splitAt, hd, if_true, List.cons.injEq] at h
      simp [← h.1, hd, Ne.symm hc]
    · cases hcs : splitAt sep cs with
      | nil => exact absurd hcs (splitAt_ne_nil sep cs)
      | cons first rest =>
        rw [splitAt_cons hd hcs] at h
        simp [← (List.cons.inj h).1]

end Text

namespace Pointer

variable {cs : List Char} {c : Char} {text : String} {p : Pointer}

/-! ## Tildes -/

/-- Every tilde of a text is followed by `0` or `1`. -/
def Escaped (cs : List Char) : Prop :=
  ∀ {front back}, cs = front ++ '~' :: back → back.head? = some '0' ∨ back.head? = some '1'

theorem escaped_nil : Escaped [] := by
  intro front back h
  cases front <;> cases h

theorem escaped_cons : Escaped (c :: cs) ↔
    (c = '~' → cs.head? = some '0' ∨ cs.head? = some '1') ∧ Escaped cs := by
  constructor
  · exact fun h => ⟨fun hc => @h [] cs (congrArg (· :: cs) hc),
      fun {front back} hcs => @h (c :: front) back (congrArg (c :: ·) hcs)⟩
  · rintro ⟨hhead, htail⟩ front back heq
    cases front with
    | nil =>
      obtain ⟨rfl, rfl⟩ := List.cons.inj heq
      exact hhead rfl
    | cons d front => exact htail (List.cons.inj heq).2

/-- A token can be read if every tilde in it starts an escape. -/
theorem unescapeToken?_isSome (cs : List Char) : (unescapeToken? cs).isSome ↔ Escaped cs := by
  induction cs using unescapeToken?.induct with
  | case1 => exact iff_of_true rfl escaped_nil
  | case2 rest ih | case3 rest ih =>
    rw [unescapeToken?, Option.isSome_map, ih, escaped_cons, escaped_cons]
    simp
  | case4 rest h0 h1 =>
    refine iff_of_false (by simp [unescapeToken?]) fun h => ?_
    rcases (escaped_cons.mp h).1 rfl with hhead | hhead
    · obtain ⟨rest, rfl⟩ := List.head?_eq_some_iff.mp hhead
      exact h0 rest rfl rfl
    · obtain ⟨rest, rfl⟩ := List.head?_eq_some_iff.mp hhead
      exact h1 rest rfl rfl
  | case5 c rest h0 h1 htilde ih =>
    rw [unescapeToken?, if_neg htilde, Option.isSome_map, ih, escaped_cons]
    · simp [htilde]
    · exact h0
    · exact h1

/-! ## Reading -/

/-- The tildes of a text are those of its pieces: no escape lies across a slash. -/
theorem escaped_splitAt (cs : List Char) :
    (∀ piece ∈ Text.splitAt '/' cs, Escaped piece) ↔ Escaped cs := by
  induction cs with
  | nil => simp [Text.splitAt]
  | cons c cs ih =>
    by_cases hc : c = '/'
    · subst hc
      rw [escaped_cons, ← ih]
      simp [Text.splitAt, escaped_nil]
    · cases hcs : Text.splitAt '/' cs with
      | nil => exact absurd hcs (Text.splitAt_ne_nil '/' cs)
      | cons piece pieces =>
        have hzero := Text.head?_of_splitAt hcs (c := '0') (by decide)
        have hone := Text.head?_of_splitAt hcs (c := '1') (by decide)
        rw [Text.splitAt_cons hc hcs, escaped_cons, ← ih, hcs]
        simp only [List.forall_mem_cons, escaped_cons, hzero, hone, and_assoc]

theorem tokens?_isSome (cs : List Char) : (tokens? cs).isSome ↔ Escaped cs := by
  have hpieces (pieces : List (List Char)) :
      (pieces.mapM fun piece => (unescapeToken? piece).map String.ofList).isSome ↔
        ∀ piece ∈ pieces, Escaped piece := by
    induction pieces with
    | nil => simp
    | cons piece pieces ih =>
      rw [List.forall_mem_cons, ← ih, ← unescapeToken?_isSome, List.mapM_cons]
      cases unescapeToken? piece with
      | none => simp
      | some token => simp [Option.isSome_bind]
  exact (hpieces _).trans (escaped_splitAt cs)

/-- The text of a pointer: nothing at all, or a slash and what comes behind it, with every tilde
followed by `0` or `1`. -/
def IsText (text : String) : Prop :=
  text = "" ∨ text.toList.head? = some '/' ∧ Escaped text.toList

/-- How reading a text ends. -/
theorem parse_cases (text : String) :
    (∃ p, parse text = .ok p) ∧ IsText text ∨
      parse text = .error (.noSlash text) ∧ text ≠ "" ∧ text.toList.head? ≠ some '/' ∨
      parse text = .error (.badEscape text) ∧ text.toList.head? = some '/' ∧
        ¬Escaped text.toList := by
  unfold parse
  split
  · next hnil => exact .inl ⟨⟨_, rfl⟩, .inl (String.toList_eq_nil_iff.mp hnil)⟩
  · next cs hcs =>
    have hescaped : Escaped text.toList ↔ (tokens? cs).isSome := by
      rw [hcs, escaped_cons, tokens?_isSome]
      simp
    cases htokens : tokens? cs with
    | some tokens =>
      exact .inl ⟨⟨_, rfl⟩, .inr ⟨by simp [hcs], hescaped.mpr (by simp [htokens])⟩⟩
    | none =>
      refine .inr (.inr ⟨rfl, by simp [hcs], fun h => ?_⟩)
      simpa [htokens] using hescaped.mp h
  · next hnil hslash =>
    refine .inr (.inl ⟨rfl, fun h => hnil (by simp [h]), fun h => ?_⟩)
    obtain ⟨cs, hcs⟩ := List.head?_eq_some_iff.mp h
    exact hslash cs hcs

theorem exists_parse_iff : (∃ p, parse text = .ok p) ↔ IsText text := by
  rcases parse_cases text with ⟨hok, htext⟩ | ⟨herror, hne, hslash⟩ | ⟨herror, hslash, hescaped⟩
  · exact iff_of_true hok htext
  · refine iff_of_false (by simp [herror]) ?_
    rintro (rfl | ⟨hhead, -⟩)
    · exact hne rfl
    · exact hslash hhead
  · refine iff_of_false (by simp [herror]) ?_
    rintro (rfl | ⟨-, hall⟩)
    · cases hslash
    · exact hescaped hall

/-! ## Writing -/

/-- Writing a token is replacing its tildes, and then its slashes. -/
theorem escapeToken_eq (cs : List Char) :
    escapeToken cs = Text.replace '/' ['~', '1'] (Text.replace '~' ['~', '0'] cs) := by
  induction cs with
  | nil => rfl
  | cons c cs ih =>
    simp only [Text.replace] at ih
    by_cases htilde : c = '~'
    · simp [escapeToken, Text.replace, htilde, ih]
    · by_cases hslash : c = '/'
      · simp [escapeToken, Text.replace, hslash, ih]
      · simp [escapeToken, Text.replace, htilde, hslash, ih]

/-- Replacing the slashes first would write a slash as an escaped tilde. -/
example : Text.replace '~' ['~', '0'] (Text.replace '/' ['~', '1'] ['/']) = ['~', '0', '1'] := by
  decide

/-- What pointers and their texts are to each other. -/
structure Codec (text : String) (p : Pointer) : Prop where
  accepts : (∃ q, parse text = .ok q) ↔ IsText text
  /-- A text that is refused lacks the slash, or has a tilde that starts no escape. -/
  refuses : ∀ {e}, parse text = .error e →
    e = .noSlash text ∧ text.toList.head? ≠ some '/' ∨
      e = .badEscape text ∧ text.toList.head? = some '/' ∧ ¬Escaped text.toList
  /-- Each token is written behind a slash, with its tildes and then its slashes replaced. -/
  writes : p.text.toList = p.tokens.flatMap fun token =>
    '/' :: Text.replace '/' ['~', '1'] (Text.replace '~' ['~', '0'] token.toList)
  /-- What was written is read. -/
  reads : parse p.text = .ok p
  /-- What was read is written again. -/
  rewrites : parse text = .ok p → p.text = text

/-- Reading and writing pointers are inverse to each other, on all tokens and all accepted texts. -/
theorem codec (text : String) (p : Pointer) : Codec text p where
  accepts := exists_parse_iff
  refuses {e} h := by
    rcases parse_cases text with ⟨⟨q, hok⟩, -⟩ | ⟨herror, -, hslash⟩ | ⟨herror, hslash, hescaped⟩
    · rw [hok] at h
      cases h
    · exact .inl ⟨Except.error.inj (h.symm.trans herror), hslash⟩
    · exact .inr ⟨Except.error.inj (h.symm.trans herror), hslash, hescaped⟩
  writes := by
    simp only [Pointer.text, String.toList_ofList, chars, escapeToken_eq]
  reads := parse_text p
  rewrites := text_of_parse

end Pointer

end ApiBundle
