import ApiBundle.Pointer
import Mathlib.Data.List.Forall2

/-!
# Pointers and their texts

Reading the text of a pointer gives the pointer back, and a text that reads as a pointer is its
text. So a pointer may be kept as text and read again, as adornments do.
-/

namespace ApiBundle

namespace Text

variable {α : Type} [DecidableEq α] {sep : α} {piece : List α}

theorem splitAt_of_not_mem (h : sep ∉ piece) : splitAt sep piece = [piece] := by
  induction piece with
  | nil => rfl
  | cons c cs ih =>
    have hc : c ≠ sep := fun heq => h (heq ▸ List.mem_cons_self ..)
    have hcs : sep ∉ cs := fun hmem => h (List.mem_cons_of_mem _ hmem)
    simp [splitAt, hc, ih hcs]

theorem splitAt_append (h : sep ∉ piece) (cs : List α) :
    splitAt sep (piece ++ sep :: cs) = piece :: splitAt sep cs := by
  induction piece with
  | nil => simp [splitAt]
  | cons c piece ih =>
    have hc : c ≠ sep := fun heq => h (heq ▸ List.mem_cons_self ..)
    have hpiece : sep ∉ piece := fun hmem => h (List.mem_cons_of_mem _ hmem)
    simp [splitAt, hc, ih hpiece]

end Text

namespace Pointer

/-! ## Tokens -/

theorem slash_not_mem_escapeToken (cs : List Char) : '/' ∉ escapeToken cs := by
  induction cs with
  | nil => simp [escapeToken]
  | cons c cs ih =>
    unfold escapeToken
    split
    · simp [ih]
    · split
      · simp [ih]
      · next hslash => simp [ih, Ne.symm hslash]

theorem unescapeToken?_escapeToken (cs : List Char) :
    unescapeToken? (escapeToken cs) = some cs := by
  induction cs with
  | nil => rfl
  | cons c cs ih =>
    unfold escapeToken
    split
    · next h => simp [unescapeToken?, ih, h]
    · split
      · next h => simp [unescapeToken?, ih, h]
      · next htilde _ =>
        rw [unescapeToken?]
        · rw [if_neg htilde, ih]
          rfl
        · rintro _ rfl
          exact absurd rfl htilde
        · rintro _ rfl
          exact absurd rfl htilde

theorem escapeToken_of_unescapeToken? {piece cs : List Char}
    (hslash : '/' ∉ piece) (h : unescapeToken? piece = some cs) : escapeToken cs = piece := by
  induction piece using unescapeToken?.induct generalizing cs with
  | case1 =>
    cases h
    rfl
  | case2 rest ih =>
    obtain ⟨cs', hrest, rfl⟩ := Option.map_eq_some_iff.mp h
    simp [escapeToken, ih (by simp_all) hrest]
  | case3 rest ih =>
    obtain ⟨cs', hrest, rfl⟩ := Option.map_eq_some_iff.mp h
    simp [escapeToken, ih (by simp_all) hrest]
  | case4 => simp [unescapeToken?] at h
  | case5 c rest h0 h1 htilde ih =>
    rw [unescapeToken?, if_neg htilde] at h
    · obtain ⟨cs', hrest, rfl⟩ := Option.map_eq_some_iff.mp h
      have hc : c ≠ '/' := by
        rintro rfl
        exact hslash (List.mem_cons_self ..)
      simp [escapeToken, htilde, hc, ih (by simp_all) hrest]
    · exact h0
    · exact h1

/-- Reading what was written behind the first slash. -/
theorem tokens?_chars (token : String) (rest : List String) :
    tokens? (escapeToken token.toList ++ chars ⟨rest⟩) = some (token :: rest) := by
  induction rest generalizing token with
  | nil =>
    simp [tokens?, chars, Text.splitAt_of_not_mem (slash_not_mem_escapeToken _),
      unescapeToken?_escapeToken]
  | cons next rest ih =>
    have hsplit := Text.splitAt_append (slash_not_mem_escapeToken token.toList)
      (escapeToken next.toList ++ chars ⟨rest⟩)
    have hih := ih next
    unfold tokens? at hih ⊢
    simp only [chars, List.flatMap_cons, List.cons_append] at hsplit hih ⊢
    simp [hsplit, unescapeToken?_escapeToken, hih]

/-- The text of a pointer reads as the pointer. -/
theorem parse_text (p : Pointer) : parse p.text = .ok p := by
  obtain ⟨tokens⟩ := p
  unfold parse text
  cases tokens with
  | nil => rfl
  | cons token rest =>
    have hchars : chars ⟨token :: rest⟩ = '/' :: (escapeToken token.toList ++ chars ⟨rest⟩) := by
      simp [chars]
    rw [String.toList_ofList, hchars]
    simp only [tokens?_chars]

/-- Reading token by token. -/
theorem tokens?_eq_some_iff {cs : List Char} {tokens : List String} : tokens? cs = some tokens ↔
    List.Forall₂ (fun piece token => unescapeToken? piece = some token.toList)
      (Text.splitAt '/' cs) tokens := by
  unfold tokens?
  generalize Text.splitAt '/' cs = pieces
  induction pieces generalizing tokens with
  | nil => simp [eq_comm]
  | cons piece pieces ih =>
    rw [List.mapM_cons]
    constructor
    · intro h
      obtain ⟨token, htoken, h⟩ := Option.bind_eq_some_iff.mp h
      obtain ⟨rest, hrest, h⟩ := Option.bind_eq_some_iff.mp h
      cases h
      obtain ⟨t, ht, rfl⟩ := Option.map_eq_some_iff.mp htoken
      exact .cons (by rw [ht, String.toList_ofList]) (ih.mp hrest)
    · rintro (_ | ⟨htoken, hrest⟩)
      rw [htoken, ih.mpr hrest]
      simp

/-- Each token that is read is written as the piece that it was read from. -/
theorem chars_of_pieces {pieces : List (List Char)} {tokens : List String}
    (hslash : ∀ piece ∈ pieces, '/' ∉ piece)
    (h : List.Forall₂ (fun piece token => unescapeToken? piece = some token.toList)
      pieces tokens) : chars ⟨tokens⟩ = pieces.flatMap fun piece => '/' :: piece := by
  induction h with
  | nil => rfl
  | cons hpiece _ ih =>
    obtain ⟨hfirst, hrest⟩ := List.forall_mem_cons.mp hslash
    have hbelow := ih hrest
    simp only [chars, List.flatMap_cons, escapeToken_of_unescapeToken? hfirst hpiece] at hbelow ⊢
    rw [hbelow]

theorem not_mem_of_mem_splitAt {α : Type} [DecidableEq α] {sep : α} {cs piece : List α}
    (h : piece ∈ Text.splitAt sep cs) : sep ∉ piece := by
  induction cs generalizing piece with
  | nil =>
    cases List.mem_singleton.mp h
    simp
  | cons c cs ih =>
    unfold Text.splitAt at h
    split at h
    · rcases List.mem_cons.mp h with rfl | h
      · simp
      · exact ih h
    · next hc =>
      split at h
      · next hnil => exact absurd hnil (Text.splitAt_ne_nil sep cs)
      · next first pieces hsplit =>
        rw [hsplit] at ih
        rcases List.mem_cons.mp h with rfl | h
        · simp [Ne.symm hc, ih (List.mem_cons_self ..)]
        · exact ih (List.mem_cons_of_mem _ h)

/-- Pieces with a separator before each are the joined pieces behind a separator. -/
theorem flatMap_eq_joinWith {pieces : List (List Char)} (h : pieces ≠ []) :
    pieces.flatMap (fun piece => '/' :: piece) = '/' :: Text.joinWith '/' pieces := by
  induction pieces with
  | nil => exact absurd rfl h
  | cons piece pieces ih =>
    cases pieces with
    | nil => simp [Text.joinWith]
    | cons next rest => simp [Text.joinWith, ih]

/-- A text that reads as a pointer is its text. -/
theorem text_of_parse {text : String} {p : Pointer} (h : parse text = .ok p) : p.text = text := by
  unfold parse at h
  split at h
  · next hnil =>
    cases h
    exact String.toList_inj.mp (by simp [root, Pointer.text, chars, hnil])
  · next cs hcs =>
    cases htokens : tokens? cs with
    | none => simp [htokens] at h
    | some tokens =>
      simp only [htokens, Except.ok.injEq] at h
      subst h
      have hchars := chars_of_pieces (fun piece hp => not_mem_of_mem_splitAt hp)
        (tokens?_eq_some_iff.mp htokens)
      rw [flatMap_eq_joinWith (Text.splitAt_ne_nil '/' cs), Text.joinWith_splitAt, ← hcs] at hchars
      exact String.toList_inj.mp (by simp [Pointer.text, hchars])
  · cases h

theorem push_ne_root (p : Pointer) (name : String) : p.push name ≠ root := by
  intro heq
  simpa [push, root] using congrArg tokens heq

theorem text_push (p : Pointer) (name : String) :
    (p.push name).text = p.text ++ "/" ++ escape name := by
  apply String.toList_inj.mp
  simp [text, push, chars, escape]

/-- A token without tildes and slashes is written as it stands. -/
theorem escape_eq {token : String} (h : ∀ c ∈ token.toList, c ≠ '~' ∧ c ≠ '/') :
    escape token = token := by
  have key : ∀ cs : List Char, (∀ c ∈ cs, c ≠ '~' ∧ c ≠ '/') → escapeToken cs = cs := by
    intro cs
    induction cs with
    | nil => exact fun _ => rfl
    | cons c cs ih =>
      intro hcs
      obtain ⟨⟨htilde, hslash⟩, hrest⟩ := List.forall_mem_cons.mp hcs
      rw [escapeToken, if_neg htilde, if_neg hslash, ih hrest]
  rw [escape, key _ h, String.ofList_toList]

theorem isRoot_iff {p : Pointer} : p.isRoot = true ↔ p = root := by
  obtain ⟨tokens⟩ := p
  cases tokens <;> simp [isRoot, root]

theorem text_eq_empty {p : Pointer} (h : p.text = "") : p = root := by
  have hp := parse_text p
  rw [h] at hp
  exact (Except.ok.inj hp).symm

theorem slash_mem_text {p : Pointer} (h : p ≠ root) : '/' ∈ p.text.toList := by
  obtain ⟨tokens⟩ := p
  cases tokens with
  | nil => exact absurd rfl h
  | cons token rest => simp [text, chars]

theorem text_inj {p q : Pointer} (h : p.text = q.text) : p = q := by
  have hp := parse_text p
  rw [h, parse_text q] at hp
  cases hp
  rfl

end Pointer

end ApiBundle
