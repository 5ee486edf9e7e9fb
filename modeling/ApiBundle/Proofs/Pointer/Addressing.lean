import ApiBundle.Proofs.Reference.Identity
import ApiBundle.Proofs.Tree.Places

/-!
# What tokens address

A token leads from an object to the member of its name, and from an array to the item whose index it
writes. So a pointer leads to a node if its tokens spell the steps of a path to the node, and that
is where it is overwritten (`Pointer.lookup_eq_some_iff`, `Pointer.overwrite_iff_putAt`).

An index is written in decimal without a leading zero, which is the one way that a number has
(`Text.isDecimal_iff`). But any digits behind a plus sign are read as an index too. Pointers that
have no such token at an array address different places of a tree if they are different at all; a
place below an array has other pointers besides, and each of those has a sign (`Pointer.addresses`).
-/

namespace ApiBundle

/-! ## Numbers in decimal -/

namespace Text

variable {ds : List Char} {c : Char} {n : Nat}

/-- Decimal digits, at least one; a zero comes first only if it is the only one. -/
def IsDecimal (ds : List Char) : Prop :=
  ds = ['0'] ∨ ∃ c rest, ds = c :: rest ∧ c ≠ '0' ∧ ∀ d ∈ ds, d.isDigit = true

theorem digitChar_of_isDigit (h : c.isDigit = true) :
    c.toNat - 48 < 10 ∧ (c.toNat - 48).digitChar = c := by
  simp only [Char.isDigit, Bool.and_eq_true, decide_eq_true_eq, ge_iff_le, UInt32.le_iff_toNat_le]
    at h
  have hlow : 48 ≤ c.toNat := h.1
  have hhigh : c.toNat ≤ 57 := h.2
  refine ⟨by omega, Char.toNat_inj.mp ?_⟩
  rw [Nat.toNat_digitChar_of_lt_ten (by omega)]
  omega

/-- Digits behind those of a number that is not zero. -/
theorem toDigits_ofDigitChars (hn : 0 < n) (h : ∀ d ∈ ds, d.isDigit = true) :
    Nat.toDigits 10 (Nat.ofDigitChars 10 ds n) = Nat.toDigits 10 n ++ ds := by
  -- What is read so far stays positive, so no digit is lost as a leading zero.
  induction ds generalizing n with
  | nil => simp
  | cons d ds ih =>
    obtain ⟨hd, hrest⟩ := List.forall_mem_cons.mp h
    obtain ⟨hlt, hchar⟩ := digitChar_of_isDigit hd
    calc Nat.toDigits 10 (Nat.ofDigitChars 10 (d :: ds) n)
      _ = Nat.toDigits 10 (10 * n + (d.toNat - 48)) ++ ds := by
        rw [Nat.ofDigitChars_cons]
        exact ih (Nat.add_pos_left (by omega) _) hrest
      _ = (Nat.toDigits 10 n ++ [d]) ++ ds := by
        rw [← Nat.toDigits_append_toDigits (by omega) hn hlt, Nat.toDigits_of_lt_base hlt, hchar]
      _ = Nat.toDigits 10 n ++ d :: ds := by simp

theorem toDigits_of_isDecimal (h : IsDecimal ds) :
    Nat.toDigits 10 (Nat.ofDigitChars 10 ds 0) = ds := by
  rcases h with rfl | ⟨c, rest, rfl, hc, hdigits⟩
  · rfl
  · obtain ⟨hdigit, hrest⟩ := List.forall_mem_cons.mp hdigits
    obtain ⟨hlt, hchar⟩ := digitChar_of_isDigit hdigit
    have hpos : 0 < c.toNat - 48 := by
      refine Nat.pos_of_ne_zero fun hzero => hc ?_
      rw [← hchar, hzero]
      rfl
    rw [Nat.ofDigitChars_cons, Nat.mul_zero, Nat.zero_add]
    refine (toDigits_ofDigitChars hpos hrest).trans ?_
    rw [Nat.toDigits_of_lt_base hlt, hchar]
    rfl

theorem toDigits_head_ne_zero (hn : 0 < n) : ∃ c rest, Nat.toDigits 10 n = c :: rest ∧ c ≠ '0' := by
  induction n using Nat.strongRecOn with
  | ind n ih =>
    by_cases hlt : n < 10
    · refine ⟨n.digitChar, [], Nat.toDigits_of_lt_base hlt, fun h => ?_⟩
      rw [Nat.digitChar_eq_zero] at h
      omega
    · obtain ⟨c, rest, hdigits, hc⟩ := ih (n / 10) (by omega) (by omega)
      refine ⟨c, rest ++ [(n % 10).digitChar], ?_, hc⟩
      rw [Nat.toDigits_of_base_le (by omega) (by omega), hdigits]
      rfl

theorem isDecimal_toDigits (n : Nat) : IsDecimal (Nat.toDigits 10 n) := by
  by_cases hn : n = 0
  · exact .inl (hn ▸ Nat.toDigits_zero 10)
  · obtain ⟨c, rest, hdigits, hc⟩ := toDigits_head_ne_zero (Nat.pos_of_ne_zero hn)
    exact .inr ⟨c, rest, hdigits, hc, fun d hd =>
      Nat.isDigit_of_mem_toDigits (by omega) (by omega) hd⟩

theorem toList_toString (n : Nat) : (toString n).toList = Nat.toDigits 10 n := by
  rw [Nat.toString_eq_ofList_toDigits, String.toList_ofList]

theorem toString_injective : Function.Injective fun n : Nat => toString n := by
  intro m n h
  have hdigits := congrArg (fun text => Nat.ofDigitChars 10 text.toList 0) h
  simpa [toList_toString] using hdigits

/-- Numbers and texts in decimal correspond to each other. -/
theorem isDecimal_iff : IsDecimal ds ↔ (toString (Nat.ofDigitChars 10 ds 0)).toList = ds := by
  rw [toList_toString]
  exact ⟨toDigits_of_isDecimal, fun h => h ▸ isDecimal_toDigits _⟩

end Text

/-! ## Tokens and steps -/

namespace Pointer

variable {i : Nat} {token : String} {cs : List Char}

theorem digits?_eq_some_iff : digits? cs = some i ↔
    cs ≠ [] ∧ (∀ d ∈ cs, d.isDigit = true) ∧ Nat.ofDigitChars 10 cs 0 = i := by
  have hvalue : cs.foldl (fun n c => n * 10 + (c.toNat - 48)) 0 = Nat.ofDigitChars 10 cs 0 := by
    rw [Nat.ofDigitChars_eq_foldl]
    congr 1
    funext n c
    rw [Nat.mul_comm]
    rfl
  unfold digits?
  rw [hvalue]
  cases cs <;> simp [and_assoc]

/-- What is read as an index: the index in decimal, or digits behind a plus sign. -/
def WritesIndex (i : Nat) (cs : List Char) : Prop :=
  Text.IsDecimal cs ∧ Nat.ofDigitChars 10 cs 0 = i ∨
    ∃ ds, cs = '+' :: ds ∧ ds ≠ [] ∧ (∀ d ∈ ds, d.isDigit = true) ∧ Nat.ofDigitChars 10 ds 0 = i

theorem writesIndex_toString (i : Nat) : WritesIndex i (toString i).toList := by
  rw [Text.toList_toString]
  exact .inl ⟨Text.isDecimal_toDigits i, Nat.ofDigitChars_ten_toDigits⟩

/-- An index can also be written with a sign. -/
theorem writesIndex_signed (i : Nat) : WritesIndex i ('+' :: (toString i).toList) := by
  rw [Text.toList_toString]
  exact .inr ⟨_, rfl, Nat.toDigits_ne_nil,
    fun d hd => Nat.isDigit_of_mem_toDigits (by omega) (by omega) hd, Nat.ofDigitChars_ten_toDigits⟩

theorem head?_of_isDecimal (h : Text.IsDecimal cs) : cs.head? ≠ some '+' := by
  rcases h with rfl | ⟨c, rest, rfl, -, hdigits⟩
  · decide
  · rintro ⟨⟩
    exact absurd (hdigits '+' (List.mem_cons_self ..)) (by decide)

/-- Without a sign an index is written in one way. -/
theorem WritesIndex.eq_toString_iff (h : WritesIndex i token.toList) :
    token = toString i ↔ token.toList.head? ≠ some '+' := by
  constructor
  · rintro rfl
    rw [Text.toList_toString]
    exact head?_of_isDecimal (Text.isDecimal_toDigits i)
  · intro hsign
    rcases h with ⟨hdecimal, rfl⟩ | ⟨ds, heq, -⟩
    · exact String.toList_inj.mp (Text.isDecimal_iff.mp hdecimal).symm
    · exact absurd (by rw [heq]; rfl) hsign

theorem index?_eq_some_iff :
    index? token = some i ↔ i < indexLimit ∧ WritesIndex i token.toList := by
  unfold index? WritesIndex
  generalize token.toList = cs
  simp only [Option.filter_eq_some_iff, decide_eq_true_eq]
  rw [and_comm]
  refine and_congr_right fun _ => ?_
  -- A lone zero, a leading zero, a sign, and everything else.
  split
  · simp [Text.IsDecimal, Nat.ofDigitChars_cons]
  · next rest hrest =>
    have hdecimal : ¬Text.IsDecimal ('0' :: rest) := by
      rintro (heq | ⟨c, rest', heq, hc, -⟩)
      · exact hrest (List.cons.inj heq).2
      · exact hc (List.cons.inj heq).1.symm
    simp [hdecimal]
  · next ds =>
    have hdecimal : ¬Text.IsDecimal ('+' :: ds) := fun h => head?_of_isDecimal h rfl
    simp [hdecimal, digits?_eq_some_iff]
  · next hlone hzero hplus =>
    have hdecimal : Text.IsDecimal cs ↔ cs ≠ [] ∧ ∀ d ∈ cs, d.isDigit = true := by
      cases cs with
      | nil => simp [Text.IsDecimal]
      | cons c rest =>
        have hc : c ≠ '0' := fun heq => hzero rest (by rw [heq])
        simp [Text.IsDecimal, hc]
    have hsign : ¬∃ ds, cs = '+' :: ds ∧ ds ≠ [] ∧ (∀ d ∈ ds, d.isDigit = true) ∧
        Nat.ofDigitChars 10 ds 0 = i := fun ⟨ds, heq, _⟩ => hplus ds heq
    rw [digits?_eq_some_iff, hdecimal, or_iff_left hsign, and_assoc]

end Pointer

/-- A token that leads the way of a step: a name to the member of that name, an index to an item. -/
inductive Segment.SpelledBy : Segment → String → Prop where
  | key (name : String) : SpelledBy (.key name) name
  | index {i : Nat} {token : String} (below : i < Pointer.indexLimit)
      (written : Pointer.WritesIndex i token.toList) : SpelledBy (.index i) token

/-- Whether a token leads to an item and has a sign. -/
def Segment.IsSigned (s : Segment) (token : String) : Prop :=
  (∃ i, s = .index i) ∧ token.toList.head? = some '+'

theorem Segment.SpelledBy.eq_token_iff {s : Segment} {token : String} (h : s.SpelledBy token) :
    token = s.token ↔ ¬s.IsSigned token := by
  cases h with
  | key name => exact iff_of_true rfl fun hsigned => nomatch hsigned.1.choose_spec
  | @index i _ _ written =>
    refine written.eq_toString_iff.trans (not_congr ?_)
    exact (and_iff_right ⟨i, rfl⟩).symm

namespace Json

variable {x child : Json} {s : Segment}

theorem takes_of_step? (h : x.step? s = some child) : x.takes s = true := by
  cases x <;> cases s <;> first | rfl | cases h

end Json

namespace Pointer

variable {tree x y value new : Json} {s : Segment} {path path' : List Segment} {token : String}
  {tokens other : List String}

theorem segment?_eq_some_iff :
    segment? x token = some s ↔ s.SpelledBy token ∧ x.takes s = true := by
  constructor
  · intro h
    cases x with
    | object ms =>
      cases h
      exact ⟨.key token, rfl⟩
    | array xs =>
      obtain ⟨i, hi, rfl⟩ := Option.map_eq_some_iff.mp h
      obtain ⟨hlimit, hwritten⟩ := index?_eq_some_iff.mp hi
      exact ⟨.index hlimit hwritten, rfl⟩
    | null | bool | number | string => cases h
  · rintro ⟨hspelled, htakes⟩
    cases hspelled with
    | key name => cases x <;> first | rfl | cases htakes
    | index below written =>
      cases x with
      | array xs =>
        rw [segment?, index?_eq_some_iff.mpr ⟨below, written⟩]
        rfl
      | _ => cases htakes

/-- The way that tokens spell, step by step. -/
def Spells (path : List Segment) (tokens : List String) : Prop :=
  List.Forall₂ Segment.SpelledBy path tokens

theorem child?_eq_some_iff :
    child? x token = some y ↔ ∃ s, s.SpelledBy token ∧ x.step? s = some y := by
  rw [child?_eq, Option.bind_eq_some_iff]
  refine exists_congr fun s => ?_
  rw [segment?_eq_some_iff, and_assoc]
  exact and_congr_right fun _ => and_iff_right_of_imp Json.takes_of_step?

/-- A pointer leads to where the path leads that it spells. -/
theorem lookup_eq_some_iff :
    lookup x tokens = some y ↔ ∃ path, Spells path tokens ∧ x.follow? path = some y := by
  induction tokens generalizing x with
  | nil => simp [lookup, Spells, Json.follow?]
  | cons token rest ih =>
    rw [lookup, Option.bind_eq_some_iff]
    constructor
    · rintro ⟨child, hchild, hrest⟩
      obtain ⟨s, hs, hstep⟩ := child?_eq_some_iff.mp hchild
      obtain ⟨path, hpath, hfollow⟩ := ih.mp hrest
      refine ⟨s :: path, .cons hs hpath, ?_⟩
      rw [Json.follow?, hstep]
      exact hfollow
    · rintro ⟨_, hpath, hfollow⟩
      cases hpath with
      | cons hs hrest =>
        obtain ⟨child, hstep, hfollow⟩ := Option.bind_eq_some_iff.mp hfollow
        exact ⟨child, child?_eq_some_iff.mpr ⟨_, hs, hstep⟩, ih.mpr ⟨_, hrest, hfollow⟩⟩

/-- And what is there is overwritten. -/
theorem overwrite_of_spells (hpath : Spells path tokens) (h : x.follow? path = some y) :
    overwrite x value tokens = some (x.putAt path value) := by
  induction hpath generalizing x with
  | nil =>
    cases x <;> rfl
  | @cons s token path rest hs _ ih =>
    obtain ⟨child, hstep, hfollow⟩ := Option.bind_eq_some_iff.mp h
    simp only [Json.putAt, hstep]
    cases hs with
    | key =>
      cases x with
      | object ms =>
        have hfind : OrderedMap.find? ms token = some child := hstep
        simp only [overwrite, hfind, ih hfollow, Option.map_some, Json.replace]
      | _ => cases hstep
    | @index i _ below written =>
      cases x with
      | array xs =>
        have hget : xs[i]? = some child := hstep
        have hindex := index?_eq_some_iff.mpr ⟨below, written⟩
        simp only [overwrite, hindex, hget, ih hfollow, Option.map_some, Json.replace]
      | _ => cases hstep

theorem overwrite_iff_putAt : overwrite x value tokens = some new ↔
    ∃ path, Spells path tokens ∧ (x.follow? path).isSome ∧ new = x.putAt path value := by
  constructor
  · intro h
    have hsome : (lookup x tokens).isSome := by
      rw [← overwrite_isSome x value, h]
      rfl
    obtain ⟨y, hy⟩ := Option.isSome_iff_exists.mp hsome
    obtain ⟨path, hpath, hfollow⟩ := lookup_eq_some_iff.mp hy
    rw [overwrite_of_spells hpath hfollow] at h
    exact ⟨path, hpath, by rw [hfollow]; rfl, (Option.some.inj h).symm⟩
  · rintro ⟨path, hpath, hsome, rfl⟩
    obtain ⟨y, hy⟩ := Option.isSome_iff_exists.mp hsome
    exact overwrite_of_spells hpath hy

/-- Tokens lead one way only: what a node is decides how the next one is read. -/
theorem path_unique (hpath : Spells path tokens) (hpath' : Spells path' tokens)
    (h : (x.follow? path).isSome) (h' : (x.follow? path').isSome) : path = path' := by
  obtain ⟨y, hy⟩ := Option.isSome_iff_exists.mp h
  obtain ⟨y', hy'⟩ := Option.isSome_iff_exists.mp h'
  induction hpath generalizing x path' with
  | nil =>
    cases hpath'
    rfl
  | cons hs _ ih =>
    cases hpath' with
    | cons hs' hrest' =>
      obtain ⟨child, hstep, hfollow⟩ := Option.bind_eq_some_iff.mp hy
      obtain ⟨child', hstep', hfollow'⟩ := Option.bind_eq_some_iff.mp hy'
      have hfirst := segment?_eq_some_iff.mpr ⟨hs, Json.takes_of_step? hstep⟩
      have hfirst' := segment?_eq_some_iff.mpr ⟨hs', Json.takes_of_step? hstep'⟩
      cases hfirst.symm.trans hfirst'
      cases hstep.symm.trans hstep'
      rw [ih hrest' (by rw [hfollow]; rfl) (by rw [hfollow']; rfl) hfollow hfollow']

/-! ## Different tokens -/

/-- Some token leads to an item and has a sign. -/
def Signed (path : List Segment) (tokens : List String) : Prop :=
  ∃ k ∈ path.zip tokens, k.1.IsSigned k.2

/-- Without signs the tokens are those of the path. -/
theorem Spells.eq_tokens_iff (h : Spells path tokens) :
    tokens = path.map Segment.token ↔ ¬Signed path tokens := by
  induction h with
  | nil => simp [Signed]
  | cons hs _ ih =>
    rw [List.map_cons, List.cons.injEq, hs.eq_token_iff, ih]
    simp [Signed, not_or]

/-- Every index can be spelled in another way. -/
theorem exists_ne_of_spelledBy {i : Nat} (h : (Segment.index i).SpelledBy token) :
    ∃ other, other ≠ token ∧ (Segment.index i).SpelledBy other := by
  cases h with
  | index below written =>
    by_cases hsign : token = toString i
    · refine ⟨String.ofList ('+' :: (toString i).toList), fun heq => ?_, .index below ?_⟩
      · have hlength := congrArg (fun s => s.toList.length) (heq.trans hsign)
        simp at hlength
      · rw [String.toList_ofList]
        exact writesIndex_signed i
    · exact ⟨toString i, Ne.symm hsign, .index below (writesIndex_toString i)⟩

theorem Spells.exists_ne {i : Nat} (h : Spells path tokens) (hi : .index i ∈ path) :
    ∃ other, other ≠ tokens ∧ Spells path other := by
  induction h with
  | nil => cases hi
  | @cons s token path rest hs hrest ih =>
    rcases List.mem_cons.mp hi with rfl | hi
    · obtain ⟨other, hne, hother⟩ := exists_ne_of_spelledBy hs
      exact ⟨other :: rest, fun heq => hne (List.cons.inj heq).1, .cons hother hrest⟩
    · obtain ⟨other, hne, hother⟩ := ih hi
      exact ⟨token :: other, fun heq => hne (List.cons.inj heq).2, .cons hs hother⟩

/-- How tokens address the nodes of a tree. -/
structure Addresses (tree : Json) : Prop where
  /-- An array is entered with what is read as the index of an item. -/
  item : ∀ {items token y}, child? (.array items) token = some y ↔
    ∃ i, i < indexLimit ∧ WritesIndex i token.toList ∧ items[i]? = some y
  read : ∀ {tokens y}, lookup tree tokens = some y ↔
    ∃ path, Spells path tokens ∧ tree.follow? path = some y
  written : ∀ {tokens value new}, overwrite tree value tokens = some new ↔
    ∃ path, Spells path tokens ∧ (tree.follow? path).isSome ∧ new = tree.putAt path value
  /-- Tokens address one place. -/
  place : ∀ {path path' tokens}, Spells path tokens → Spells path' tokens →
    (tree.follow? path).isSome → (tree.follow? path').isSome → path = path'
  /-- Different tokens address different places, unless one of them leads to an item with a sign. -/
  apart : ∀ {path tokens other}, Spells path tokens → Spells path other → tokens ≠ other →
    Signed path tokens ∨ Signed path other
  /-- Each place below an array has other tokens besides. -/
  aliased : ∀ {path tokens i}, Spells path tokens → .index i ∈ path →
    ∃ other, other ≠ tokens ∧ Spells path other
  /-- The same goes for references into one document: different identities, different places. -/
  identities : ∀ {r r' : Reference} {path}, r.Built → r'.Built → r.error = none → r'.error = none →
    r.urlText = r'.urlText → Spells path r.pointer.tokens → Spells path r'.pointer.tokens →
    r.id ≠ r'.id → Signed path r.pointer.tokens ∨ Signed path r'.pointer.tokens

theorem apart_or_signed (h : Spells path tokens) (h' : Spells path other) (hne : tokens ≠ other) :
    Signed path tokens ∨ Signed path other := by
  by_contra hnot
  obtain ⟨hsigned, hsigned'⟩ := not_or.mp hnot
  exact hne ((h.eq_tokens_iff.mpr hsigned).trans (h'.eq_tokens_iff.mpr hsigned').symm)

/-- Pointers without signs address different places, and there are signed ones to every item. -/
theorem addresses (tree : Json) : Addresses tree where
  item {items token y} := by
    rw [child?, Option.bind_eq_some_iff]
    simp only [index?_eq_some_iff, and_assoc]
  read := lookup_eq_some_iff
  written := overwrite_iff_putAt
  place := path_unique
  apart := apart_or_signed
  aliased := Spells.exists_ne
  identities {r r' path} hr hr' hvalid hvalid' hurl h h' hne := by
    refine apart_or_signed h h' fun heq => hne ?_
    rw [hr.consistent.id_eq hvalid, hr'.consistent.id_eq hvalid', Reference.placeId_eq_iff]
    exact ⟨hurl, congrArg Pointer.mk heq⟩

/-- An item with two pointers. -/
example : lookup (.array [.null, .bool true]) ["1"] = some (.bool true) ∧
    lookup (.array [.null, .bool true]) ["+01"] = some (.bool true) := by decide

end Pointer

end ApiBundle
