import ApiBundle.Bundle

/-!
# The store stays consistent

What the store of documents promises between steps, as one invariant, and what every operation does
to it. The promises that hold whatever is done to a store are kept apart (`Store.Sound`): a run asks
for one more, that exactly the invalid references have no tree (`Store.WF`). `Store.Sound.load` says that looking a reference up always gives a content of its identity, and
adds only contents that fit (`Store.Fits`); `Store.write_cases` says how a write ends. Contents
are never removed, and keep their references and their kinds (`Store.Extends`).
-/

namespace ApiBundle

/-- What a body is, without its tree. -/
def Body.kind : Body → Body
  | .document _ => .document .null
  | body => body

namespace Store

/-- What the store promises between steps. -/
structure WF (s : Store) : Prop where
  /-- A cached number is that of a content of that identity. -/
  cached : ∀ {i id}, OrderedMap.find? s.cache i = some id →
    ∃ c, s.content? id = some c ∧ c.reference.id = i
  /-- Every content is found under its identity. -/
  indexed : ∀ {id c}, s.content? id = some c → OrderedMap.find? s.cache c.reference.id = some id
  /-- A document is a whole one. -/
  whole : ∀ {id c tree}, s.content? id = some c → c.body = .document tree →
    c.reference.fragment = none
  /-- A place lies in a document of the same URL. -/
  owned : ∀ {id c d}, s.content? id = some c → c.body = .subtree d →
    c.reference.fragment.isSome ∧ ∃ o tree, s.content? d = some o ∧ o.body = .document tree ∧
      o.reference.urlText = c.reference.urlText
  /-- The contents without a tree are those that say why. -/
  faulty : ∀ {id c}, s.content? id = some c → (c.body = .invalid ↔ c.reference.error.isSome)

/--
What the store promises also to those who take in documents under a reference that is invalid: such
a content has a tree all the same.
-/
structure Sound (s : Store) : Prop where
  /-- A cached number is that of a content of that identity. -/
  cached : ∀ {i id}, OrderedMap.find? s.cache i = some id →
    ∃ c, s.content? id = some c ∧ c.reference.id = i
  /-- Every content is found under its identity. -/
  indexed : ∀ {id c}, s.content? id = some c → OrderedMap.find? s.cache c.reference.id = some id
  /-- A document is a whole one. -/
  whole : ∀ {id c tree}, s.content? id = some c → c.body = .document tree →
    c.reference.fragment = none
  /-- A place lies in a document of the same URL. -/
  owned : ∀ {id c d}, s.content? id = some c → c.body = .subtree d →
    c.reference.fragment.isSome ∧ ∃ o tree, s.content? d = some o ∧ o.body = .document tree ∧
      o.reference.urlText = c.reference.urlText
  /-- A content without a tree says why. -/
  explained : ∀ {id c}, s.content? id = some c → c.body = .invalid → c.reference.error.isSome

/-- Nothing is removed, and what contents are is not changed. -/
structure Extends (s s' : Store) : Prop where
  content : ∀ {id c}, s.content? id = some c → ∃ c', s'.content? id = some c' ∧
    c'.reference = c.reference ∧ c'.start = c.start ∧ c'.body.kind = c.body.kind
  cache : ∀ {i id}, OrderedMap.find? s.cache i = some id → OrderedMap.find? s'.cache i = some id

namespace Extends

theorem refl (s : Store) : s.Extends s := ⟨fun h => ⟨_, h, rfl, rfl, rfl⟩, id⟩

theorem trans {s s' s'' : Store} (h : s.Extends s') (h' : s'.Extends s'') : s.Extends s'' := by
  refine ⟨fun hc => ?_, fun hi => h'.cache (h.cache hi)⟩
  obtain ⟨c', hc', hr, hs, hb⟩ := h.content hc
  obtain ⟨c'', hc'', hr', hs', hb'⟩ := h'.content hc'
  exact ⟨c'', hc'', hr'.trans hr, hs'.trans hs, hb'.trans hb⟩

end Extends

/-! ## Adding contents -/

/-- The store with one more content. -/
def add (s : Store) (c : Content) : Store :=
  { s with contents := s.contents ++ [c],
           cache := OrderedMap.put s.cache c.reference.id s.contents.length }

/-- The contents that a lookup may add: failures, retrieved documents, and places in documents. -/
inductive Fits (source : Source) (s : Store) : Content → Prop where
  | invalid {r : Reference} {start : Option Nat} (faulty : r.error.isSome) :
    Fits source s ⟨r, .invalid, start⟩
  | document {r : Reference} {url : Uri} {tree : Json} {start : Option Nat} (valid : r.error = none)
      (whole : r.fragment = none) (hurl : r.url = some url)
      (hread : retrieve source url = .ok tree) : Fits source s ⟨r, .document tree, start⟩
  | subtree {r : Reference} {d : ContentId} {o : Content} {tree : Json} {start : Option Nat}
      (valid : r.error = none) (part : r.fragment.isSome) (owner : s.content? d = some o)
      (body : o.body = .document tree) (hurl : o.reference.urlText = r.urlText)
      (found : (r.pointer.find? tree).isSome) : Fits source s ⟨r, .subtree d, start⟩

/-- One store comes out of another by lookups. -/
inductive Grows (source : Source) : Store → Store → Prop where
  | refl {s : Store} : Grows source s s
  | ask {s s' : Store} {requests : List Uri} (before : Grows source s s') :
    Grows source s { s' with requests := requests }
  | add {s s' : Store} {c : Content} (before : Grows source s s')
      (fresh : OrderedMap.find? s'.cache c.reference.id = none) (fits : Fits source s' c) :
    Grows source s (s'.add c)

variable {source : Source} {s s' : Store}

theorem Grows.trans {s'' : Store} (h : Grows source s s') (h' : Grows source s' s'') :
    Grows source s s'' := by
  induction h' with
  | refl => exact h
  | ask _ ih => exact .ask ih
  | add _ fresh fits ih => exact .add ih fresh fits

theorem content?_add {c : Content} {id : ContentId} :
    (s.add c).content? id = if id = s.contents.length then some c else s.content? id := by
  unfold add content?
  rcases Nat.lt_trichotomy id s.contents.length with h | h | h
  · rw [List.getElem?_append_left h, if_neg (Nat.ne_of_lt h)]
  · subst h
    simp
  · have hle : (s.contents ++ [c]).length ≤ id := by
      rw [List.length_append]
      exact h
    rw [List.getElem?_eq_none hle, if_neg (Nat.ne_of_gt h), List.getElem?_eq_none (Nat.le_of_lt h)]

theorem lt_of_content? {c : Content} {id : ContentId} (h : s.content? id = some c) :
    id < s.contents.length :=
  (List.getElem?_eq_some_iff.mp h).1

theorem content?_add_of_content? {c c' : Content} {id : ContentId} (h : s.content? id = some c) :
    (s.add c').content? id = some c := by
  rw [content?_add, if_neg (Nat.ne_of_lt (lt_of_content? h)), h]

theorem extends_add {c : Content} (fresh : OrderedMap.find? s.cache c.reference.id = none) :
    s.Extends (s.add c) := by
  refine ⟨fun h => ⟨_, content?_add_of_content? h, rfl, rfl, rfl⟩, fun {i id} h => ?_⟩
  have hne : c.reference.id ≠ i := by
    rintro rfl
    rw [fresh] at h
    cases h
  unfold add
  rw [OrderedMap.find?_put, if_neg hne, h]

theorem Grows.extends (h : Grows source s s') : s.Extends s' := by
  induction h with
  | refl => exact .refl _
  | ask _ ih => exact ⟨ih.content, ih.cache⟩
  | add _ fresh _ ih => exact ih.trans (extends_add fresh)

namespace Sound

theorem empty : Sound Store.empty := by
  refine ⟨?_, ?_, ?_, ?_, ?_⟩ <;> intros <;> simp_all [Store.empty, content?, OrderedMap.find?]

/-- Any content may be added that keeps the promises about single contents. -/
theorem addContent (h : s.Sound) {c : Content}
    (fresh : OrderedMap.find? s.cache c.reference.id = none)
    (hwhole : ∀ {tree}, c.body = .document tree → c.reference.fragment = none)
    (howned : ∀ {d}, c.body = .subtree d → c.reference.fragment.isSome ∧ ∃ o tree,
      s.content? d = some o ∧ o.body = .document tree ∧
        o.reference.urlText = c.reference.urlText)
    (hexplained : c.body = .invalid → c.reference.error.isSome) : (s.add c).Sound := by
  refine ⟨?_, ?_, ?_, ?_, ?_⟩
  · intro i id hi
    unfold add at hi
    rw [OrderedMap.find?_put] at hi
    split at hi
    · next heq =>
      cases hi
      exact ⟨c, by rw [content?_add, if_pos rfl], heq⟩
    · obtain ⟨c', hc', hid⟩ := h.cached hi
      exact ⟨c', content?_add_of_content? hc', hid⟩
  · intro id c' hc'
    rw [content?_add] at hc'
    unfold add
    rw [OrderedMap.find?_put]
    split at hc'
    · next heq =>
      cases hc'
      rw [if_pos rfl, heq]
    · have hfound := h.indexed hc'
      rw [if_neg, hfound]
      intro heq
      rw [heq, hfound] at fresh
      cases fresh
  · intro id c' tree hc' hb
    rw [content?_add] at hc'
    split at hc'
    · cases hc'
      exact hwhole hb
    · exact h.whole hc' hb
  · intro id c' d hc' hb
    rw [content?_add] at hc'
    split at hc'
    · cases hc'
      obtain ⟨hpart, o, tree, ho, hrest⟩ := howned hb
      exact ⟨hpart, o, tree, content?_add_of_content? ho, hrest⟩
    · obtain ⟨hpart, o, tree, ho, hrest⟩ := h.owned hc' hb
      exact ⟨hpart, o, tree, content?_add_of_content? ho, hrest⟩
  · intro id c' hc' hb
    rw [content?_add] at hc'
    split at hc'
    · cases hc'
      exact hexplained hb
    · exact h.explained hc' hb

/-- What fits may be added. -/
theorem add (h : s.Sound) {c : Content} (fresh : OrderedMap.find? s.cache c.reference.id = none)
    (fits : Fits source s c) : (s.add c).Sound := by
  cases fits with
  | invalid faulty => exact h.addContent fresh nofun nofun fun _ => faulty
  | document valid whole hurl hread => exact h.addContent fresh (fun _ => whole) nofun nofun
  | subtree valid part owner body hurl found =>
    refine h.addContent fresh nofun (fun hb => ?_) nofun
    cases hb
    exact ⟨part, _, _, owner, body, hurl⟩

theorem ask (h : s.Sound) (requests : List Uri) : Sound { s with requests := requests } :=
  ⟨h.cached, h.indexed, h.whole, h.owned, h.explained⟩

theorem grows (h : s.Sound) (hg : Grows source s s') : s'.Sound := by
  induction hg with
  | refl => exact h
  | ask _ ih => exact ih.ask _
  | add _ fresh fits ih => exact ih.add fresh fits

end Sound

namespace WF

theorem sound (h : s.WF) : s.Sound :=
  ⟨h.cached, h.indexed, h.whole, h.owned, fun hc => (h.faulty hc).mp⟩

theorem of_sound (h : s.Sound) (hfaulty : ∀ {id c}, s.content? id = some c →
    c.reference.error.isSome → c.body = .invalid) : s.WF :=
  ⟨h.cached, h.indexed, h.whole, h.owned, fun hc => ⟨h.explained hc, hfaulty hc⟩⟩

theorem empty : WF Store.empty := .of_sound .empty fun hc => by simp [Store.empty, content?] at hc

theorem addContent (h : s.WF) {c : Content}
    (fresh : OrderedMap.find? s.cache c.reference.id = none)
    (hwhole : ∀ {tree}, c.body = .document tree → c.reference.fragment = none)
    (howned : ∀ {d}, c.body = .subtree d → c.reference.fragment.isSome ∧ ∃ o tree,
      s.content? d = some o ∧ o.body = .document tree ∧
        o.reference.urlText = c.reference.urlText)
    (hfaulty : c.body = .invalid ↔ c.reference.error.isSome) : (s.add c).WF := by
  refine .of_sound (h.sound.addContent fresh hwhole howned hfaulty.mp) fun {id c'} hc' herror => ?_
  rw [content?_add] at hc'
  split at hc'
  · cases hc'
    exact hfaulty.mpr herror
  · exact (h.faulty hc').mpr herror

/-- What fits may be added. -/
theorem add (h : s.WF) {c : Content} (fresh : OrderedMap.find? s.cache c.reference.id = none)
    (fits : Fits source s c) : (s.add c).WF := by
  refine .of_sound (h.sound.add fresh fits) fun {id c'} hc' herror => ?_
  rw [content?_add] at hc'
  split at hc'
  · cases hc'
    cases fits with
    | invalid => rfl
    | document valid | subtree valid => simp [valid] at herror
  · exact (h.faulty hc').mpr herror

theorem ask (h : s.WF) (requests : List Uri) : WF { s with requests := requests } :=
  ⟨h.cached, h.indexed, h.whole, h.owned, h.faulty⟩

theorem grows (h : s.WF) (hg : Grows source s s') : s'.WF := by
  induction hg with
  | refl => exact h
  | ask _ ih => exact ih.ask _
  | add _ fresh fits ih => exact ih.add fresh fits

end WF

/-! ## Looking references up -/

theorem create_fresh {r : Reference} (fresh : OrderedMap.find? s.cache r.id = none) (body : Body)
    (start : Option Nat) :
    s.create r body start = (.ok s.contents.length, s.add ⟨r, body, start⟩) := by
  simp [create, OrderedMap.contains, fresh, add]

theorem find?_add_self {c : Content} :
    OrderedMap.find? (s.add c).cache c.reference.id = some s.contents.length := by
  unfold add
  rw [OrderedMap.find?_put, if_pos rfl]

/-- A lookup gives a number under which the identity is cached, and adds what fits. -/
def Looks (source : Source) (s : Store) (i : RefId)
    (result : Except BundleError ContentId × Store) : Prop :=
  ∃ id, result.1 = .ok id ∧ Grows source s result.2 ∧
    OrderedMap.find? result.2.cache i = some id

theorem looks_create {r : Reference} {body : Body} {start : Option Nat}
    (fresh : OrderedMap.find? s.cache r.id = none) (fits : Fits source s ⟨r, body, start⟩) :
    Looks source s r.id (s.create r body start) := by
  rw [create_fresh fresh]
  exact ⟨_, rfl, .add .refl fresh fits, find?_add_self (c := ⟨r, body, start⟩)⟩

theorem markInvalid_isSome (r : Reference) (e : ReferenceError) :
    (r.markInvalid e).error.isSome := by
  unfold Reference.markInvalid
  cases r.error <;> rfl

theorem looks_fetch {r : Reference} {start : Option Nat} (hwhole : r.fragment = none)
    (hvalid : r.error = none) (fresh : OrderedMap.find? s.cache r.id = none) :
    Looks source s r.id (s.fetch source r start) := by
  unfold fetch
  cases hurl : r.url with
  | none => exact looks_create (r := r.markInvalid _) fresh (.invalid (markInvalid_isSome _ _))
  | some url =>
    simp only
    have lift {result : Except BundleError ContentId × Store}
        (h : Looks source { s with requests := s.requests ++ [url] } r.id result) :
        Looks source s r.id result := by
      obtain ⟨id, hid, hgrows, hfound⟩ := h
      exact ⟨id, hid, (Grows.ask .refl).trans hgrows, hfound⟩
    cases hread : retrieve source url with
    | error e =>
      exact lift (looks_create (r := r.markInvalid _) fresh (.invalid (markInvalid_isSome _ _)))
    | ok tree => exact lift (looks_create fresh (.document hvalid hwhole hurl hread))

theorem looks_view {d : ContentId} {o : Content} {r : Reference} {start : Option Nat}
    (h : s.Sound) (ho : s.content? d = some o) (hurl : o.reference.urlText = r.urlText)
    (hdoc : o.reference.fragment = none) (hpart : r.fragment.isSome) (hvalid : r.error = none)
    (fresh : OrderedMap.find? s.cache r.id = none) :
    Looks source s r.id (s.view d r start) := by
  unfold view
  rw [ho]
  simp only [Option.bind_some]
  cases herr : o.reference.error with
  | some e => exact looks_create (r := r.markInvalid e) fresh (.invalid (markInvalid_isSome _ _))
  | none =>
    simp only
    -- without an error, and being a whole document, the owner has a tree
    have hbody : ∃ tree, o.body = .document tree := by
      cases hb : o.body with
      | document tree => exact ⟨tree, rfl⟩
      | subtree d' =>
        have hsome := (h.owned ho hb).1
        rw [hdoc] at hsome
        cases hsome
      | invalid =>
        have hsome := h.explained ho hb
        rw [herr] at hsome
        cases hsome
    obtain ⟨tree, hb⟩ := hbody
    have htree : s.tree? d = some tree := by
      simp [tree?, ho, hb]
    rw [htree]
    simp only [Option.bind_some]
    split
    · next hfound => exact looks_create fresh (.subtree hvalid hpart ho hb hurl hfound)
    · exact looks_create (r := r.markInvalid _) fresh (.invalid (markInvalid_isSome _ _))

theorem find?_create_of_ne {r : Reference} {body : Body} {start : Option Nat} {i : RefId}
    (hne : r.id ≠ i) :
    OrderedMap.find? (s.create r body start).2.cache i = OrderedMap.find? s.cache i := by
  unfold create
  split
  · rfl
  · simp [OrderedMap.find?_put, hne]

/-- Looking a document up leaves all other identities alone. -/
theorem find?_document_of_ne {r : Reference} {start : Option Nat} {i : RefId} (hne : r.id ≠ i) :
    OrderedMap.find? (s.document source r start).2.cache i = OrderedMap.find? s.cache i := by
  unfold document
  split
  · rfl
  · unfold fetch
    split
    · exact find?_create_of_ne (r := r.markInvalid _) hne
    · simp only
      split
      · exact find?_create_of_ne (s := { s with requests := _ }) hne
      · exact find?_create_of_ne (s := { s with requests := _ }) (r := r.markInvalid _) hne

/-- Looking a reference up never fails, and gives the content of its identity. -/
theorem Sound.load (h : s.Sound) (source : Source) (r : Reference) (start : Option Nat) :
    Looks source s r.id (s.load source r start) := by
  unfold Store.load
  cases hget : s.get? r with
  | some id => exact ⟨id, rfl, .refl, hget⟩
  | none =>
    simp only
    cases hvalid : r.error with
    | some e =>
      simp only [Reference.isValid, hvalid, Option.isNone_some, Bool.not_false, if_true]
      exact looks_create hget (.invalid (by simp [hvalid]))
    | none =>
      simp only [Reference.isValid, hvalid, Option.isNone_none, Bool.not_true, Bool.false_eq_true,
        if_false]
      have hdocument : Looks source s r.documentRef.id (s.document source r.documentRef start) := by
        unfold document
        cases hdoc : s.get? r.documentRef with
        | some id => exact ⟨id, rfl, .refl, hdoc⟩
        | none => exact looks_fetch rfl (by simp [Reference.documentRef, hvalid]) hdoc
      obtain ⟨d, hd, hgrows, hfound⟩ := hdocument
      cases hs : s.document source r.documentRef start with
      | mk result s₁ =>
        rw [hs] at hd hgrows hfound
        simp only at hd hgrows hfound
        subst hd
        simp only
        by_cases hdoc : r.isDocument = true
        · rw [if_pos hdoc]
          have hnone : r.fragment = none := by simpa [Reference.isDocument] using hdoc
          have hid : r.documentRef.id = r.id := by
            simp [Reference.documentRef, Reference.id, hnone]
          exact ⟨d, rfl, hgrows, hid ▸ hfound⟩
        · rw [if_neg hdoc]
          have hpart : r.fragment.isSome := by
            simpa [Reference.isDocument, Option.isSome_iff_ne_none] using hdoc
          obtain ⟨o, ho, hoid⟩ := (h.grows hgrows).cached hfound
          have hourl : o.reference.urlText = r.urlText := congrArg RefId.url hoid
          have hofrag : o.reference.fragment = none := congrArg RefId.fragment hoid
          have hfresh : OrderedMap.find? s₁.cache r.id = none := by
            have hne : r.documentRef.id ≠ r.id := by
              intro heq
              have hfrag : none = r.fragment := congrArg RefId.fragment heq
              rw [← hfrag] at hpart
              cases hpart
            have hkeep : OrderedMap.find? (s.document source r.documentRef start).2.cache r.id =
                OrderedMap.find? s.cache r.id := find?_document_of_ne hne
            rw [hs] at hkeep
            exact hkeep.trans hget
          obtain ⟨id, hid, hg, hf⟩ : Looks source s₁ r.id (s₁.view d r start) :=
            looks_view (h.grows hgrows) ho hourl hofrag hpart hvalid hfresh
          exact ⟨id, hid, hgrows.trans hg, hf⟩

theorem WF.load (h : s.WF) (source : Source) (r : Reference) (start : Option Nat) :
    Looks source s r.id (s.load source r start) :=
  h.sound.load source r start

/-! ### What lookups add -/

theorem content?_create {r : Reference} {body : Body} {start : Option Nat} {id : ContentId}
    {c : Content} (hc : (s.create r body start).2.content? id = some c) :
    s.content? id = some c ∨ c = ⟨r, body, start⟩ := by
  unfold create at hc
  split at hc
  · exact .inl hc
  · change (s.add ⟨r, body, start⟩).content? id = some c at hc
    rw [content?_add] at hc
    split at hc
    · exact .inr (Option.some.inj hc).symm
    · exact .inl hc

/-- The contents that the lookup of a reference may add are about that reference. -/
theorem content?_load {r : Reference} {start : Option Nat} {id : ContentId} {c : Content}
    (hc : (s.load source r start).2.content? id = some c) :
    s.content? id = some c ∨ c.body = .invalid ∨
      (r.error = none ∧ ∃ url tree, r.url = some url ∧ retrieve source url = .ok tree ∧
        c = ⟨r.documentRef, .document tree, start⟩) ∨
      (r.error = none ∧ ∃ d, c = ⟨r, .subtree d, start⟩) := by
  have lost {s' : Store} {r : Reference}
      (hc : (s'.create r .invalid start).2.content? id = some c) :
      s'.content? id = some c ∨ c.body = .invalid := by
    rcases content?_create hc with hold | rfl
    · exact .inl hold
    · exact .inr rfl
  have document (hvalid : r.error = none)
      (hc : (s.document source r.documentRef start).2.content? id = some c) :
      s.content? id = some c ∨ c.body = .invalid ∨
        (r.error = none ∧ ∃ url tree, r.url = some url ∧ retrieve source url = .ok tree ∧
          c = ⟨r.documentRef, .document tree, start⟩) ∨
        (r.error = none ∧ ∃ d, c = ⟨r, .subtree d, start⟩) := by
    unfold Store.document fetch at hc
    split at hc
    · exact .inl hc
    · split at hc
      · exact (lost hc).imp_right .inl
      · next url hurl =>
        split at hc
        · next tree hread =>
          rcases content?_create hc with hold | rfl
          · exact .inl hold
          · exact .inr (.inr (.inl ⟨hvalid, url, tree, hurl, hread, rfl⟩))
        · exact (lost hc :).imp_right .inl
  unfold load at hc
  split at hc
  · exact .inl hc
  · split at hc
    · exact (lost hc).imp_right .inl
    · next hvalid =>
      have hvalid : r.error = none := by simpa [Reference.isValid] using hvalid
      generalize hdoc : s.document source r.documentRef start = looked at hc
      obtain ⟨result, s₁⟩ := looked
      have hdoc : s₁ = (s.document source r.documentRef start).2 := by rw [hdoc]
      cases result with
      | error e => exact document hvalid (hdoc ▸ hc)
      | ok d =>
        simp only at hc
        split at hc
        · exact document hvalid (hdoc ▸ hc)
        · unfold view at hc
          split at hc
          · exact (lost hc).elim (fun hold => document hvalid (hdoc ▸ hold)) fun h => .inr (.inl h)
          · split at hc
            · rcases content?_create hc with hold | rfl
              · exact document hvalid (hdoc ▸ hold)
              · exact .inr (.inr (.inr ⟨hvalid, d, rfl⟩))
            · exact (lost hc).elim (fun hold => document hvalid (hdoc ▸ hold)) fun h =>
                .inr (.inl h)

/-! ## Writing trees -/

theorem content?_setBody {id : ContentId} {body : Body} {j : ContentId} :
    (s.setBody id body).content? j =
      if id = j then (s.content? j).map fun c => { c with body := body } else s.content? j := by
  unfold setBody content?
  rw [List.getElem?_modify]
  split <;> simp [*]

/-- The ways in which a write ends. -/
inductive Writes (s : Store) (id : ContentId) (tree : Json) : Except BundleError Store → Prop where
  | whole {c : Content} {old : Json} (content : s.content? id = some c)
      (body : c.body = .document old) : Writes s id tree (.ok (s.setBody id (.document tree)))
  | part {c o : Content} {d : ContentId} {old new : Json} (content : s.content? id = some c)
      (body : c.body = .subtree d) (owner : s.content? d = some o) (hold : o.body = .document old)
      (hset : c.reference.pointer.set? old tree = some new) :
      Writes s id tree (.ok (s.setBody d (.document new)))
  | vanished {c o : Content} {d : ContentId} {old : Json} (content : s.content? id = some c)
      (body : c.body = .subtree d) (owner : s.content? d = some o) (hold : o.body = .document old)
      (hset : c.reference.pointer.set? old tree = none) :
      Writes s id tree (.error (.subtreeVanished c.reference.display))

/-- A write to a content that has a tree ends in one of these ways. -/
theorem Sound.write (h : s.Sound) {id : ContentId} {c : Content} (hc : s.content? id = some c)
    (hbody : c.body ≠ .invalid) (tree : Json) : Writes s id tree (s.write id tree) := by
  unfold Store.write
  simp only [hc]
  cases hb : c.body with
  | document old => exact .whole hc hb
  | subtree d =>
    obtain ⟨_, o, old, ho, hob, _⟩ := h.owned hc hb
    simp only [documentTree?, ho, Option.map_some, hob, Option.bind_some]
    cases hset : c.reference.pointer.set? old tree with
    | some new => exact .part hc hb ho hob hset
    | none => exact .vanished hc hb ho hob hset
  | invalid => exact absurd hb hbody

theorem WF.write (h : s.WF) {id : ContentId} {c : Content} (hc : s.content? id = some c)
    (hbody : c.body ≠ .invalid) (tree : Json) : Writes s id tree (s.write id tree) :=
  h.sound.write hc hbody tree

theorem extends_setDocument {d : ContentId} {o : Content} {old tree : Json}
    (ho : s.content? d = some o) (hb : o.body = .document old) :
    s.Extends (s.setBody d (.document tree)) := by
  refine ⟨fun {id c} hc => ?_, fun hi => hi⟩
  rw [content?_setBody]
  split
  · next heq =>
    subst heq
    rw [ho] at hc
    cases hc
    rw [ho]
    exact ⟨_, rfl, rfl, rfl, by rw [hb]; rfl⟩
  · exact ⟨c, hc, rfl, rfl, rfl⟩

/-- The contents of a store in which a document was replaced. -/
theorem content?_setDocument {d : ContentId} {o c : Content} {tree : Json} {id : ContentId}
    (ho : s.content? d = some o) (hc : (s.setBody d (.document tree)).content? id = some c) :
    (c.body = .document tree ∧ id = d ∧ c.reference = o.reference) ∨
      (id ≠ d ∧ s.content? id = some c) := by
  rw [content?_setBody] at hc
  split at hc
  · next heq =>
    subst heq
    rw [ho] at hc
    cases hc
    exact .inl ⟨rfl, rfl, rfl⟩
  · next hne => exact .inr ⟨fun heq => hne heq.symm, hc⟩

/-- A document may be replaced. -/
theorem Sound.setDocument (h : s.Sound) {d : ContentId} {o : Content} {old tree : Json}
    (ho : s.content? d = some o) (hb : o.body = .document old) :
    (s.setBody d (.document tree)).Sound := by
  refine ⟨?_, ?_, ?_, ?_, ?_⟩
  · intro i id hi
    obtain ⟨c, hc, hid⟩ := h.cached hi
    have hext : s.Extends (s.setBody d (.document tree)) := extends_setDocument ho hb
    obtain ⟨c', hc', href, -⟩ := hext.content hc
    exact ⟨c', hc', by rw [href, hid]⟩
  · intro id c hc
    rcases content?_setDocument ho hc with ⟨-, rfl, href⟩ | ⟨-, hc⟩
    · rw [href]
      exact h.indexed ho
    · exact h.indexed hc
  · intro id c t hc hbody
    rcases content?_setDocument ho hc with ⟨-, -, href⟩ | ⟨-, hc⟩
    · rw [href]
      exact h.whole ho hb
    · exact h.whole hc hbody
  · intro id c d' hc hbody
    rcases content?_setDocument ho hc with ⟨hdoc, -, -⟩ | ⟨-, hc⟩
    · rw [hdoc] at hbody
      cases hbody
    · obtain ⟨hpart, o', t, ho', hb', hurl⟩ := h.owned hc hbody
      refine ⟨hpart, ?_⟩
      rw [content?_setBody]
      split
      · rw [ho']
        exact ⟨_, tree, rfl, rfl, hurl⟩
      · exact ⟨o', t, ho', hb', hurl⟩
  · intro id c hc hbody
    rcases content?_setDocument ho hc with ⟨hdoc, -, -⟩ | ⟨-, hc⟩
    · rw [hdoc] at hbody
      cases hbody
    · exact h.explained hc hbody

theorem WF.setDocument (h : s.WF) {d : ContentId} {o : Content} {old tree : Json}
    (ho : s.content? d = some o) (hb : o.body = .document old) :
    (s.setBody d (.document tree)).WF := by
  refine .of_sound (h.sound.setDocument ho hb) fun {id c} hc herror => ?_
  rcases content?_setDocument ho hc with ⟨-, -, href⟩ | ⟨-, hc⟩
  · have hinvalid := (h.faulty ho).mpr (href ▸ herror)
    rw [hb] at hinvalid
    cases hinvalid
  · exact (h.faulty hc).mpr herror

/-- A successful write keeps what the store promises. -/
theorem Writes.wf {id : ContentId} {tree : Json} (hw : Writes s id tree (.ok s')) (h : s.WF) :
    s'.WF ∧ s.Extends s' := by
  cases hw with
  | whole content body => exact ⟨h.setDocument content body, extends_setDocument content body⟩
  | part _ _ owner hold _ => exact ⟨h.setDocument owner hold, extends_setDocument owner hold⟩

end Store

end ApiBundle
