import ApiBundle.Proofs.Store.Invariant
import ApiBundle.Proofs.Tree.Kept

/-!
# Documents stay what they were

The documents in the store are worked on in place. `Store.Faithful` says that each of them is still
what its original tree has become by replacing reference nodes (`Json.Kept`), and that every place
in a document that was found there is a place of the original, unless the pointer to it passes a
volatile node. Lookups and writes preserve this, and a write can only fail at a place behind a
volatile node.
-/

namespace ApiBundle.Store

open Json

variable {source : Source} {original : Reference → Option Json} {s s' : Store}

/-- The documents are what their original trees have become. -/
structure Faithful (source : Source) (original : Reference → Option Json) (s : Store) :
    Prop where
  /-- A document that is retrieved later is its own original. -/
  unread : ∀ {r url t}, OrderedMap.find? s.cache r.id = none → r.url = some url →
    retrieve source url = .ok t → original r = some t
  document : ∀ {id c u}, s.content? id = some c → c.body = .document u →
    ∃ t, original c.reference = some t ∧ Kept t u
  place : ∀ {id c d o t}, s.content? id = some c → c.body = .subtree d → s.content? d = some o →
    original o.reference = some t → ¬PassesVolatile t c.reference.pointer.tokens →
    (c.reference.pointer.find? t).isSome

/--
The failure of a write to a place that is gone. The place was looked up before, and the pointer to
it passes a volatile node of the document's original.
-/
def Vanishing (original : Reference → Option Json) (s : Store) (e : BundleError) : Prop :=
  ∃ id c d o t, s.content? id = some c ∧ c.body = .subtree d ∧ s.content? d = some o ∧
    original o.reference = some t ∧ PassesVolatile t c.reference.pointer.tokens ∧
    s.tree? id = none ∧ e = .subtreeVanished c.reference.display

namespace Faithful

/-- Adding what fits. -/
theorem add (h : s.Faithful source original) (hwf : s.WF) {c : Content}
    (fresh : OrderedMap.find? s.cache c.reference.id = none) (fits : Fits source s c) :
    (s.add c).Faithful source original := by
  -- the owner of a place was there before: documents are added without places
  have owner : ∀ {d o}, (s.add c).content? d = some o → (s.content? d).isSome →
      s.content? d = some o := by
    intro d o ho hsome
    obtain ⟨o', ho'⟩ := Option.isSome_iff_exists.mp hsome
    rw [content?_add_of_content? ho'] at ho
    rw [ho', ho]
  refine ⟨fun hr hurl hread => h.unread ?_ hurl hread, fun {id c' u} hc' hb => ?_,
    fun {id c' d o t} hc' hb ho ht hfirm => ?_⟩
  · rename_i r url t
    cases hold : OrderedMap.find? s.cache r.id with
    | none => rfl
    | some id =>
      rw [(extends_add fresh).cache hold] at hr
      cases hr
  · rw [content?_add] at hc'
    split at hc'
    · cases hc'
      cases fits with
      | invalid => cases hb
      | subtree => cases hb
      | document valid whole hurl hread =>
        cases hb
        exact ⟨u, h.unread fresh hurl hread, .refl u⟩
    · exact h.document hc' hb
  · rw [content?_add] at hc'
    split at hc'
    · cases hc'
      cases fits with
      | invalid => cases hb
      | document => cases hb
      | subtree valid part hown hbody hurl found =>
        cases hb
        have ho' := owner ho (by rw [hown]; rfl)
        rw [hown] at ho'
        cases ho'
        obtain ⟨t', ht', hkept⟩ := h.document hown hbody
        rw [ht] at ht'
        cases ht'
        obtain ⟨b, hb⟩ := Option.isSome_iff_exists.mp found
        obtain ⟨a, ha, -⟩ := hkept.lookup_back hfirm hb
        exact Option.isSome_iff_exists.mpr ⟨a, ha⟩
    · obtain ⟨-, o', u, ho', -⟩ := hwf.owned hc' hb
      exact h.place hc' hb (owner ho (by rw [ho']; rfl)) ht hfirm

theorem grows (h : s.Faithful source original) (hwf : s.WF) (hg : Grows source s s') :
    s'.Faithful source original := by
  induction hg with
  | refl => exact h
  | ask _ ih => exact ⟨ih.unread, ih.document, ih.place⟩
  | add hg fresh fits ih => exact ih.add (hwf.grows hg) fresh fits

/-- Replacing a document by something else that its original may become. -/
theorem setDocument (h : s.Faithful source original) {d : ContentId} {o : Content}
    {new t : Json} (ho : s.content? d = some o)
    (ht : original o.reference = some t) (hnew : Kept t new) :
    (s.setBody d (.document new)).Faithful source original := by
  have back : ∀ {id c}, (s.setBody d (.document new)).content? id = some c →
      ∃ c', s.content? id = some c' ∧ c.reference = c'.reference ∧
        (c.body = c'.body ∨ id = d ∧ c.body = .document new) := by
    intro id c hc
    rw [content?_setBody] at hc
    split at hc
    · next heq =>
      subst heq
      rw [ho] at hc
      cases hc
      exact ⟨o, ho, rfl, .inr ⟨rfl, rfl⟩⟩
    · exact ⟨c, hc, rfl, .inl rfl⟩
  refine ⟨h.unread, fun {id c u} hc hbody => ?_, fun {id c d' o' t'} hc hbody ho' ht' hfirm => ?_⟩
  · obtain ⟨c', hc', href, hsame | ⟨rfl, hdoc⟩⟩ := back hc
    · rw [href]
      exact h.document hc' (hsame ▸ hbody)
    · rw [ho] at hc'
      cases hc'
      rw [hdoc] at hbody
      cases hbody
      exact ⟨t, href ▸ ht, hnew⟩
  · obtain ⟨c', hc', href, hsame | ⟨rfl, hdoc⟩⟩ := back hc
    · obtain ⟨o'', ho'', href', -⟩ := back ho'
      rw [href] at hfirm ⊢
      exact h.place hc' (hsame ▸ hbody) ho'' (href' ▸ ht') hfirm
    · rw [hdoc] at hbody
      cases hbody

/-- The tree of a place behind firm nodes is what has become of the original's node there. -/
theorem kept_place (h : s.Faithful source original) {id d : ContentId} {c o : Content}
    {tree t : Json} (hc : s.content? id = some c) (hb : c.body = .subtree d)
    (ho : s.content? d = some o) (ht : original o.reference = some t)
    (held : s.tree? id = some tree) {a : Json}
    (hfirm : ¬PassesVolatile t c.reference.pointer.tokens)
    (ha : Pointer.lookup t c.reference.pointer.tokens = some a) : Kept a tree := by
  simp only [tree?, hc, Option.bind_eq_bind, Option.bind_some, hb, documentTree?, ho,
    Option.map_some, Option.bind_eq_some_iff] at held
  obtain ⟨u, hu, hfound⟩ := held
  have hou : o.body = .document u := by
    cases hob : o.body <;> simp_all
  obtain ⟨t', ht', hkept⟩ := h.document ho hou
  rw [ht] at ht'
  cases ht'
  obtain ⟨b, hb', hab⟩ := hkept.lookup hfirm ha
  rwa [Option.some.inj (hb'.symm.trans hfound)] at hab

/--
A tree that was read from a content may be written back later when it has changed in the way that
trees change; where that fails, the pointer of the content passes a volatile node.
-/
theorem write (h : s.Faithful source original) (h' : s'.Faithful source original)
    (hext : s.Extends s') {id : ContentId} {tree y : Json} (held : s.tree? id = some tree)
    (hy : ∀ t, Kept t tree → Kept t y) {result : Except BundleError Store}
    (hw : Writes s' id y result) :
    (∀ store, result = .ok store → store.Faithful source original) ∧
      ∀ e, result = .error e → Vanishing original s' e := by
  have before : ∀ {i c'}, s'.content? i = some c' → ∀ {c}, s.content? i = some c →
      c'.reference = c.reference ∧ c'.body.kind = c.body.kind := by
    intro i c' hc' c hc
    obtain ⟨c'', hc'', href, -, hkind⟩ := hext.content hc
    rw [hc'] at hc''
    cases hc''
    exact ⟨href, hkind⟩
  have hheld := held
  unfold tree? at hheld
  cases hc : s.content? id with
  | none => simp [hc] at hheld
  | some c =>
    simp only [hc, Option.bind_eq_bind, Option.bind_some] at hheld
    cases hw with
    | @whole c' old content body =>
      obtain ⟨href, hkind⟩ := before content hc
      cases hb : c.body with
      | subtree d => simp [hb, body, Body.kind] at hkind
      | invalid => simp [hb, body, Body.kind] at hkind
      | document u =>
        simp only [hb, Option.some.injEq] at hheld
        subst hheld
        obtain ⟨t, ht, hkept⟩ := h.document hc hb
        refine ⟨fun store heq => ?_, fun e heq => by cases heq⟩
        cases heq
        exact h'.setDocument content (href ▸ ht) (hy t hkept)
    | @part c' o' d old new content body owner hold hset =>
      obtain ⟨href, hkind⟩ := before content hc
      cases hb : c.body with
      | document u => simp [hb, body, Body.kind] at hkind
      | invalid => simp [hb, body, Body.kind] at hkind
      | subtree d' =>
        simp only [hb, body, Body.kind, Body.subtree.injEq] at hkind
        subst hkind
        obtain ⟨t', ht', hkept'⟩ := h'.document owner hold
        refine ⟨fun store heq => ?_, fun e heq => by cases heq⟩
        cases heq
        refine h'.setDocument owner ht' ?_
        refine hkept'.overwrite (fun a hfirm ha => hy a ?_) hset
        obtain ⟨o, ho⟩ : ∃ o, s.content? d = some o := by
          simp only [hb, documentTree?] at hheld
          cases ho : s.content? d with
          | none => simp [ho] at hheld
          | some o => exact ⟨o, rfl⟩
        obtain ⟨href', -⟩ := before owner ho
        exact h.kept_place hc hb ho (href' ▸ ht') held (href ▸ hfirm) (href ▸ ha)
    | @vanished c' o' d old content body owner hold hset =>
      refine ⟨fun store heq => (by cases heq), fun e heq => ?_⟩
      cases heq
      obtain ⟨t', ht', hkept'⟩ := h'.document owner hold
      have hgone : c'.reference.pointer.find? old = none := by
        have hsome := Pointer.overwrite_isSome old y c'.reference.pointer.tokens
        unfold Pointer.set? at hset
        rw [hset] at hsome
        unfold Pointer.find?
        cases hfind : Pointer.lookup old c'.reference.pointer.tokens with
        | none => rfl
        | some b =>
          rw [hfind] at hsome
          cases hsome
      refine ⟨_, c', d, o', t', content, body, owner, ht', ?_, ?_, rfl⟩
      · refine Classical.byContradiction fun hfirm => ?_
        obtain ⟨a, ha⟩ := Option.isSome_iff_exists.mp (h'.place content body owner ht' hfirm)
        obtain ⟨b, hb, -⟩ := hkept'.lookup hfirm ha
        unfold Pointer.find? at hgone
        rw [hgone] at hb
        cases hb
      · simp [tree?, content, body, documentTree?, owner, hold, hgone]

end Faithful

end ApiBundle.Store
