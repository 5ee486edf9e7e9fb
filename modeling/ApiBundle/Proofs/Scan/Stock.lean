import ApiBundle.Proofs.Scan.Horizon

/-!
# The store within a horizon

Lookups within a horizon take in documents of the horizon and places in them, and walks write tame
trees back. So every document in the store is tame, and every place in it is one that a straight
reference leads to (`Horizon.Stocked`). Such a place does not vanish: `Stocked.tree?_isSome`.
-/

namespace ApiBundle

open Json

namespace Horizon

open Store

variable {H : Horizon} {s s' : Store} {r : Reference} {start : Option Nat}

/-- The store holds tame documents of the horizon, and places that straight references lead to. -/
structure Stocked (H : Horizon) (s : Store) : Prop where
  aimed : ∀ {id c}, s.content? id = some c → c.body ≠ .invalid → H.Aimed c.reference
  tame : ∀ {id c tree}, s.content? id = some c → c.body = .document tree →
    tree.Throughout H.Tame
  within : ∀ {id c tree}, s.content? id = some c → c.body = .document tree →
    ∃ url ∈ H.urls, c.reference.url = some url

namespace Stocked

/-- Documents and places have URLs of the horizon. -/
theorem url (h : H.Stocked s) (hwf : s.WF) {id : ContentId} {c : Content}
    (hc : s.content? id = some c) (hbody : c.body ≠ .invalid) :
    ∃ url ∈ H.urls, c.reference.url = some url := by
  cases hb : c.body with
  | document tree => exact h.within hc hb
  | subtree d =>
    obtain ⟨-, o, tree, ho, hdoc, htext⟩ := hwf.owned hc hb
    obtain ⟨url, hsharp, -, hknown, -⟩ := h.aimed hc hbody
    obtain ⟨url', hurl', ho'⟩ := h.within ho hdoc
    obtain ⟨url'', hsharp', -⟩ := h.aimed ho (by rw [hdoc]; nofun)
    have heq : url'' = url' := Option.some.inj (hsharp'.url.symm.trans ho')
    have htext' : url.text = url'.text := by
      rw [← hsharp.urlText, ← htext, hsharp'.urlText, heq]
    exact ⟨url, hknown (.inl (htext' ▸ List.mem_map_of_mem hurl')), hsharp.url⟩
  | invalid => exact absurd hb hbody

/-- The tree of a content is tame. -/
theorem tree (h : H.Stocked s) {id : ContentId} {tree : Json} (ht : s.tree? id = some tree) :
    tree.Throughout H.Tame := by
  unfold tree? at ht
  obtain ⟨c, hc, ht⟩ := Option.bind_eq_some_iff.mp ht
  cases hb : c.body with
  | document u =>
    simp only [hb, Option.some.injEq] at ht
    subst ht
    exact h.tame hc hb
  | subtree d =>
    simp only [hb, documentTree?] at ht
    obtain ⟨whole, hwhole, ht⟩ := Option.bind_eq_some_iff.mp ht
    cases ho : s.content? d with
    | none => simp [ho] at hwhole
    | some o =>
      have hob : o.body = .document whole := by
        rw [ho] at hwhole
        cases hob : o.body <;> simp_all
      exact (h.tame ho hob).lookup ht
  | invalid => simp [hb] at ht

/-- Lookups within the horizon keep within it. -/
theorem load (h : H.Stocked s) (hclosed : H.Closed)
    (hr : r.error = none → H.Aimed r) : H.Stocked (s.load H.source r start).2 := by
  refine ⟨fun {id c} hc hbody => ?_, fun {id c tree} hc hbody => ?_, fun {id c tree} hc hbody => ?_⟩
  · rcases content?_load hc with hold | hinvalid | ⟨hvalid, _, _, -, -, rfl⟩ | ⟨hvalid, _, rfl⟩
    · exact h.aimed hold hbody
    · exact absurd hinvalid hbody
    · exact (hr hvalid).documentRef
    · exact hr hvalid
  · rcases content?_load hc with hold | hinvalid | ⟨hvalid, url, tree', hurl, hread, rfl⟩ |
      ⟨-, _, rfl⟩
    · exact h.tame hold hbody
    · rw [hinvalid] at hbody
      cases hbody
    · cases hbody
      obtain ⟨url', hsharp, -, hknown, -⟩ := hr hvalid
      cases hsharp.url.symm.trans hurl
      exact (hclosed.documents url (hknown (.inr ⟨tree, hread⟩)) tree hread).mono Documented.tame
    · cases hbody
  · rcases content?_load hc with hold | hinvalid | ⟨hvalid, url, tree', hurl, hread, rfl⟩ |
      ⟨-, _, rfl⟩
    · exact h.within hold hbody
    · rw [hinvalid] at hbody
      cases hbody
    · obtain ⟨url', hsharp, -, hknown, -⟩ := hr hvalid
      cases hsharp.url.symm.trans hurl
      exact ⟨url, hknown (.inr ⟨tree', hread⟩), hurl⟩
    · cases hbody

/-- The pointer to a place in a document passes no reference node of the original. -/
theorem firm (h : H.Stocked s) (hclosed : H.Closed) (hwf : s.WF) {id d : ContentId}
    {c o : Content} {t : Json} (hc : s.content? id = some c) (hb : c.body = .subtree d)
    (ho : s.content? d = some o) (ht : H.original o.reference = some t) :
    ¬PassesVolatile t c.reference.pointer.tokens := by
  obtain ⟨-, o', tree, ho', hdoc, htext⟩ := hwf.owned hc hb
  cases ho.symm.trans ho'
  obtain ⟨url, hsharp, hread, -, hstraight⟩ := h.aimed hc (by rw [hb]; nofun)
  obtain ⟨url', hsharp', hread', -⟩ := h.aimed ho (by rw [hdoc]; nofun)
  have htexts : url'.text = url.text := by rw [← hsharp'.urlText, htext, hsharp.urlText]
  have hurl : url' = url := by
    rw [htexts, hread] at hread'
    exact (Except.ok.inj hread').symm
  refine hstraight t ((hclosed.congr ?_ ?_).trans ht)
  · simp only [Reference.id, Reference.documentRef, htext, hwf.whole ho hdoc]
  · rw [hsharp'.url, hurl]
    exact hsharp.url

/-- So the place does not vanish. -/
theorem not_vanishing (h : H.Stocked s) (hclosed : H.Closed) (hwf : s.WF) {e : BundleError} :
    ¬Vanishing H.original s e := by
  rintro ⟨id, c, d, o, t, hc, hb, ho, ht, hpasses, -, -⟩
  exact h.firm hclosed hwf hc hb ho ht hpasses

/-- Every content that is not invalid has a tree. -/
theorem tree?_isSome (h : H.Stocked s) (hclosed : H.Closed) (hwf : s.WF)
    (hfaithful : s.Faithful H.source H.original) {id : ContentId} {c : Content}
    (hc : s.content? id = some c) (hbody : c.body ≠ .invalid) : (s.tree? id).isSome := by
  cases hb : c.body with
  | document tree => simp [tree?, hc, hb]
  | subtree d =>
    obtain ⟨-, o, tree, ho, hdoc, -⟩ := hwf.owned hc hb
    obtain ⟨t, ht, hkept⟩ := hfaithful.document ho hdoc
    have hfirm := h.firm hclosed hwf hc hb ho ht
    obtain ⟨a, ha⟩ := Option.isSome_iff_exists.mp (hfaithful.place hc hb ho ht hfirm)
    obtain ⟨b, hb', -⟩ := hkept.lookup hfirm ha
    simp only [tree?, hc, Option.bind_eq_bind, Option.bind_some, hb, documentTree?, ho,
      Option.map_some, hdoc, Pointer.find?]
    exact Option.isSome_iff_exists.mpr ⟨b, hb'⟩
  | invalid => exact absurd hb hbody

/-- Replacing a document by a tame tree. -/
theorem setDocument (h : H.Stocked s) {d : ContentId} {o : Content} {old new : Json}
    (ho : s.content? d = some o) (hold : o.body = .document old)
    (hnew : new.Throughout H.Tame) : H.Stocked (s.setBody d (.document new)) := by
  have back : ∀ {id c}, (s.setBody d (.document new)).content? id = some c →
      ∃ c', s.content? id = some c' ∧ c.reference = c'.reference ∧
        (c.body = c'.body ∨ c'.body = .document old ∧ c.body = .document new) := by
    intro id c hc
    rw [content?_setBody] at hc
    split at hc
    · next heq =>
      subst heq
      rw [ho] at hc
      cases hc
      exact ⟨o, ho, rfl, .inr ⟨hold, rfl⟩⟩
    · exact ⟨c, hc, rfl, .inl rfl⟩
  refine ⟨fun {id c} hc hbody => ?_, fun {id c tree} hc hbody => ?_, fun {id c tree} hc hbody => ?_⟩
  · obtain ⟨c', hc', href, hsame | ⟨hold', -⟩⟩ := back hc
    · exact href ▸ h.aimed hc' (hsame ▸ hbody)
    · exact href ▸ h.aimed hc' (by rw [hold']; nofun)
  · obtain ⟨c', hc', -, hsame | ⟨-, hnew'⟩⟩ := back hc
    · exact h.tame hc' (hsame ▸ hbody)
    · rw [hnew'] at hbody
      cases hbody
      exact hnew
  · obtain ⟨c', hc', href, hsame | ⟨hold', -⟩⟩ := back hc
    · exact href ▸ h.within hc' (hsame ▸ hbody)
    · exact href ▸ h.within hc' hold'

/-- Writing back what has become of a tree that was read from a content. -/
theorem write (h : H.Stocked s) (h' : H.Stocked s') (hclosed : H.Closed) (hwf : s.WF)
    (hfaithful : s.Faithful H.source H.original) (hfaithful' : s'.Faithful H.source H.original)
    (hext : s.Extends s') {id : ContentId} {tree y : Json} (held : s.tree? id = some tree)
    (htame : y.Throughout H.Tame) (hy : ∀ t, Kept t tree → Kept t y) {store : Store}
    (hw : Writes s' id y (.ok store)) : H.Stocked store := by
  cases hw with
  | whole content body => exact h'.setDocument content body htame
  | @part c' o' d old new content body owner hold hset =>
    refine h'.setDocument owner hold ?_
    have hheld := held
    unfold tree? at hheld
    obtain ⟨c, hc, hheld⟩ := Option.bind_eq_some_iff.mp hheld
    obtain ⟨c'', hc'', href, -, hkind⟩ := hext.content hc
    cases content.symm.trans hc''
    have hb : c.body = .subtree d := by
      rw [body] at hkind
      cases hb : c.body <;> simp_all [Body.kind]
    obtain ⟨-, o, tree', ho, hdoc, -⟩ := hwf.owned hc hb
    obtain ⟨o'', ho'', href', -, -⟩ := hext.content ho
    cases owner.symm.trans ho''
    obtain ⟨t, ht, hkept⟩ := hfaithful'.document owner hold
    have hfirm := h.firm hclosed hwf hc hb ho (href' ▸ ht)
    refine tame_overwrite (h'.tame owner hold) ?_ hkept (href ▸ hfirm) htame (fun a ha => ?_) hset
    · exact (hclosed.originals (h'.within owner hold) ht).mono fun hx => hx.literal
    · exact hy a (hfaithful.kept_place hc hb ho (href' ▸ ht) held hfirm (href ▸ ha))

end Stocked

end Horizon

end ApiBundle
