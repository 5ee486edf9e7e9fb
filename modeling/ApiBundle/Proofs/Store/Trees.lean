import ApiBundle.Proofs.Store.Faithful
import ApiBundle.Proofs.Tree.Tidy

/-!
# What holds throughout the documents of a store

A property of nodes that holds throughout all documents holds throughout every tree that is read
from the store, and lookups keep it where it holds of what can be retrieved. For tidy nodes writes
keep it as well: a scanned tree may stand wherever the tree stood that was scanned. A content that
has lost its place lies behind a volatile node of its document's original (`Store.Behind`).
-/

namespace ApiBundle

open Json

/-- Something holds at every node of what can be retrieved. -/
def Source.Supplies (source : Source) (P : Json → Prop) : Prop :=
  ∀ {url tree}, Store.retrieve source url = .ok tree → tree.Throughout P

theorem Store.wellFormed_of_retrieve {source : Source} {url : Uri} {tree : Json}
    (h : Store.retrieve source url = .ok tree) : tree.WellFormed := by
  unfold Store.retrieve at h
  obtain ⟨text, -, hparse⟩ := Json.except_bind_eq_ok.mp h
  exact wellFormed_of_parseDocument (mapError_eq_ok hparse)

/-- No object of a document that was read has two members of one name. -/
theorem Source.supplies_tidy {source : Source} (h : source.Supplies Literal) :
    source.Supplies Tidy :=
  fun hread => ((throughout_distinct (Store.wellFormed_of_retrieve hread)).and (h hread)).mono
    fun hx => ⟨hx.1, hx.2⟩

namespace Store

variable {source : Source} {original : Reference → Option Json} {P : Json → Prop} {s s' : Store}
  {id : ContentId} {c : Content} {x : Json}

/-- Something holds at every node of every document. -/
structure Throughout (s : Store) (P : Json → Prop) : Prop where
  document : ∀ {id c tree}, s.content? id = some c → c.body = .document tree → tree.Throughout P

/-- Where the tree of a content is found. -/
inductive Found (s : Store) (id : ContentId) (tree : Json) : Prop where
  | whole {c : Content} (content : s.content? id = some c) (body : c.body = .document tree)
  | part {c o : Content} {d : ContentId} {whole : Json} (content : s.content? id = some c)
      (body : c.body = .subtree d) (owner : s.content? d = some o)
      (document : o.body = .document whole)
      (place : Pointer.lookup whole c.reference.pointer.tokens = some tree)

theorem content?_of_documentTree? {d : ContentId} {tree : Json}
    (h : s.documentTree? d = some tree) : ∃ o, s.content? d = some o ∧ o.body = .document tree := by
  unfold documentTree? at h
  cases ho : s.content? d with
  | none => simp [ho] at h
  | some o =>
    simp only [ho, Option.map_some] at h
    cases hb : o.body with
    | document t =>
      simp only [hb, Option.some.injEq] at h
      exact ⟨o, rfl, h ▸ hb⟩
    | subtree | invalid => simp [hb] at h

theorem found_of_tree? (h : s.tree? id = some x) : Found s id x := by
  unfold tree? at h
  obtain ⟨c, hc, h⟩ := Option.bind_eq_some_iff.mp h
  cases hb : c.body with
  | document u =>
    simp only [hb, Option.some.injEq] at h
    exact .whole hc (h ▸ hb)
  | subtree d =>
    simp only [hb] at h
    obtain ⟨whole, hwhole, hplace⟩ := Option.bind_eq_some_iff.mp h
    obtain ⟨o, ho, hob⟩ := content?_of_documentTree? hwhole
    exact .part hc hb ho hob hplace
  | invalid => simp [hb] at h

namespace Throughout

theorem tree (h : s.Throughout P) (held : s.tree? id = some x) : x.Throughout P := by
  cases found_of_tree? held with
  | whole content body => exact h.document content body
  | part content body owner document place => exact (h.document owner document).lookup place

/-- Lookups keep what holds throughout all that they can retrieve. -/
theorem grows (h : s.Throughout P) (hsource : source.Supplies P) (hg : Grows source s s') :
    s'.Throughout P := by
  induction hg with
  | refl => exact h
  | ask _ ih => exact ⟨ih.document⟩
  | add _ fresh fits ih =>
    refine ⟨fun {id c tree} hc hb => ?_⟩
    rw [content?_add] at hc
    split at hc
    · cases hc
      cases fits with
      | invalid => cases hb
      | subtree => cases hb
      | document valid whole hurl hread =>
        cases hb
        exact hsource hread
    · exact ih.document hc hb

theorem setDocument (h : s.Throughout P) {d : ContentId} {new : Json}
    (hnew : new.Throughout P) : (s.setBody d (.document new)).Throughout P := by
  refine ⟨fun {id c tree} hc hb => ?_⟩
  rw [content?_setBody] at hc
  split at hc
  · obtain ⟨c', -, rfl⟩ := Option.map_eq_some_iff.mp hc
    cases hb
    exact hnew
  · exact h.document hc hb

/-- What may be put where a tree was read may be written back there. -/
theorem write_of {y : Json} (h : s.Throughout P) (h' : s'.Throughout P) (hext : s.Extends s')
    (held : s.tree? id = some x) (hy : y.Throughout P)
    (hput : ∀ {tokens : List String} {old whole new : Json}, old.Throughout P →
      Pointer.lookup old tokens = some x → whole.Throughout P →
      Pointer.overwrite whole y tokens = some new → new.Throughout P)
    {store : Store} (hw : Writes s' id y (.ok store)) : store.Throughout P := by
  cases hw with
  | whole content body => exact h'.setDocument hy
  | @part c' o' d old new content body owner hold hset =>
    refine h'.setDocument ?_
    cases found_of_tree? held with
    | @whole c content' body' =>
      obtain ⟨c'', hc'', -, -, hkind⟩ := hext.content content'
      cases content.symm.trans hc''
      rw [body, body'] at hkind
      cases hkind
    | @part c o d' whole content' body' owner' document place =>
      obtain ⟨c'', hc'', href, -⟩ := hext.content content'
      cases content.symm.trans hc''
      rw [← href] at place
      exact hput (h.document owner' document) place (h'.document owner hold) hset

/-- What has become of a tidy tree may be written back to where the tree was read. -/
theorem write {y : Json} (h : s.Throughout Tidy) (h' : s'.Throughout Tidy) (hext : s.Extends s')
    (held : s.tree? id = some x) (hy : y.Throughout Tidy) (hkept : Kept x y)
    {store : Store} (hw : Writes s' id y (.ok store)) : store.Throughout Tidy := by
  have hlit := literal_of_tidy (h.tree held)
  exact h.write_of h' hext held hy (fun hold hplace hwhole hnew =>
    tidy_overwrite hwhole hy ((sits_of_lookup hold hplace).kept hlit hkept) hnew) hw

end Throughout

/-! ## Reading what was written -/

theorem documentTree?_setBody {d : ContentId} {o : Content} {tree : Json}
    (ho : s.content? d = some o) : (s.setBody d (.document tree)).documentTree? d = some tree := by
  simp [documentTree?, content?_setBody, ho]

/-- What was written is read back. -/
theorem tree?_of_writes {y : Json} {store : Store} (h : Writes s id y (.ok store)) :
    store.tree? id = some y := by
  cases h with
  | whole content body => simp [tree?, content?_setBody, content]
  | @part c o d old new content body owner hold hset =>
    have hne : d ≠ id := by
      rintro rfl
      rw [content] at owner
      cases owner
      rw [body] at hold
      cases hold
    have hcontent : (s.setBody d (.document new)).content? id = some c := by
      rw [content?_setBody, if_neg hne, content]
    simp only [tree?, hcontent, Option.bind_eq_bind, Option.bind_some, body,
      documentTree?_setBody owner]
    exact Pointer.lookup_overwrite hset

theorem setBody_self (hc : s.content? id = some c) : s.setBody id c.body = s := by
  have hcontents : s.contents.modify id (fun o => { o with body := c.body }) = s.contents := by
    refine List.ext_getElem? fun i => ?_
    rw [List.getElem?_modify]
    by_cases hi : id = i
    · subst hi
      have hget : s.contents[id]? = some c := hc
      simp [hget]
    · simp [hi]
  simp only [setBody, hcontents]

/-- Writing what is read changes nothing. -/
theorem write_self (h : s.tree? id = some x) : s.write id x = .ok s := by
  cases found_of_tree? h with
  | whole content body =>
    have hself := setBody_self content
    rw [body] at hself
    simp only [write, content, body, hself]
  | part content body owner document place =>
    have hself := setBody_self owner
    rw [document] at hself
    simp only [write, content, body, documentTree?, owner, document, Option.map_some,
      Option.bind_some, Pointer.set?, Pointer.overwrite_self place, hself]

/-- What an identity leads to lies behind a volatile node of its document's original. -/
def Behind (original : Reference → Option Json) (s : Store) (i : RefId) : Prop :=
  ∃ id c d o t, s.content? id = some c ∧ c.reference.id = i ∧ c.body = .subtree d ∧
    s.content? d = some o ∧ original o.reference = some t ∧
    PassesVolatile t c.reference.pointer.tokens

theorem Behind.extends {i : RefId} (h : s.Behind original i) (hext : s.Extends s') :
    s'.Behind original i := by
  obtain ⟨id, c, d, o, t, hc, hid, hb, ho, ht, hpasses⟩ := h
  obtain ⟨c', hc', href, -, hkind⟩ := hext.content hc
  obtain ⟨o', ho', href', -⟩ := hext.content ho
  refine ⟨id, c', d, o', t, hc', href ▸ hid, ?_, ho', href' ▸ ht, href ▸ hpasses⟩
  rw [hb] at hkind
  cases hb' : c'.body with
  | document | invalid =>
    rw [hb'] at hkind
    cases hkind
  | subtree d' =>
    rw [hb'] at hkind
    exact hkind

/-- A content that has no tree, although nothing went wrong, has lost its place. -/
theorem Faithful.behind (h : s.Faithful source original) (hwf : s.WF) (hc : s.content? id = some c)
    (hbody : c.body ≠ .invalid) (hnone : s.tree? id = none) :
    s.Behind original c.reference.id := by
  cases hb : c.body with
  | invalid => exact absurd hb hbody
  | document u => simp [tree?, hc, hb] at hnone
  | subtree d =>
    obtain ⟨-, o, u, ho, hob, -⟩ := hwf.owned hc hb
    obtain ⟨t, ht, hkept⟩ := h.document ho hob
    refine ⟨id, c, d, o, t, hc, rfl, hb, ho, ht, Classical.byContradiction fun hfirm => ?_⟩
    obtain ⟨a, ha⟩ := Option.isSome_iff_exists.mp (h.place hc hb ho ht hfirm)
    obtain ⟨b, hb', -⟩ := hkept.lookup hfirm ha
    have hsome : s.tree? id = some b := by
      simp only [tree?, hc, Option.bind_eq_bind, Option.bind_some, hb, documentTree?, ho,
        Option.map_some, hob, Pointer.find?, hb']
    rw [hnone] at hsome
    cases hsome

end Store

end ApiBundle
