import ApiBundle.Proofs.Dialect.Canonical
import ApiBundle.Proofs.Store.Invariant

/-!
# A canonical document on its own

While a canonical document is bundled without other ones, the only document in the store is the
document itself, with some of its references adorned; all other contents are places of definitions
in it (`Store.Alone`). What references lead to is found there, so no other document is asked for,
and what has become of it may be written back.
-/

namespace ApiBundle

/-- The content of a document, or of a definition in it that references lead to. -/
inductive Content.IsOwn (d : Dialect) (u : Uri) (tree : Json) : ContentId → Content → Prop where
  | root {r : Reference} {start : Option Nat} {w : Json} (sharp : r.Sharp u)
      (valid : r.error = none) (whole : r.pointer = .root) (dressed : Json.Dressed u tree w) :
      IsOwn d u tree 0 ⟨r, .document w, start⟩
  | place {id : ContentId} {r : Reference} {start : Option Nat} {c : Component} (inner : id ≠ 0)
      (sharp : r.Sharp u) (valid : r.error = none) (citable : d.Citable tree c r.pointer) :
      IsOwn d u tree id ⟨r, .subtree 0, start⟩

namespace Store

/-- There are no contents but those of one document. -/
structure Alone (d : Dialect) (u : Uri) (tree : Json) (s : Store) : Prop where
  wf : s.WF
  requests : s.requests = []
  root : (s.content? 0).isSome
  own : ∀ {id c}, s.content? id = some c → c.IsOwn d u tree id

namespace Alone

variable {d : Dialect} {u : Uri} {tree x y : Json} {s store : Store} {r : Reference}
  {c : Component} {id : ContentId} {content : Content} {start : Option Nat} {source : Source}

/-- The document is in the store, with some references adorned. -/
theorem whole (h : s.Alone d u tree) : ∃ r w start, s.content? 0 = some ⟨r, .document w, start⟩ ∧
    r.Sharp u ∧ r.error = none ∧ r.pointer = .root ∧ Json.Dressed u tree w := by
  obtain ⟨content, hcontent⟩ := Option.isSome_iff_exists.mp h.root
  cases h.own hcontent with
  | root sharp valid whole dressed => exact ⟨_, _, _, hcontent, sharp, valid, whole, dressed⟩
  | place inner => exact absurd rfl inner

theorem sharp (h : s.Alone d u tree) (hc : s.content? id = some content) :
    content.reference.Sharp u := by
  cases h.own hc with
  | root sharp | place inner sharp => exact sharp

theorem valid (h : s.Alone d u tree) (hc : s.content? id = some content) :
    content.reference.error = none := by
  cases h.own hc with
  | root sharp valid | place inner sharp valid => exact valid

/-- Every content has a tree: what has become of the document at its place. -/
theorem tree? (h : s.Alone d u tree) (hc : s.content? id = some content) :
    ∃ x y, tree.follow? content.reference.pointer.keys = some x ∧ s.tree? id = some y ∧
      Json.Dressed u x y := by
  cases h.own hc with
  | @root r start w sharp valid whole dressed =>
    exact ⟨tree, w, by rw [whole]; rfl, by simp [Store.tree?, hc], dressed⟩
  | @place _ r start c inner sharp valid citable =>
    obtain ⟨_, w, _, hroot, -, -, -, hdressed⟩ := h.whole
    obtain ⟨x, hx⟩ := Option.isSome_iff_exists.mp citable.found
    obtain ⟨y, hy, hxy⟩ := hdressed.follow? citable.key_notMem hx
    refine ⟨x, y, hx, ?_, hxy⟩
    simp [Store.tree?, documentTree?, hc, hroot, Json.find?_of_follow? hy]

/-! ## Looking definitions up -/

/-- A definition of the document has a content, or is given one. -/
theorem load_cases (source : Source) (start : Option Nat) (h : s.Alone d u tree)
    (hr : r.Sharp u) (hvalid : r.error = none) (hc : d.Citable tree c r.pointer) :
    (∃ id, s.load source r start = (.ok id, s)) ∨
      s.load source r start = (.ok s.contents.length, s.add ⟨r, .subtree 0, start⟩) := by
  unfold Store.load
  cases hget : s.get? r with
  | some id => exact .inl ⟨id, rfl⟩
  | none =>
    refine .inr ?_
    obtain ⟨r₀, w, start₀, hroot, hsharp, hvalid₀, hwhole, hdressed⟩ := h.whole
    have hdocument : s.get? r.documentRef = some 0 := by
      have hid : r.documentRef.id = r₀.id := by
        simp [Reference.documentRef, Reference.id, hr.urlText, hsharp.urlText, hsharp.fragment,
          Pointer.isRoot_iff.mpr hwhole]
      unfold Store.get?
      rw [hid]
      exact h.wf.indexed hroot
    have hpart : r.isDocument = false := by
      have hinner : r.pointer.isRoot = false :=
        Bool.eq_false_iff.mpr fun hwhole => hc.inside (Pointer.isRoot_iff.mp hwhole)
      simp [Reference.isDocument, hr.fragment, hinner]
    obtain ⟨x, hx⟩ := Option.isSome_iff_exists.mp hc.found
    obtain ⟨y, hy, -⟩ := hdressed.follow? hc.key_notMem hx
    simp [Reference.isValid, hvalid, Store.document, hdocument, hpart, view, hroot, hvalid₀,
      Store.tree?, Json.find?_of_follow? hy, create_fresh hget]

theorem load (h : s.Alone d u tree) (hr : r.Sharp u) (hvalid : r.error = none)
    (hc : d.Citable tree c r.pointer) (hload : s.load source r start = (.ok id, store))
    (hgrows : Grows source s store) : store.Alone d u tree := by
  have hwf := h.wf.grows hgrows
  rcases load_cases source start h hr hvalid hc with ⟨id', heq⟩ | heq
  · cases hload.symm.trans heq
    exact h
  · cases hload.symm.trans heq
    obtain ⟨content, hcontent⟩ := Option.isSome_iff_exists.mp h.root
    have hne : s.contents.length ≠ 0 := Nat.ne_zero_of_lt (lt_of_content? hcontent)
    refine ⟨hwf, h.requests, ?_, fun {id c'} hc' => ?_⟩
    · rw [content?_add_of_content? hcontent]
      rfl
    · rw [content?_add] at hc'
      split at hc'
      · next heq =>
        cases hc'
        exact .place (heq ▸ hne) hr hvalid hc
      · exact h.own hc'

/-! ## Writing trees back -/

theorem setRoot (h : s.Alone d u tree) {w : Json} (hw : Json.Dressed u tree w) :
    (s.setBody 0 (.document w)).Alone d u tree := by
  obtain ⟨r, w₀, start, hroot, hsharp, hvalid, hwhole, -⟩ := h.whole
  refine ⟨h.wf.setDocument hroot rfl, h.requests, ?_, fun {id c} hc => ?_⟩
  · rw [content?_setBody, if_pos rfl, hroot]
    rfl
  · rw [content?_setBody] at hc
    split at hc
    · next heq =>
      subst heq
      rw [hroot] at hc
      cases hc
      exact .root hsharp hvalid hwhole hw
    · exact h.own hc

/-- What has become of the tree of a content may be written back. -/
theorem write (h : s.Alone d u tree) (hc : s.content? id = some content)
    (hx : tree.follow? content.reference.pointer.keys = some x) (hy : Json.Dressed u x y) :
    ∃ store, s.write id y = .ok store ∧ store.Alone d u tree := by
  obtain ⟨_, w, _, hroot, -, -, -, hdressed⟩ := h.whole
  unfold Store.write
  cases h.own hc with
  | root sharp valid whole dressed =>
    rw [whole] at hx
    cases hx
    exact ⟨_, by simp only [hc], h.setRoot hy⟩
  | @place _ r start c inner sharp valid citable =>
    obtain ⟨z, hz, -⟩ := hdressed.follow? citable.key_notMem hx
    have hsome : (r.pointer.set? w y).isSome := by
      unfold Pointer.set?
      rw [Pointer.overwrite_isSome]
      exact Option.isSome_of_eq_some (Json.find?_of_follow? hz)
    obtain ⟨new, hnew⟩ := Option.isSome_iff_exists.mp hsome
    refine ⟨_, ?_, h.setRoot (hdressed.overwrite citable.named hx hy hnew)⟩
    simp only [hc, documentTree?, hroot, Option.map_some, Option.bind_some, hnew]

end Alone

end Store

end ApiBundle
