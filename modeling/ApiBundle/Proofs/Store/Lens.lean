import ApiBundle.Proofs.Scan.Steps
import ApiBundle.Proofs.Store.Trees
import ApiBundle.Proofs.Tree.Slot

/-!
# Contents as views of documents

Every content with a tree has a place in a document (`Store.place?`), the whole of it for the
document itself. Its tree is what the document has at that place, and replacing its tree replaces
just that: `Store.Replaces` says that one document has become another and that all contents with a
place in it show the new one. Together these make a content a lens on its document
(`Session.WritesInPlace`), even where the places of contents overlap or are the same.
-/

namespace ApiBundle

open Json

namespace Store

variable {s s' : Store} {id d : ContentId} {tokens : List String} {tree old new : Json}

/-- The document that a content is or lies in, and the way to its place there. -/
def place? (s : Store) (id : ContentId) : Option (ContentId × List String) :=
  (s.content? id).bind fun c =>
    match c.body with
    | .document _ => some (id, [])
    | .subtree d => some (d, c.reference.pointer.tokens)
    | .invalid => none

/-- The tree of a content is what the document has at its place. -/
theorem tree?_eq (s : Store) (id : ContentId) :
    s.tree? id =
      (s.place? id).bind fun p => (s.documentTree? p.1).bind (Pointer.lookup · p.2) := by
  unfold tree? place?
  cases hc : s.content? id with
  | none => rfl
  | some c =>
    cases hb : c.body with
    | document t => simp [documentTree?, hc, hb, Pointer.lookup]
    | subtree d => simp only [Option.bind_eq_bind, Option.bind_some, hb]; rfl
    | invalid => simp [hb]

/-- A write overwrites what the document has at the place of the content. -/
theorem write_eq_ok_iff : s.write id tree = .ok s' ↔
    ∃ d tokens old new, s.place? id = some (d, tokens) ∧ s.documentTree? d = some old ∧
      Pointer.overwrite old tree tokens = some new ∧ s' = s.setBody d (.document new) := by
  unfold write place?
  cases hc : s.content? id with
  | none => simp
  | some c =>
    cases hb : c.body with
    | document t =>
      have ht : s.documentTree? id = some t := by simp [documentTree?, hc, hb]
      simp only [hb, Except.ok.injEq, Option.bind_some, Option.some.injEq, Prod.mk.injEq]
      constructor
      · rintro rfl
        exact ⟨id, [], t, tree, ⟨rfl, rfl⟩, ht, rfl, rfl⟩
      · rintro ⟨_, _, old, new, ⟨rfl, rfl⟩, -, hnew, rfl⟩
        cases hnew
        rfl
    | subtree d =>
      simp only [hb, Option.bind_some, Option.some.injEq, Prod.mk.injEq]
      constructor
      · intro h
        split at h
        · next new hnew =>
          obtain ⟨old, hold, hset⟩ := Option.bind_eq_some_iff.mp hnew
          cases h
          exact ⟨d, _, old, new, ⟨rfl, rfl⟩, hold, hset, rfl⟩
        · cases h
      · rintro ⟨_, _, old, new, ⟨rfl, rfl⟩, hold, hset, rfl⟩
        rw [hold]
        simp only [Option.bind_some, Pointer.set?, hset]
    | invalid => simp [hb]

/-- Why a write is refused. -/
inductive Refuses (c : Content) : BundleError → Prop where
  | invalid (body : c.body = .invalid) : Refuses c (.storeIntoInvalid c.reference.display)
  | vanished {d : ContentId} (body : c.body = .subtree d) :
    Refuses c (.subtreeVanished c.reference.display)

theorem refuses_of_write {c : Content} {e : BundleError} (hc : s.content? id = some c)
    (h : s.write id tree = .error e) : Refuses c e := by
  unfold write at h
  simp only [hc] at h
  cases hb : c.body with
  | document t => simp [hb] at h
  | subtree d =>
    simp only [hb] at h
    split at h
    · cases h
    · cases h
      exact .vanished hb
  | invalid =>
    simp only [hb] at h
    cases h
    exact .invalid hb

/-- A tree can be replaced where there is one. -/
theorem exists_write_iff (s : Store) (id : ContentId) (tree : Json) :
    (∃ s', s.write id tree = .ok s') ↔ (s.tree? id).isSome := by
  simp only [write_eq_ok_iff, tree?_eq]
  constructor
  · rintro ⟨_, d, tokens, old, new, hplace, hold, hset, rfl⟩
    have hsome := Pointer.overwrite_isSome old tree tokens
    rw [hset] at hsome
    simpa [hplace, hold] using hsome.symm
  · intro h
    obtain ⟨x, hx⟩ := Option.isSome_iff_exists.mp h
    obtain ⟨⟨d, tokens⟩, hplace, hx⟩ := Option.bind_eq_some_iff.mp hx
    obtain ⟨old, hold, hlookup⟩ := Option.bind_eq_some_iff.mp hx
    have hsome := Pointer.overwrite_isSome old tree tokens
    rw [hlookup] at hsome
    obtain ⟨new, hset⟩ := Option.isSome_iff_exists.mp hsome
    exact ⟨_, d, tokens, old, new, hplace, hold, hset, rfl⟩

/-! ## Replacing a document -/

theorem documentTree?_setBody_of_ne {j : ContentId} {body : Body} (hne : d ≠ j) :
    (s.setBody d body).documentTree? j = s.documentTree? j := by
  rw [documentTree?, content?_setBody, if_neg hne, documentTree?]

/-- Whatever becomes of a document, all contents keep their places. -/
theorem place?_setBody (h : s.documentTree? d = some old) (id : ContentId) :
    (s.setBody d (.document new)).place? id = s.place? id := by
  obtain ⟨o, ho, hb⟩ := content?_of_documentTree? h
  rw [place?, content?_setBody, place?]
  split
  · next heq =>
    subst heq
    simp only [ho, Option.map_some, Option.bind_some, hb]
  · rfl

/-- One document of a store has become another one, and nothing else is different. -/
structure Replaces (s s' : Store) (d : ContentId) (old new : Json) : Prop where
  before : s.documentTree? d = some old
  after : s'.documentTree? d = some new
  /-- Only the tree of the document is another one, not its reference or where it is started. -/
  owner : s'.content? d = (s.content? d).map fun o => { o with body := .document new }
  others : ∀ j, j ≠ d → s'.content? j = s.content? j
  /-- Every content of the document shows what the new one has at its place. -/
  shown : ∀ j tokens, s.place? j = some (d, tokens) → s'.tree? j = Pointer.lookup new tokens
  /-- The trees of other documents' contents are what they were. -/
  apart : ∀ j, (∀ tokens, s.place? j ≠ some (d, tokens)) → s'.tree? j = s.tree? j
  labels : ∀ j, (s'.content? j).map (fun c => (c.reference, c.start)) =
    (s.content? j).map fun c => (c.reference, c.start)
  cache : s'.cache = s.cache
  requests : s'.requests = s.requests

theorem replaces_setBody (h : s.documentTree? d = some old) :
    Replaces s (s.setBody d (.document new)) d old new := by
  obtain ⟨o, ho, hb⟩ := content?_of_documentTree? h
  have hafter : (s.setBody d (.document new)).documentTree? d = some new :=
    documentTree?_setBody ho
  refine ⟨h, hafter, ?_, ?_, ?_, ?_, ?_, rfl, rfl⟩
  · rw [content?_setBody, if_pos rfl]
  · intro j hj
    rw [content?_setBody, if_neg (Ne.symm hj)]
  · intro j tokens hplace
    rw [tree?_eq, place?_setBody h, hplace, Option.bind_some, hafter, Option.bind_some]
  · intro j hapart
    rw [tree?_eq, tree?_eq, place?_setBody h]
    cases hplace : s.place? j with
    | none => rfl
    | some p =>
      have hne : d ≠ p.1 := by
        rintro rfl
        exact hapart p.2 hplace
      simp only [Option.bind_some, documentTree?_setBody_of_ne hne]
  · intro j
    rw [content?_setBody]
    split
    · rw [Option.map_map]
      rfl
    · rfl

end Store

/-! ## The lens -/

open Scanning Scan

/-- Replacing the tree of a content touches its place and nothing else. -/
structure Session.WritesInPlace (s : Session) (id : ContentId) : Prop where
  ends : ∀ tree, ∃ r s', Ends (writeTree id tree) s r s'
  /-- A tree can be replaced exactly if there is one. -/
  possible : ∀ tree, (∃ s', Ends (writeTree id tree) s (.ok ()) s') ↔ (s.store.tree? id).isSome
  /-- What was written is read. -/
  read : ∀ {tree s'}, Ends (writeTree id tree) s (.ok ()) s' → s'.store.tree? id = some tree
  /-- The document is the same but for the place of the content. -/
  replaces : ∀ {tree s'}, Ends (writeTree id tree) s (.ok ()) s' →
    ∃ store d tokens old new a, s' = s.withStore store ∧ s.store.place? id = some (d, tokens) ∧
      s.store.tree? id = some a ∧ SameBut a tree tokens old new ∧
      s.store.Replaces store d old new
  /-- Writing what is read changes nothing. -/
  unchanged : ∀ {tree}, s.store.tree? id = some tree → Ends (writeTree id tree) s (.ok ()) s
  /-- A refused write leaves everything as it was. -/
  refused : ∀ {tree e s'}, Ends (writeTree id tree) s (.error e) s' →
    s' = s ∧ s.store.tree? id = none ∧ ∀ c, s.store.content? id = some c → Store.Refuses c e

namespace Session

/-- Contents are lenses on the documents that they lie in. -/
theorem writesInPlace (s : Session) (id : ContentId) : s.WritesInPlace id where
  ends tree := by
    cases hw : s.store.write id tree with
    | ok store => exact ⟨_, _, ends_writeTree_ok.mpr ⟨store, hw, rfl⟩⟩
    | error e => exact ⟨_, _, ends_writeTree_error.mpr ⟨hw, rfl⟩⟩
  possible tree := by
    rw [← Store.exists_write_iff s.store id tree]
    constructor
    · rintro ⟨s', h⟩
      obtain ⟨store, hw, -⟩ := ends_writeTree_ok.mp h
      exact ⟨store, hw⟩
    · rintro ⟨store, hw⟩
      exact ⟨_, ends_writeTree_ok.mpr ⟨store, hw, rfl⟩⟩
  read h := by
    obtain ⟨store, hw, rfl⟩ := ends_writeTree_ok.mp h
    obtain ⟨d, tokens, old, new, hplace, hold, hset, rfl⟩ := Store.write_eq_ok_iff.mp hw
    exact ((Store.replaces_setBody hold).shown id tokens hplace).trans
      (Pointer.lookup_overwrite hset)
  replaces h := by
    obtain ⟨store, hw, rfl⟩ := ends_writeTree_ok.mp h
    obtain ⟨d, tokens, old, new, hplace, hold, hset, rfl⟩ := Store.write_eq_ok_iff.mp hw
    obtain ⟨a, hsame⟩ := Pointer.overwrite_eq_some_iff.mp hset
    refine ⟨_, d, tokens, old, new, a, rfl, hplace, ?_, hsame, Store.replaces_setBody hold⟩
    rw [Store.tree?_eq, hplace, Option.bind_some, hold, Option.bind_some, hsame.lookup_eq]
  unchanged h := ends_writeTree_ok.mpr ⟨s.store, Store.write_self h, rfl⟩
  refused {tree e s'} h := by
    obtain ⟨hw, rfl⟩ := ends_writeTree_error.mp h
    refine ⟨rfl, ?_, fun c hc => Store.refuses_of_write hc hw⟩
    have hnot : ¬ (s'.store.tree? id).isSome := by
      rw [← Store.exists_write_iff s'.store id tree, hw]
      rintro ⟨store, hok⟩
      cases hok
    simpa using hnot

end Session

end ApiBundle
