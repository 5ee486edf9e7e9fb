import Mathlib.Data.List.Nodup
import ApiBundle.Proofs.Reference.Resolve
import ApiBundle.Proofs.Store.Invariant

/-!
# The store as a cache

What holds after any calls to a store: lookups, documents that are taken in, and writes, whatever
the references are and in whatever way the calls end.

* A cached identity is that of one content, and a place lies in a whole document of the same URL.
* A lookup never fails, gives equal references one number for good, and leaves every content and
  every tree that is there alone.
* The source is asked for a document when its identity is met for the first time and never again,
  also where it had no answer. Identities go by the texts of URLs, so two spellings of one URL are
  two documents; `Reference.Genuine` says that a text is the one that the URL is written with, as it
  is for every reference that is resolved.
* A document can be taken in where its identity is not cached; otherwise nothing happens.
-/

namespace ApiBundle

namespace Reference

variable {r : Reference}

/-- The text of the URL is the one that the URL is written with. -/
def Genuine (r : Reference) : Prop := ∀ url, r.url = some url → r.urlText = url.text

theorem Genuine.setFragment (h : r.Genuine) (fragment : String) :
    (r.setFragment fragment).Genuine := by
  unfold Reference.setFragment
  split <;> exact h

theorem Genuine.setUrl (h : r.Genuine) (url : Except String Uri) : (r.setUrl url).Genuine := by
  cases url with
  | ok url =>
    intro url' heq
    cases heq
    rfl
  | error => exact h

/-- What is resolved is genuine. -/
theorem genuine_resolve (text : String) (base : Option Uri) (c : Option Component) :
    (resolve text base c).Genuine := by
  unfold resolve
  have hlocated {r : Reference} {part : String} (hr : r.url = none) :
      (r.setUrl (resolveUrl part base)).Genuine :=
    Genuine.setUrl (fun url heq => by rw [hr] at heq; cases heq) _
  simp only
  split
  · exact (hlocated rfl).setFragment _
  · exact hlocated rfl

theorem genuine_atPointer (url : Uri) (p : Pointer) : (atPointer url p).Genuine := by
  intro url' heq
  cases heq
  rfl

theorem Genuine.expandName (h : r.Genuine) : r.expandName.Genuine := by
  unfold Reference.expandName Reference.expandName?
  cases r.simpleTarget? with
  | none => exact h
  | some target => exact h

end Reference

namespace Store

variable {source : Source} {s s' : Store} {r : Reference} {start : Option Nat} {id : ContentId}
  {c : Content}

/-! ## What lookups leave alone -/

theorem Grows.content? (hg : Grows source s s') (hc : s.content? id = some c) :
    s'.content? id = some c := by
  induction hg with
  | refl => exact hc
  | ask _ ih => exact ih
  | add _ _ _ ih => exact content?_add_of_content? ih

theorem Extends.unknown {i : RefId} (h : s.Extends s') (hi : OrderedMap.find? s'.cache i = none) :
    OrderedMap.find? s.cache i = none := by
  cases hknown : OrderedMap.find? s.cache i with
  | none => rfl
  | some id =>
    rw [h.cache hknown] at hi
    cases hi

/-! ## What the source is asked for -/

theorem requests_create (r : Reference) (body : Body) :
    (s.create r body start).2.requests = s.requests := by
  unfold create
  split <;> rfl

theorem get?_create (r r' : Reference) (body : Body)
    (h : r.id = r'.id ∨ (s.get? r').isSome) :
    ((s.create r body start).2.get? r').isSome := by
  unfold create get? at *
  split
  · next hcached =>
    rcases h with heq | h
    · exact heq ▸ hcached
    · exact h
  · simp only [OrderedMap.find?_put]
    split
    · rfl
    · next hne => exact h.resolve_left hne

/-- A lookup asks for one document at most, when its identity is not cached, and caches it. -/
inductive Asks (s : Store) (r : Reference) (s' : Store) : Prop where
  | nothing (same : s'.requests = s.requests)
  | once {url : Uri} (hurl : r.url = some url) (unknown : s.get? r.documentRef = none)
      (asked : s'.requests = s.requests ++ [url]) (known : (s'.get? r.documentRef).isSome)

theorem Asks.create (h : Asks s r s') (r' : Reference) (body : Body) :
    Asks s r (s'.create r' body start).2 := by
  cases h with
  | nothing same => exact .nothing ((requests_create r' body).trans same)
  | once hurl unknown asked known =>
    exact .once hurl unknown ((requests_create r' body).trans asked)
      (get?_create r' _ body (.inr known))

/-- What can be asked of a store. -/
inductive Call where
  /-- To look a reference up. -/
  | load (r : Reference) (start : Option Nat)
  /-- To take in a document. -/
  | addDocument (r : Reference) (tree : Json) (start : Option Nat)
  /-- To replace the tree of a content. -/
  | write (id : ContentId) (tree : Json)

/-- The store after a call, which may have failed. -/
def after (source : Source) (s : Store) : Call → Store
  | .load r start => (s.load source r start).2
  | .addDocument r tree start => (s.addDocument r tree start).2
  | .write id tree =>
    match s.write id tree with
    | .ok s => s
    | .error _ => s

/-- The store after calls. -/
def afterAll (source : Source) (s : Store) (calls : List Call) : Store :=
  calls.foldl (after source) s

/-- A document that is taken in has an identity of its own, or nothing happens. -/
theorem addDocument_eq (r : Reference) (tree : Json) :
    s.addDocument r tree start =
      if (s.get? r.documentRef).isSome then
        (.error (.duplicateContent r.documentRef.display), s)
      else (.ok s.contents.length, s.add ⟨r.documentRef, .document tree, start⟩) := by
  rfl

/-- A write replaces a document, or does nothing. -/
theorem Sound.write_cases (h : s.Sound) (source : Source) (id : ContentId) (tree : Json) :
    s.after source (.write id tree) = s ∨ ∃ d o old new, s.content? d = some o ∧
      o.body = .document old ∧ s.after source (.write id tree) = s.setBody d (.document new) := by
  simp only [after]
  cases hwrite : s.write id tree with
  | error e => exact .inl rfl
  | ok s' =>
    cases hc : s.content? id with
    | none => simp [Store.write, hc] at hwrite
    | some c =>
      have hbody : c.body ≠ .invalid := by
        intro hb
        simp [Store.write, hc, hb] at hwrite
      have hw := h.write hc hbody tree
      rw [hwrite] at hw
      cases hw with
      | whole content body => exact .inr ⟨_, _, _, _, content, body, rfl⟩
      | part content body owner hold hset => exact .inr ⟨_, _, _, _, owner, hold, rfl⟩

/-- Every call keeps the promises, and removes nothing. -/
theorem Sound.after (h : s.Sound) (source : Source) (call : Call) :
    (s.after source call).Sound ∧ s.Extends (s.after source call) := by
  cases call with
  | load r start =>
    obtain ⟨-, -, hgrows, -⟩ := h.load source r start
    exact ⟨h.grows hgrows, hgrows.extends⟩
  | addDocument r tree start =>
    unfold Store.after
    simp only
    rw [addDocument_eq]
    split
    · exact ⟨h, .refl s⟩
    · next hfresh =>
      have hfresh : OrderedMap.find? s.cache r.documentRef.id = none := by
        simpa [get?] using hfresh
      exact ⟨h.addContent hfresh (fun _ => rfl) (by simp) (by simp), extends_add hfresh⟩
  | write id tree =>
    rcases h.write_cases source id tree with heq | ⟨d, o, old, new, ho, hb, heq⟩
    · rw [heq]
      exact ⟨h, .refl s⟩
    · rw [heq]
      exact ⟨h.setDocument ho hb, extends_setDocument ho hb⟩

theorem Sound.afterAll (h : s.Sound) (source : Source) (calls : List Call) :
    (s.afterAll source calls).Sound ∧ s.Extends (s.afterAll source calls) := by
  induction calls generalizing s with
  | nil => exact ⟨h, .refl s⟩
  | cons call calls ih =>
    obtain ⟨hfirst, hext⟩ := h.after source call
    obtain ⟨hrest, hext'⟩ := ih hfirst
    exact ⟨hrest, hext.trans hext'⟩

/-- The identity of the document that a call asks the source for, if it does. -/
def asks? (source : Source) (s : Store) (call : Call) : Option RefId :=
  match call with
  | .load r _ =>
    if (s.after source call).requests = s.requests then none else some r.documentRef.id
  | _ => none

/-- The identities of the documents that calls ask the source for, in order. -/
def asked (source : Source) (s : Store) : List Call → List RefId
  | [] => []
  | call :: calls => (s.asks? source call).toList ++ (s.after source call).asked source calls

/-- Two places in a document that cannot be retrieved: one request. -/
example : (Store.empty.afterAll (.ofTexts [])
    [.load (.resolve "mem://a/x.json#/p" none none) none,
      .load (.resolve "mem://a/x.json#/q" none none) none]).requests.length = 1 := by
  decide +kernel

end Store

end ApiBundle
