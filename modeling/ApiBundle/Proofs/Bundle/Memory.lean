import ApiBundle.Proofs.Bundle.Termination

/-!
# Runs over documents in memory

Finitely many documents in memory hold finitely many references, and a reference to a document that
is not among them fails. So they confine a run, provided that their references are written out and
straight (`Bundle.Ordinary`): whatever leads back to where it came from, the run comes to an end.
-/

namespace ApiBundle

namespace Json

mutual

/-- The texts of the reference nodes of a tree. -/
def refTexts : Json → List String
  | .object ms => (refText? (.object ms)).toList ++ refTextsOfMembers ms
  | .array xs => refTextsOfItems xs
  | .null | .bool _ | .number _ | .string _ => []

/-- The texts of the reference nodes of some trees. -/
def refTextsOfItems : List Json → List String
  | [] => []
  | x :: xs => refTexts x ++ refTextsOfItems xs

/-- The texts of the reference nodes below some members. -/
def refTextsOfMembers : List (String × Json) → List String
  | [] => []
  | (_, x) :: ms => refTexts x ++ refTextsOfMembers ms

end

theorem mem_refTextsOfItems {xs : List Json} {x : Json} {text : String} (hx : x ∈ xs)
    (h : text ∈ x.refTexts) : text ∈ refTextsOfItems xs := by
  induction xs with
  | nil => cases hx
  | cons y ys ih =>
    rw [refTextsOfItems]
    rcases List.mem_cons.mp hx with rfl | hx
    · exact List.mem_append_left _ h
    · exact List.mem_append_right _ (ih hx)

theorem mem_refTextsOfMembers {ms : List (String × Json)} {m : String × Json} {text : String}
    (hm : m ∈ ms) (h : text ∈ m.2.refTexts) : text ∈ refTextsOfMembers ms := by
  induction ms with
  | nil => cases hm
  | cons n ms ih =>
    obtain ⟨name, y⟩ := n
    rw [refTextsOfMembers]
    rcases List.mem_cons.mp hm with rfl | hm
    · exact List.mem_append_left _ h
    · exact List.mem_append_right _ (ih hm)

theorem throughout_refTexts (x : Json) :
    x.Throughout fun y => ∀ text, y.refText? = some text → text ∈ x.refTexts := by
  cases x with
  | object ms =>
    refine throughout_object.mpr ⟨fun text htext => ?_, fun m hm => ?_⟩
    · rw [refTexts, htext]
      exact List.mem_append_left _ (List.mem_singleton_self _)
    · have := List.sizeOf_lt_of_mem hm
      obtain ⟨name, y⟩ := m
      have hlt : sizeOf y < sizeOf (name, y) := by
        simp only [Prod.mk.sizeOf_spec]
        omega
      refine (throughout_refTexts y).mono fun h text htext => ?_
      rw [refTexts]
      exact List.mem_append_right _ (mem_refTextsOfMembers hm (h text htext))
  | array xs =>
    refine throughout_array.mpr ⟨fun text htext => (by cases htext), fun y hy => ?_⟩
    have := List.sizeOf_lt_of_mem hy
    refine (throughout_refTexts y).mono fun h text htext => ?_
    rw [refTexts]
    exact mem_refTextsOfItems hy (h text htext)
  | null | bool | number | string =>
    exact (throughout_leaf rfl).mpr fun text htext => by cases htext
termination_by sizeOf x

/-- A node whose reference is a text in its `$ref` member, and that nobody has adorned. -/
structure WrittenOut (x : Json) : Prop where
  literal : x.Literal
  unadorned : x.refText?.isSome → x.member? adornmentKey = none

instance : DecidablePred WrittenOut := fun x =>
  decidable_of_iff (x.Literal ∧ (x.refText?.isSome → x.member? adornmentKey = none))
    ⟨fun h => ⟨h.1, h.2⟩, fun h => ⟨h.literal, h.unadorned⟩⟩

end Json

namespace Bundle

open Json Scanning Scan Store

/-- The URL that a key of a document in memory belongs to, if it is the text of one. -/
def urlOfKey? (key : String) : Option Uri := (Uri.parse key).toOption.filter (·.text = key)

/-- The URLs of the root and of the documents in memory. -/
def reach (docs : Source.Texts) (root : Uri) : List Uri :=
  (Reference.forDocument root).url.toList ++ docs.filterMap fun entry => urlOfKey? entry.1

/-- The texts of the references in the root and in the documents in memory. -/
def textsOf (docs : Source.Texts) (tree : Json) : List String :=
  tree.refTexts ++
    docs.flatMap fun entry => (parseDocument entry.2).toOption.toList.flatMap refTexts

/-- What a run over documents in memory can meet. -/
def memory (docs : Source.Texts) (o : Options) (root : Uri) (tree : Json) (d : Dialect) :
    Horizon :=
  horizon (.ofTexts docs) o root tree d (reach docs root) (textsOf docs tree)

/--
The references of the documents are written out and straight, and URLs can be read back from their
texts.
-/
structure Ordinary (docs : Source.Texts) (o : Options) (root : Uri) (tree : Json) (d : Dialect) :
    Prop where
  home : (Reference.forDocument root).documentRef.error = none
  written : tree.Throughout WrittenOut
  documents : ∀ entry ∈ docs, ∀ document, parseDocument entry.2 = .ok document →
    document.Throughout WrittenOut
  reads : ∀ r ∈ tops o root ++ (memory docs o root tree d).readings,
    ∀ url, r.url = some url → Uri.parse url.text = .ok url
  straight : ∀ r ∈ (memory docs o root tree d).readings, r.error = none →
    (memory docs o root tree d).Straight r

variable {docs : Source.Texts} {o : Options} {root : Uri} {tree : Json} {d : Dialect} {url : Uri}

/-- What is retrieved from memory is there under the URL. -/
theorem mem_of_retrieve {document : Json} (h : retrieve (.ofTexts docs) url = .ok document) :
    ∃ text, (Source.key url, text) ∈ docs ∧ parseDocument text = .ok document := by
  unfold retrieve at h
  obtain ⟨text, htext, hparse⟩ := except_bind_eq_ok.mp h
  refine ⟨text, ?_, mapError_eq_ok hparse⟩
  have hsource : Source.ofTexts docs url = .ok text := mapError_eq_ok htext
  unfold Source.ofTexts at hsource
  cases hfind : OrderedMap.find? docs (Source.key url) with
  | none =>
    rw [hfind] at hsource
    cases hsource
  | some text' =>
    rw [hfind] at hsource
    cases hsource
    exact OrderedMap.mem_of_find? hfind

/-- The references of a run are those to its top documents, and readings. -/
theorem whole_of_mem {r : Reference} (hr : r ∈ tops o root ++ (memory docs o root tree d).readings)
    (hurl : r.url = some url) : url.withoutFragment = url := by
  rcases List.mem_append.mp hr with htop | hreading
  · rcases List.mem_cons.mp htop with rfl | hfile
    · exact Reference.withoutFragment_of_resolve hurl
    · obtain ⟨location, -, rfl⟩ := List.mem_map.mp hfile
      exact Reference.withoutFragment_of_resolve hurl
  · obtain ⟨base, -, hreading⟩ := List.mem_flatMap.mp hreading
    obtain ⟨text, -, hreading⟩ := List.mem_flatMap.mp hreading
    obtain ⟨c, -, hreading⟩ := List.mem_flatMap.mp hreading
    rcases List.mem_cons.mp hreading with rfl | hexpanded
    · exact Reference.withoutFragment_of_resolve hurl
    · rw [List.mem_singleton.mp hexpanded, Reference.url_expandName] at hurl
      exact Reference.withoutFragment_of_resolve hurl

theorem urlOfKey?_eq_some {key : String} :
    urlOfKey? key = some url ↔ Uri.parse key = .ok url ∧ url.text = key := by
  unfold urlOfKey?
  cases hparse : Uri.parse key with
  | error e => simp [Except.toOption]
  | ok u =>
    simp only [Except.toOption, Option.filter_eq_some_iff, Option.some.injEq, decide_eq_true_eq,
      Except.ok.injEq]

theorem mem_reach : url ∈ reach docs root ↔ (Reference.forDocument root).url = some url ∨
    ∃ entry ∈ docs, Uri.parse entry.1 = .ok url ∧ url.text = entry.1 := by
  simp only [reach, List.mem_append, Option.mem_toList, List.mem_filterMap,
    urlOfKey?_eq_some]

theorem written_of_mem {x : Json} (hx : x.Throughout WrittenOut)
    (htexts : ∀ text ∈ x.refTexts, text ∈ textsOf docs tree) :
    x.Throughout (memory docs o root tree d).Written := by
  refine (hx.and (throughout_refTexts x)).mono fun {y} hy => ⟨hy.1.literal, fun text htext => ?_⟩
  refine ⟨hy.1.unadorned (by rw [htext]; rfl), htexts text (hy.2 text htext)⟩

/-- Documents in memory confine a run. -/
theorem Ordinary.confined (h : Ordinary docs o root tree d) :
    Confined (.ofTexts docs) o root tree d (reach docs root) (textsOf docs tree) where
  home := fun url hurl => by
    unfold reach
    rw [hurl]
    exact List.mem_append_left _ (List.mem_singleton_self _)
  written := written_of_mem h.written fun text ht => List.mem_append_left _ ht
  documents := fun url _ document hread => by
    obtain ⟨text, hmem, hparse⟩ := mem_of_retrieve hread
    refine written_of_mem (h.documents _ hmem document hparse) fun t ht => ?_
    refine List.mem_append_right _ (List.mem_flatMap.mpr ⟨_, hmem, ?_⟩)
    rw [show (parseDocument text).toOption = some document by rw [hparse]; rfl]
    simpa using ht
  reads := h.reads
  known := fun r hr url hurl hknown => by
    have hread := h.reads r hr url hurl
    rcases hknown with htext | ⟨document, hretrieve⟩
    · obtain ⟨u, hu, htext⟩ := List.mem_map.mp htext
      have hback : Uri.parse u.text = .ok u := by
        rcases mem_reach.mp hu with hroot | ⟨entry, -, hparse, hkey⟩
        · exact h.reads _ (List.mem_append_left _ (List.mem_cons_self ..)) u hroot
        · rwa [hkey]
      rw [htext, hread] at hback
      exact Except.ok.inj hback ▸ hu
    · obtain ⟨text, hmem, -⟩ := mem_of_retrieve hretrieve
      have hkey : Source.key url = url.text := by
        unfold Source.key
        rw [whole_of_mem hr hurl]
      exact mem_reach.mpr (.inr ⟨_, hmem, hkey ▸ hread, hkey.symm⟩)
  straight := h.straight

/--
A run over ordinary documents in memory has an outcome, the same one for all bounds that are large
enough, whatever references lead back to where they came from.
-/
theorem ofTree_comes (hwell : tree.WellFormed)
    (h : ∀ d, dialectFor o root tree = .ok d → Ordinary docs o root tree d) :
    ∃ outcome bound, ∀ b ≥ bound, ofTree b (.ofTexts docs) o root tree = some outcome := by
  unfold ofTree
  cases hdialect : dialectFor o root tree with
  | error e => exact ⟨⟨.error e, []⟩, 0, fun b _ => rfl⟩
  | ok d =>
    have hordinary := h d hdialect
    obtain ⟨result, s', ⟨bound, hends⟩, -⟩ :=
      hordinary.confined.stays_run hwell hordinary.home
    refine ⟨⟨result, s'.store.requests⟩, bound, fun b hb => ?_⟩
    have hended : ended b (.ofTexts docs) o root tree d = some (result, s') := hends b hb
    simp only [hended]
    rfl

namespace Loop

/-- The URL of the root. -/
def home : Uri := ⟨"mem", some (.ofHost (some (.name "a"))), "/main.json", none, none⟩

/-- A root that refers to itself and to the other document. -/
def homeTree : Json :=
  .object [("swagger", .string "2.0"), ("x-self", .object [("$ref", .string "#")]),
    ("definitions", .object [("Node", .object [("$ref", .string "part.json#/Node")])])]

/-- A document that refers to itself, to the root, and to where the root refers to it. -/
def partText : String :=
  "\x7b\"Node\":\x7b\"next\":\x7b\"$ref\":\"main.json#/definitions/Node\"\x7d," ++
    "\"all\":\x7b\"$ref\":\"main.json\"\x7d,\"kin\":\x7b\"$ref\":\"#/Node\"\x7d\x7d\x7d"

/-- The other document. -/
def documents : Source.Texts := [("mem://a/part.json", partText)]

set_option maxRecDepth 10000

theorem ordinary : Ordinary documents .default home homeTree .swagger2 where
  home := by decide
  written := by decide
  documents := by
    have h : ∀ entry ∈ documents, ∀ document ∈ (parseDocument entry.2).toOption,
        document.Throughout WrittenOut := by decide +kernel
    intro entry hentry document hparse
    exact h entry hentry document (by rw [hparse]; rfl)
  reads := by
    have h : ∀ r ∈ tops .default home ++
        (memory documents .default home homeTree .swagger2).readings,
          ∀ url ∈ r.url, (Uri.parse url.text).toOption = some url := by decide +kernel
    exact fun r hr url hurl => ok_of_toOption (h r hr url hurl)
  straight := by
    have h : ∀ r ∈ (memory documents .default home homeTree .swagger2).readings,
        ∀ t ∈ original (.ofTexts documents) home homeTree r.documentRef,
          t.Throughout Literal ∧ t.passesRef r.pointer.tokens = false := by decide +kernel
    intro r hr _ t ht
    exact not_passesVolatile (h r hr t ht).1 (h r hr t ht).2

theorem wellFormed_homeTree : homeTree.WellFormed := by
  simp [homeTree, WellFormed, WellFormedMembers, OrderedMap.keys]

theorem ordinary_of_dialect {d : Dialect} (h : dialectFor .default home homeTree = .ok d) :
    Ordinary documents .default home homeTree d := by
  have hdialect : dialectFor .default home homeTree = .ok .swagger2 :=
    ok_of_toOption (by decide)
  cases hdialect.symm.trans h
  exact ordinary

end Loop

theorem ofTree_comes_loop :
    (∀ d, dialectFor .default Loop.home Loop.homeTree = .ok d →
      Ordinary Loop.documents .default Loop.home Loop.homeTree d) ∧
    ∃ outcome bound, ∀ b ≥ bound,
      ofTree b (.ofTexts Loop.documents) .default Loop.home Loop.homeTree = some outcome :=
  ⟨fun _ => Loop.ordinary_of_dialect,
    ofTree_comes Loop.wellFormed_homeTree fun _ => Loop.ordinary_of_dialect⟩

end Bundle

end ApiBundle
