import ApiBundle.Proofs.Reference.Adornment
import ApiBundle.Proofs.Scan.Frame
import ApiBundle.Proofs.Store.Faithful
import ApiBundle.Proofs.Tree.SameValue

/-!
# What a run can meet

The documents that are within reach of a run, and the reference texts in them, make up its
*horizon*. All references that the run comes across are readings of these texts against these
documents (`Horizon.readings`), or come from adornments that it has made itself, which keep the
identity. So a run within a finite horizon meets finitely many identities. `Horizon.Tame` is what
can be said of any node that the run comes across, and `Horizon.Stocked` what can be said of the
store; both are about documents whose references are written out, adorned by nobody else, and
straight: their pointers pass no reference node.
-/

namespace ApiBundle

open Json

/-- What a run can meet: its documents, with the URLs and the reference texts in them. -/
structure Horizon where
  /-- Where documents come from. -/
  source : Source
  /-- The dialect of the run. -/
  dialect : Dialect
  /-- The options of the run. -/
  options : Options
  /-- The tree of the document that a reference to it leads to. -/
  original : Reference → Option Json
  /-- The URLs of the documents. -/
  urls : List Uri
  /-- The texts of the references in them. -/
  texts : List String

namespace Horizon

variable (H : Horizon)

/-- The ways in which the references can be read. -/
def readings : List Reference :=
  H.urls.flatMap fun url => H.texts.flatMap fun text =>
    (none :: H.dialect.components.map some).flatMap fun c =>
      [.resolve text (some url) c, (Reference.resolve text (some url) c).expandName]

/-- The identities of the references. -/
def ids : List RefId := H.readings.map Reference.id

/-- A URL is that of a document: one within the horizon, or one that could be retrieved. -/
def Known (url : Uri) : Prop :=
  url.text ∈ H.urls.map Uri.text ∨ ∃ tree, Store.retrieve H.source url = .ok tree

/-- The pointer of a reference passes no reference node of the document that it leads into. -/
def Straight (r : Reference) : Prop :=
  ∀ tree, H.original r.documentRef = some tree → ¬PassesVolatile tree r.pointer.tokens

/-- A reference leads somewhere, and to no document beyond the horizon. -/
def Aimed (r : Reference) : Prop :=
  ∃ url, r.Sharp url ∧ Uri.parse url.text = .ok url ∧ (H.Known url → url ∈ H.urls) ∧ H.Straight r

/-- A reference is one of those within the horizon, or at least a faulty copy. -/
structure Admits (r : Reference) : Prop where
  id : r.id ∈ H.ids
  aimed : r.error = none → H.Aimed r

/-- The references at a node of a document are written out, and nobody has adorned them. -/
structure Written (x : Json) : Prop where
  literal : x.Literal
  plain : ∀ text, x.refText? = some text → x.member? adornmentKey = none ∧ text ∈ H.texts

instance : DecidablePred H.Written := fun x =>
  decidable_of_iff (x.Literal ∧ ∀ text ∈ x.refText?,
    x.member? adornmentKey = none ∧ text ∈ H.texts) ⟨fun h => ⟨h.1, h.2⟩, fun h => ⟨h.1, h.2⟩⟩

/-- A node of a document. -/
structure Documented (x : Json) : Prop extends H.Written x where
  distinct : x.Distinct

/-- A node that a run can come across: an adornment says again what reference there is. -/
structure Tame (x : Json) : Prop where
  distinct : x.Distinct
  literal : x.Literal
  refs : ∀ text, x.refText? = some text →
    (x.member? adornmentKey = none ∧ text ∈ H.texts) ∨
      ∃ r, r.text = text ∧ x.member? adornmentKey = some r.adornment ∧ H.Admits r

/-- Everything that is reached from the documents lies within the horizon. -/
structure Closed : Prop where
  congr : ∀ {r r' : Reference}, r.id = r'.id → r.url = r'.url → H.original r = H.original r'
  documents : ∀ url ∈ H.urls, ∀ tree, Store.retrieve H.source url = .ok tree →
    tree.Throughout H.Documented
  originals : ∀ {r : Reference} {tree : Json}, (∃ url ∈ H.urls, r.url = some url) →
    H.original r = some tree → tree.Throughout H.Documented
  reads : ∀ r ∈ H.readings, ∀ url, r.url = some url → Uri.parse url.text = .ok url
  known : ∀ r ∈ H.readings, ∀ url, r.url = some url → H.Known url → url ∈ H.urls
  straight : ∀ r ∈ H.readings, r.error = none → H.Straight r

variable {H : Horizon} {r : Reference} {x y node : Json}

theorem Documented.tame (h : H.Documented x) : H.Tame x :=
  ⟨h.distinct, h.literal, fun text ht => .inl (h.plain text ht)⟩

namespace Aimed

theorem withComponent (h : H.Aimed r) (c : Option Component) : H.Aimed (r.withComponent c) := by
  obtain ⟨url, hsharp, hread, hknown, hstraight⟩ := h
  exact ⟨url, hsharp.withComponent c, hread, hknown, hstraight⟩

/-- The document that an aimed reference leads into is aimed at as well. -/
theorem documentRef (h : H.Aimed r) : H.Aimed r.documentRef := by
  obtain ⟨url, hsharp, hread, hknown, -⟩ := h
  refine ⟨url, ⟨hsharp.url, hsharp.urlText, hsharp.whole, rfl⟩, hread, hknown, fun tree _ hp => ?_⟩
  cases hp

end Aimed

namespace Admits

theorem withComponent (h : H.Admits r) (c : Option Component) : H.Admits (r.withComponent c) :=
  ⟨h.id, fun he => (h.aimed he).withComponent c⟩

/-- A faulty copy of a reference has its identity. -/
theorem markInvalid (h : H.Admits r) (e : ReferenceError) : H.Admits (r.markInvalid e) := by
  refine ⟨h.id, fun he => ?_⟩
  have hsome := Store.markInvalid_isSome r e
  rw [he] at hsome
  cases hsome

/-- An adornment keeps what counts. -/
theorem kept (h : H.Admits r) : H.Admits r.kept := by
  refine ⟨h.id, fun he => ?_⟩
  have hvalid := Reference.error_kept.mp he
  obtain ⟨url, hsharp, hread, hrest⟩ := h.aimed hvalid
  rw [hsharp.kept_eq hread hvalid]
  exact Aimed.withComponent ⟨url, hsharp, hread, hrest⟩ _

end Admits

theorem Closed.admits_of_mem (h : H.Closed) (hr : r ∈ H.readings)
    (hsharp : r.error = none → ∃ url, r.Sharp url) : H.Admits r := by
  refine ⟨List.mem_map_of_mem hr, fun he => ?_⟩
  obtain ⟨url, hsharp⟩ := hsharp he
  exact ⟨url, hsharp, h.reads r hr url hsharp.url, h.known r hr url hsharp.url,
    h.straight r hr he⟩

/-- Whatever a text is read as lies within the horizon. -/
theorem Closed.admits_resolve (h : H.Closed) {text : String} {url : Uri} {c : Option Component}
    (hurl : url ∈ H.urls) (htext : text ∈ H.texts)
    (hc : ∀ c', c = some c' → c' ∈ H.dialect.components) :
    H.Admits (.resolve text (some url) c) ∧
      H.Admits (Reference.resolve text (some url) c).expandName := by
  have hmem : ∀ r ∈ [Reference.resolve text (some url) c,
      (Reference.resolve text (some url) c).expandName], r ∈ H.readings := by
    intro r hr
    refine List.mem_flatMap.mpr ⟨url, hurl, List.mem_flatMap.mpr ⟨text, htext,
      List.mem_flatMap.mpr ⟨c, ?_, hr⟩⟩⟩
    cases c with
    | none => exact List.mem_cons_self ..
    | some c => exact List.mem_cons_of_mem _ (List.mem_map_of_mem (hc c rfl))
  exact ⟨h.admits_of_mem (hmem _ (by simp)) Reference.sharp_resolve,
    h.admits_of_mem (hmem _ (by simp)) Reference.sharp_expandName⟩

/-! ## Nodes -/

namespace Tame

/-- The reference of a tame node is read from its adornment, if it has one. -/
theorem ofNode? (h : H.Tame x) (hr : Reference.ofNode? x = some r) :
    ∃ r₀, r = r₀.kept ∧ Scan.Holds x r₀ ∧ H.Admits r₀ := by
  have hparts := hr
  unfold Reference.ofNode? at hparts
  simp only [Option.bind_eq_bind, Option.bind_eq_some_iff] at hparts
  obtain ⟨text, htext, info, hinfo, -⟩ := hparts
  rcases h.refs text htext with ⟨hnone, -⟩ | ⟨r₀, rfl, hinfo', hadmits⟩
  · rw [hnone] at hinfo
    cases hinfo
  · rw [Scan.Holds.ofNode? ⟨htext, hinfo'⟩] at hr
    exact ⟨r₀, (Option.some.inj hr).symm, ⟨htext, hinfo'⟩, hadmits⟩

/-- The reference that a tame node holds lies within the horizon. -/
theorem admits (h : H.Tame x) (hclosed : H.Closed) {o : Options} {base : Reference}
    {t : Tracker Component} (hbase : ∃ url ∈ H.urls, base.url = some url)
    (htag : ∀ c, t.site.tag? = some c → c ∈ H.dialect.components)
    (hr : Scan.reference? o base x t = some r) : H.Admits r := by
  obtain ⟨url, hurl, hbase⟩ := hbase
  obtain ⟨text, htext, rfl⟩ := Option.map_eq_some_iff.mp hr
  cases hnode : Reference.ofNode? x with
  | some r =>
    obtain ⟨r₀, rfl, -, hadmits⟩ := h.ofNode? hnode
    exact hadmits.kept.withComponent _
  | none =>
    rcases h.refs text htext with ⟨-, hmem⟩ | ⟨r₀, rfl, hinfo, -⟩
    · obtain ⟨hplain, hexpanded⟩ := hclosed.admits_resolve hurl hmem htag
      simp only [hbase]
      split
      · exact hexpanded
      · exact hplain
    · rw [Scan.Holds.ofNode? ⟨htext, hinfo⟩] at hnode
      cases hnode

end Tame

theorem tame_of_plain (hdistinct : x.Distinct) (hlit : x.Literal) (hx : x.refText? = none) :
    H.Tame x :=
  ⟨hdistinct, hlit, fun text ht => by rw [hx] at ht; cases ht⟩

theorem tame_bare (hdistinct : x.Distinct) (h : x.Bare) : H.Tame x := by
  have hmember : x.member? refKey = none := h
  refine tame_of_plain hdistinct (fun y hy => ?_) (by simp [refText?, hmember])
  rw [hmember] at hy
  cases hy

/-! ## Trees -/

theorem literal_of_tame (h : x.Throughout H.Tame) : x.Throughout Literal := h.mono Tame.literal

/-- A tame node stays tame when the nodes below it change as they do in walks. -/
theorem tame_withKids {ys : List Json} (h : x.Throughout H.Tame)
    (hlen : ys.length = x.kids.length)
    (hys : ∀ k ∈ x.kids.zip ys, Kept k.1.2 k.2 ∧ k.2.Throughout H.Tame) :
    (x.withKids ys).Throughout H.Tame := by
  have member : ∀ {name b}, (x.withKids ys).member? name = some b →
      ∃ a, x.member? name = some a ∧ Kept a b := by
    intro name b hb
    rw [member?_eq_step?] at hb
    obtain ⟨a, ha, hmem⟩ := step?_withKids hlen hb
    exact ⟨a, (member?_eq_step? x name).trans ha, (hys _ hmem).1⟩
  have literal {name : String} {a : Json} (ha : x.member? name = some a) :
      a.Throughout Literal := literal_of_tame (h.member? ha)
  refine .withKids hlen ⟨h.here.distinct.withKids hlen, fun b hb => ?_, fun text ht => ?_⟩
    fun k hk => (hys k hk).2
  · obtain ⟨a, ha, hkept⟩ := member hb
    exact hkept.refText?_eq_none (literal ha) (h.here.literal a ha)
  · obtain ⟨a, ha, hkept⟩ := member (refText?_of_member?.mp ht)
    have hstring := hkept.eq_string (not_volatile (literal ha) (h.here.literal a ha))
    rw [hstring] at ha
    rcases h.here.refs text (refText?_of_member?.mpr ha) with ⟨hnone, hmem⟩ | ⟨r, hr, hinfo, had⟩
    · refine .inl ⟨?_, hmem⟩
      cases hb : (x.withKids ys).member? adornmentKey with
      | none => rfl
      | some b =>
        obtain ⟨a', ha', -⟩ := member hb
        rw [hnone] at ha'
        cases ha'
    · refine .inr ⟨r, hr, ?_, had⟩
      rw [member?_eq_step?] at hinfo
      obtain ⟨b, hb, hmem⟩ := step?_withKids_of_step? hlen hinfo
      have hkept : Kept r.adornment b := (hys _ hmem).1
      rw [member?_eq_step?, hb, hkept.eq_of_bare ((Scan.plain_adornment r).mono Plain.bare)]

theorem tame_plain (h : x.Throughout Plain) : x.Throughout H.Tame :=
  h.mono fun hx => tame_bare hx.distinct hx.bare

theorem kids_replace {P : Json → Prop} {step : Segment} {new : Json}
    (h : x.Throughout P) (hnew : new.Throughout P) {k : Segment × Json}
    (hk : k ∈ (x.replace step new).kids) : k.2.Throughout P := by
  cases x with
  | object ms =>
    cases step with
    | key name =>
      obtain ⟨m, hm, rfl⟩ := List.mem_map.mp hk
      rcases OrderedMap.mem_put hm with hm | rfl
      · exact h.kid (List.mem_map_of_mem hm)
      · exact hnew
    | index i => exact h.kid hk
  | array xs =>
    cases step with
    | key name => exact h.kid hk
    | index i =>
      obtain ⟨j, -, hj⟩ := mem_indexed hk
      rcases List.mem_or_eq_of_mem_set (List.mem_of_getElem? hj) with hmem | heq
      · obtain ⟨l, hl⟩ := List.getElem?_of_mem hmem
        have hstep : (array xs).step? (.index l) = some k.2 := hl
        exact h.step? hstep
      · exact heq ▸ hnew
  | null | bool | number | string => cases step <;> exact h.kid hk

theorem distinct_replace {step : Segment} {new : Json} (h : x.Distinct) :
    (x.replace step new).Distinct := by
  intro ms hms
  cases x with
  | object ms' =>
    cases step with
    | key name =>
      cases hms
      exact OrderedMap.nodup_keys_put (h ms' rfl) _ _
    | index i => exact h ms hms
  | array xs => cases step <;> cases hms
  | null | bool | number | string => cases step <;> cases hms

/-- Writing a tame tree to a place that a straight pointer leads to. -/
theorem tame_overwrite {t u value new : Json} {tokens : List String} (h : u.Throughout H.Tame)
    (ht : t.Throughout Literal) (hkept : Kept t u) (hfirm : ¬PassesVolatile t tokens)
    (hvalue : value.Throughout H.Tame)
    (hplace : ∀ a, Pointer.lookup t tokens = some a → Kept a value)
    (hnew : Pointer.overwrite u value tokens = some new) : new.Throughout H.Tame := by
  have hkept' : Kept t new := hkept.overwrite (fun a _ ha => hplace a ha) hnew
  induction tokens generalizing t u new with
  | nil =>
    cases hnew
    exact hvalue
  | cons token rest ih =>
    have hv : ¬Volatile t := fun hv => hfirm (.here hv)
    have ht' : t.refText? = none := by
      cases htext : t.refText? with
      | none => rfl
      | some text => exact absurd (volatile_of_refText? (by rw [htext]; rfl)) hv
    have hkids := hkept.kidwise hv
    obtain ⟨step, old, child', hstep, hold, hrest, rfl⟩ := Pointer.overwrite_cons hnew
    obtain ⟨a, ha, haold⟩ := hkids.step? hold
    have hchild : Pointer.child? t token = some a := by
      rw [Pointer.child?_eq, ← Kept.segment?_eq hkids, hstep]
      exact ha
    have hplace' : ∀ a', Pointer.lookup a rest = some a' → Kept a' value := fun a' ha' =>
      hplace a' (by simp only [Pointer.lookup, hchild, Option.bind_some, ha'])
    have hbelow := ih (h.step? hold) (ht.step? ha) haold
      (fun hp => hfirm (.deeper hchild hp)) hplace' hrest
      (haold.overwrite (fun a' _ ha' => hplace' a' ha') hrest)
    exact .mk (tame_of_plain (distinct_replace h.here.distinct) (hkept'.literal ht ht')
      (hkept'.refText?_eq_none ht ht')) fun k hk => kids_replace h hbelow hk

/-- Adorning a node with a reference from within the horizon. -/
theorem tame_adorned (h : x.Throughout H.Tame) {text : String} (hx : x.refText? = some text)
    (hr : H.Admits r) : (Scan.adorned x r).Throughout H.Tame := by
  have href := Scan.refText?_adorned hx r
  refine .mk ⟨?_, fun y hy => ?_, fun text' ht => .inr ⟨r, ?_, ?_, hr⟩⟩ fun k hk => ?_
  · obtain ⟨ms, rfl, -⟩ := Scan.object_of_refText? hx
    intro ms' heq
    rw [Scan.adorned_object] at heq
    cases heq
    exact OrderedMap.nodup_keys_put (OrderedMap.nodup_keys_put (h.here.distinct ms rfl) _ _) _ _
  · rw [refText?_of_member?.mp href] at hy
    cases hy
    rfl
  · exact Option.some.inj (href.symm.trans ht)
  · exact (Scan.holds_adorned hx r).info
  · rcases Scan.mem_kids_adorned hx hk with hk | rfl | rfl
    · exact h.kid hk
    · exact tame_plain (Scan.plain_string _)
    · exact tame_plain (Scan.plain_adornment r)

/-- Taking the special members off a node. -/
theorem tame_withoutRef (h : x.Throughout H.Tame) : x.withoutRef.Throughout H.Tame := by
  cases x with
  | object ms =>
    have hmember : (object ms).withoutRef.member? refKey = none := by
      cases hfind : (object ms).withoutRef.member? refKey with
      | none => rfl
      | some y =>
        have hmem := (List.mem_filter.mp (OrderedMap.mem_of_find? hfind)).2
        simp at hmem
    refine .mk (tame_bare ?_ hmember) fun k hk => ?_
    · intro ms' heq
      cases heq
      exact (h.here.distinct ms rfl).sublist (List.filter_sublist.map _)
    · obtain ⟨m, hm, rfl⟩ := List.mem_map.mp hk
      exact h.kid (List.mem_map_of_mem (List.mem_filter.mp hm).1)
  | _ => exact h

end Horizon

end ApiBundle
