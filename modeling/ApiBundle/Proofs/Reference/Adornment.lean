import ApiBundle.Proofs.Reference.Resolve
import ApiBundle.Proofs.Tree.SameValue
import ApiBundle.Scan

/-!
# Adorned nodes

The node of a reference that was adorned says again what the reference is (`Reference.kept`). Only
the component is not taken from it: a node may be scanned at several sites, and each of them brings
its own.
-/

namespace ApiBundle

namespace Reference

variable {r r' : Reference} {u : Uri} {o : Options}

/-- What an adornment keeps of a reference. -/
def kept (r : Reference) : Reference :=
  ⟨r.text, (Uri.parse r.urlText).toOption, r.urlText, r.fragment,
    (r.fragment.bind fun f => (Pointer.parse f).toOption).getD .root,
    r.component.bind fun c => Component.ofJson? c.toJson, recordedError r.adornment⟩

@[simp]
theorem id_kept (r : Reference) : r.kept.id = r.id := rfl

/-- An adornment tells whether something has gone wrong. -/
theorem error_kept : r.kept.error = none ↔ r.error = none := by
  obtain ⟨_, _, _, fragment, _, component, error⟩ := r
  cases fragment <;> cases component <;> cases error <;>
    simp [kept, recordedError, adornment, Json.member?, OrderedMap.find?, isValid, Json.bool?]

/-- The place of a sharp reference is read off its fragment. -/
theorem Sharp.pointer_eq (h : r.Sharp u) :
    (r.fragment.bind fun f => (Pointer.parse f).toOption).getD .root = r.pointer := by
  cases hf : r.fragment with
  | none => exact (h.pointer_of_whole hf).symm
  | some f => simp [h.pointer_of_fragment hf, Except.toOption]

/-- Of a sharp reference whose URL reads back, an adornment keeps all but the component. -/
theorem Sharp.kept_eq (h : r.Sharp u) (hread : Uri.parse u.text = .ok u)
    (hvalid : r.error = none) : r.kept = r.withComponent r.kept.component := by
  have herror : recordedError r.adornment = r.error := (error_kept.mpr hvalid).trans hvalid.symm
  have hurl : (Uri.parse r.urlText).toOption = r.url := by
    rw [h.urlText, hread, h.url]
    rfl
  simp only [kept, h.pointer_eq, herror, hurl]
  rfl

/-- What is done with a reference depends on its component, and on whether it is valid. -/
theorem treatment_congr (herror : r.error = none ↔ r'.error = none)
    (hcomponent : r.component = r'.component) : r.treatment o = r'.treatment o := by
  have hvalid : r.isValid = r'.isValid := by
    unfold isValid
    cases hr : r.error <;> cases hr' : r'.error <;> simp_all
  unfold treatment
  rw [hvalid, hcomponent]

end Reference

namespace Scan

open Json

variable {node : Json} {r r' : Reference}

/-- The members of a reference node with its adornment. -/
theorem adorned_object (ms : List (String × Json)) (r : Reference) :
    adorned (.object ms) r = .object (OrderedMap.put (OrderedMap.put ms refKey (.string r.text))
      adornmentKey r.adornment) := rfl

theorem object_of_refText? {text : String} (h : node.refText? = some text) :
    ∃ ms, node = .object ms ∧ OrderedMap.find? ms refKey = some (.string text) := by
  unfold refText? at h
  obtain ⟨x, hx, htext⟩ := Option.bind_eq_some_iff.mp h
  cases node with
  | object ms =>
    refine ⟨ms, rfl, ?_⟩
    cases x with
    | string text' =>
      cases htext
      exact hx
    | _ => cases htext
  | _ => cases hx

theorem refKey_ne_adornmentKey : refKey ≠ adornmentKey := by decide

/-- The members of an adorned node. -/
theorem member?_adorned {text : String} (h : node.refText? = some text) (r : Reference)
    (name : String) : (adorned node r).member? name =
      if adornmentKey = name then some r.adornment
      else if refKey = name then some (.string r.text) else node.member? name := by
  obtain ⟨ms, rfl, -⟩ := object_of_refText? h
  rw [adorned_object]
  simp only [member?, OrderedMap.find?_put]

theorem refText?_adorned {text : String} (h : node.refText? = some text) (r : Reference) :
    (adorned node r).refText? = some r.text := by
  unfold refText?
  rw [member?_adorned h, if_neg refKey_ne_adornmentKey.symm, if_pos rfl]
  rfl

/-- Adorning again replaces the adornment. -/
theorem adorned_adorned {text : String} (h : node.refText? = some text) :
    adorned (adorned node r) r' = adorned node r' := by
  obtain ⟨ms, rfl, hfind⟩ := object_of_refText? h
  simp only [adorned_object]
  have hmem : refKey ∈ OrderedMap.keys (OrderedMap.put ms refKey (.string r.text)) :=
    OrderedMap.mem_keys_of_find? (v := .string r.text) (by simp [OrderedMap.find?_put])
  rw [OrderedMap.put_comm hmem refKey_ne_adornmentKey, OrderedMap.put_put, OrderedMap.put_put]

theorem plain_string (text : String) : Throughout Plain (.string text) :=
  .mk ⟨by simp [Distinct], rfl⟩ (by simp [kids])

/-- What holds of nodes without special members holds throughout an adornment. -/
theorem throughout_adornment {P : Json → Prop}
    (hP : ∀ x : Json, x.Distinct → x.Bare → x.member? adornmentKey = none → P x) (r : Reference) :
    Throughout P r.adornment := by
  have leaf (x : Json) (hkids : x.kids = []) (hobject : ∀ ms, x ≠ .object ms) :
      Throughout P x := by
    refine .mk (hP x (fun ms h => absurd h (hobject ms)) ?_ ?_) (by simp [hkids])
    · cases x with
      | object ms => exact absurd rfl (hobject ms)
      | _ => rfl
    · cases x with
      | object ms => exact absurd rfl (hobject ms)
      | _ => rfl
  have object (ms : List (String × Json)) (hdistinct : (OrderedMap.keys ms).Nodup)
      (href : refKey ∉ OrderedMap.keys ms) (hinfo : adornmentKey ∉ OrderedMap.keys ms)
      (hbelow : ∀ m ∈ ms, Throughout P m.2) : Throughout P (.object ms) := by
    refine throughout_object.mpr ⟨hP _ (fun ms' h => ?_) ?_ ?_, hbelow⟩
    · cases h
      exact hdistinct
    · exact OrderedMap.find?_eq_none_of_not_mem href
    · exact OrderedMap.find?_eq_none_of_not_mem hinfo
  have text (value : String) : Throughout P (.string value) := leaf _ rfl (by simp)
  have pair : ∀ k l value value', [k, l].Nodup → refKey ∉ [k, l] → adornmentKey ∉ [k, l] →
      Throughout P (.object [(k, .string value), (l, .string value')]) := by
    intro k l value value' hkl href hinfo
    refine object _ hkl href hinfo fun m hm => ?_
    simp only [List.mem_cons, List.not_mem_nil, or_false] at hm
    rcases hm with rfl | rfl <;> exact text _
  refine object _ ?_ ?_ ?_ fun m hm => ?_
  · obtain ⟨_, _, _, fragment, _, component, error⟩ := r
    cases fragment <;> cases component <;> cases error <;> simp [OrderedMap.keys]
  · obtain ⟨_, _, _, fragment, _, component, error⟩ := r
    cases fragment <;> cases component <;> cases error <;> simp [OrderedMap.keys, refKey]
  · obtain ⟨_, _, _, fragment, _, component, error⟩ := r
    cases fragment <;> cases component <;> cases error <;> simp [OrderedMap.keys, adornmentKey]
  · simp only [List.mem_append, List.mem_cons, List.not_mem_nil, or_false, Option.mem_toList,
      Option.map_eq_some_iff] at hm
    rcases hm with (((rfl | rfl) | ⟨f, -, rfl⟩) | ⟨c, -, rfl⟩) | hm
    · exact leaf _ rfl (by simp)
    · exact text _
    · exact text _
    · exact pair _ _ _ _ (by decide) (by decide) (by decide)
    · split at hm
      · simp only [List.mem_cons, List.not_mem_nil, or_false] at hm
        rcases hm with rfl | rfl
        · exact text _
        · exact pair _ _ _ _ (by decide) (by decide) (by decide)
      · cases hm

/-- An adornment holds no reference. -/
theorem plain_adornment (r : Reference) : Throughout Plain r.adornment :=
  throughout_adornment (fun _ hdistinct hbare _ => ⟨hdistinct, hbare⟩) r

/-- A reference node has the text and the adornment of a reference. -/
structure Holds (node : Json) (r : Reference) : Prop where
  text : node.refText? = some r.text
  info : node.member? adornmentKey = some r.adornment

/-- A node with an adornment gives back what the adornment keeps. -/
theorem Holds.ofNode? (h : Holds node r) : Reference.ofNode? node = some r.kept := by
  unfold Reference.ofNode?
  simp only [Option.bind_eq_bind, h.text, Option.bind_some, h.info]
  obtain ⟨_, _, _, fragment, _, component, error⟩ := r
  cases fragment <;> cases component <;> cases error <;>
    simp [Reference.kept, Reference.adornment, Json.member?, OrderedMap.find?, Json.string?]

theorem holds_adorned {text : String} (h : node.refText? = some text) (r : Reference) :
    Holds (adorned node r) r :=
  ⟨refText?_adorned h r, (member?_adorned h _ _).trans (if_pos rfl)⟩

/-- A member without any reference stays whatever is done below a node. -/
theorem member?_withKids {ys : List Json} (hlen : ys.length = node.kids.length)
    (hys : ∀ k ∈ node.kids.zip ys, Kept k.1.2 k.2) {name : String} {a : Json}
    (ha : node.member? name = some a) (hbare : Throughout Bare a) :
    (node.withKids ys).member? name = some a := by
  rw [member?_eq_step?] at ha ⊢
  obtain ⟨b, hb, hmem⟩ := step?_withKids_of_step? hlen ha
  have hkept : Kept a b := hys _ hmem
  rw [hb, hkept.eq_of_bare hbare]

/-- The text of a reference node stays whatever is done below it. -/
theorem refText?_withKids {ys : List Json} (hlen : ys.length = node.kids.length)
    (hys : ∀ k ∈ node.kids.zip ys, Kept k.1.2 k.2) {text : String} (h : node.refText? = some text) :
    (node.withKids ys).refText? = some text :=
  refText?_of_member?.mpr (member?_withKids hlen hys (refText?_of_member?.mp h)
    ((plain_string _).mono Plain.bare))

/-- What lies below an adorned node does not matter, as long as it is left alone itself. -/
theorem Holds.withKids {ys : List Json} (h : Holds node r) (hlen : ys.length = node.kids.length)
    (hys : ∀ k ∈ node.kids.zip ys, Kept k.1.2 k.2) : Holds (node.withKids ys) r :=
  ⟨refText?_withKids hlen hys h.text,
    member?_withKids hlen hys h.info ((plain_adornment r).mono Plain.bare)⟩

/-- A node gives a reference back, and nothing in its adornment is one. -/
structure ReadsBack (node : Json) (r : Reference) : Prop where
  ref : Reference.ofNode? node = some r
  bare : ∀ info, node.member? adornmentKey = some info → Throughout Bare info

theorem Holds.readsBack (h : Holds node r) : ReadsBack node r.kept := by
  refine ⟨h.ofNode?, fun info hinfo => ?_⟩
  rw [h.info] at hinfo
  cases hinfo
  exact (plain_adornment r).mono Plain.bare

/-- The reference that an adornment makes of a text. -/
def readOff (text urlText : String) (info : Json) : Reference :=
  let fragment := (info.member? "fragment").bind string?
  ⟨text, (Uri.parse urlText).toOption, urlText, fragment,
    (fragment.bind fun f => (Pointer.parse f).toOption).getD .root,
    (info.member? "component").bind Component.ofJson?, Reference.recordedError info⟩

theorem ofNode?_eq_some : Reference.ofNode? node = some r ↔ ∃ text info urlText,
    node.refText? = some text ∧ node.member? adornmentKey = some info ∧
      (info.member? "url").bind string? = some urlText ∧ readOff text urlText info = r := by
  unfold Reference.ofNode?
  simp only [Option.bind_eq_bind, Option.bind_eq_some_iff, Option.pure_def, Option.some.injEq]
  constructor
  · rintro ⟨text, htext, info, hinfo, y, hy, url, hurl, rfl⟩
    exact ⟨text, info, url, htext, hinfo, ⟨y, hy, hurl⟩, rfl⟩
  · rintro ⟨text, info, url, htext, hinfo, ⟨y, hy, hurl⟩, heq⟩
    exact ⟨text, htext, info, hinfo, y, hy, url, hurl, heq⟩

theorem recordedError_eq_none {info : Json} :
    Reference.recordedError info = none ↔ (info.member? "valid").bind bool? = some true := by
  unfold Reference.recordedError
  split <;> simp_all

/-- A node with the value of one that gives a reference back gives back the same one. -/
theorem ReadsBack.of_sameValue {other : Json} (hnode : node.Throughout Distinct)
    (h : ReadsBack node r) (hother : other.Throughout Distinct)
    (hsame : node.sameValue other = true) :
    ∃ r', ReadsBack other r' ∧ r'.id = r.id ∧ (r'.error = none ↔ r.error = none) := by
  obtain ⟨text, info, url, htext, hinfo, hurl, rfl⟩ := ofNode?_eq_some.mp h.ref
  obtain ⟨info', hinfo', hsame'⟩ := member?_of_sameValue hsame hinfo
  have hdistinct := hnode.member? hinfo
  have part {α : Type} {f : Json → Option α}
      (hf : ∀ {x y : Json}, x.sameValue y = true → f y = f x) (name : String) :
      (info'.member? name).bind f = (info.member? name).bind f :=
    bind_member?_of_sameValue hf hsame' hdistinct.here name
  have htext' : other.refText? = node.refText? :=
    bind_member?_of_sameValue string?_of_sameValue hsame hnode.here refKey
  refine ⟨readOff text url info', ⟨ofNode?_eq_some.mpr ⟨text, info', url, htext'.trans htext,
    hinfo', (part string?_of_sameValue _).trans hurl, rfl⟩, fun b hb => ?_⟩, ?_, ?_⟩
  · rw [hinfo'] at hb
    cases hb
    have hplain : info.Throughout Plain :=
      (hdistinct.and (h.bare info hinfo)).mono fun hx => ⟨hx.1, hx.2⟩
    exact bare_of_sameValue hsame' hplain (hother.member? hinfo')
  · simp only [readOff, Reference.id, part string?_of_sameValue]
  · simp only [readOff, recordedError_eq_none, part bool?_of_sameValue]

/-- What lies below such a node does not matter, as long as firm nodes stay. -/
theorem ReadsBack.withKids {ys : List Json} (h : ReadsBack node r)
    (hlen : ys.length = node.kids.length)
    (hys : ∀ k ∈ node.kids.zip ys, Kept k.1.2 k.2) : ReadsBack (node.withKids ys) r := by
  obtain ⟨text, info, url, htext, hinfo, hrest⟩ := ofNode?_eq_some.mp h.ref
  have hinfo' := member?_withKids hlen hys hinfo (h.bare info hinfo)
  refine ⟨ofNode?_eq_some.mpr ⟨text, info, url, refText?_withKids hlen hys htext, hinfo', hrest⟩,
    fun b hb => ?_⟩
  rw [hinfo'] at hb
  cases hb
  exact h.bare info hinfo

/-- Adorning a node adds nothing else below it. -/
theorem mem_kids_adorned {text : String} (h : node.refText? = some text) {k : Segment × Json}
    (hk : k ∈ (adorned node r).kids) : k ∈ node.kids ∨ k = (.key refKey, .string r.text) ∨
      k = (.key adornmentKey, r.adornment) := by
  obtain ⟨ms, rfl, -⟩ := object_of_refText? h
  rw [adorned_object] at hk
  obtain ⟨m, hm, rfl⟩ := List.mem_map.mp hk
  rcases OrderedMap.mem_put hm with hm | rfl
  · rcases OrderedMap.mem_put hm with hm | rfl
    · exact .inl (List.mem_map_of_mem hm)
    · exact .inr (.inl rfl)
  · exact .inr (.inr rfl)

end Scan

end ApiBundle
