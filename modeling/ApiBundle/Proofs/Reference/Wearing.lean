import ApiBundle.Proofs.Reference.Adornment

/-!
# Adorning a node again

A node *wears* a reference if its text is the reference's, and its adornment has the value of the
reference's, be it in another order of members. Such a node reads back as a reference with the same
text and the same adornment, up to the component, and adorning it with that changes nothing.
-/

namespace ApiBundle

open Json

namespace Reference

theorem adornment_congr {r r' : Reference} (hurl : r.urlText = r'.urlText)
    (hfragment : r.fragment = r'.fragment) (hcomponent : r.component = r'.component)
    (herror : r.error = r'.error) : r.adornment = r'.adornment := by
  unfold adornment isValid
  rw [hurl, hfragment, hcomponent, herror]

/-- The failure of a reference is read off its adornment. -/
theorem recordedError_adornment (r : Reference) : recordedError r.adornment = r.error := by
  obtain ⟨_, _, _, fragment, _, component, error⟩ := r
  cases fragment <;> cases component <;> rcases error with _ | (_ | _ | _ | _ | _ | _) <;>
    simp [recordedError, adornment, member?, OrderedMap.find?, isValid, bool?, string?,
      ReferenceError.toJson, ReferenceError.kind, ReferenceError.detail, ReferenceError.ofParts?]

theorem recordedError_of_sameValue {a b : Json} (h : a.sameValue b = true)
    (ha : a.Throughout Distinct) : recordedError b = recordedError a := by
  have hvalid : (b.member? "valid").bind bool? = (a.member? "valid").bind bool? :=
    bind_member?_of_sameValue bool?_of_sameValue h ha.here _
  have hpart (name : String) :
      ((b.member? "invalidCause").bind (·.member? name)).bind string? =
        ((a.member? "invalidCause").bind (·.member? name)).bind string? := by
    cases hx : a.member? "invalidCause" with
    | some x =>
      obtain ⟨y, hy, hsame⟩ := member?_of_sameValue h hx
      rw [hy]
      exact bind_member?_of_sameValue string?_of_sameValue hsame (ha.member? hx).here name
    | none =>
      cases hy : b.member? "invalidCause" with
      | none => rfl
      | some y =>
        obtain ⟨x, hx', -⟩ := member?_of_sameValue_right h ha.here hy
        rw [hx] at hx'
        cases hx'
  simp only [recordedError, hvalid, hpart]

end Reference

namespace Scan

variable {node : Json} {r r' : Reference}

/-- A reference node has the text of a reference, and an adornment of the same value. -/
structure Wears (node : Json) (r : Reference) : Prop where
  text : node.refText? = some r.text
  info : ∃ info, node.member? adornmentKey = some info ∧ r.adornment.sameValue info = true

theorem distinct_adornment (r : Reference) : r.adornment.Throughout Distinct :=
  (plain_adornment r).mono Plain.distinct

theorem wears_adorned {text : String} (h : node.refText? = some text) (r : Reference) :
    Wears (adorned node r) r :=
  ⟨(holds_adorned h r).text, _, (holds_adorned h r).info, sameValue_refl (distinct_adornment r)⟩

/-- A node that has the value that adorning would give it wears the reference. -/
theorem wears_of_sameValue {text : String} (h : node.refText? = some text)
    (hsame : (adorned node r).sameValue node = true) : Wears node r := by
  obtain ⟨info, hinfo, hadornment⟩ := member?_of_sameValue hsame (holds_adorned h r).info
  obtain ⟨y, hy, htext⟩ :=
    member?_of_sameValue hsame (refText?_of_member?.mp (refText?_adorned h r))
  refine ⟨refText?_of_member?.mpr (hy.trans ?_), info, hinfo, hadornment⟩
  cases y <;> simp_all [sameValue]

/-- What the walk makes of a node that it adorns wears the reference. -/
theorem wears_of_settle {text : String} (h : node.refText? = some text)
    {d : Disposition Completion} {new : Json} {action : Action}
    (hnew : d.replacement = some (adorned node r)) (hd : d.settle node = (new, action)) :
    Wears new r := by
  unfold Disposition.settle at hd
  rw [hnew] at hd
  simp only at hd
  split at hd
  · next hsame =>
    cases hd
    exact wears_of_sameValue h hsame
  · cases hd
    exact wears_adorned h r

/-- What lies below such a node does not matter, as long as firm nodes stay. -/
theorem Wears.withKids {ys : List Json} (h : Wears node r) (hnode : node.Throughout Distinct)
    (hlen : ys.length = node.kids.length) (hys : ∀ k ∈ node.kids.zip ys, Kept k.1.2 k.2) :
    Wears (node.withKids ys) r := by
  obtain ⟨info, hinfo, hsame⟩ := h.info
  have hbare := bare_of_sameValue hsame (plain_adornment r) (hnode.member? hinfo)
  exact ⟨refText?_withKids hlen hys h.text, info, member?_withKids hlen hys hinfo hbare, hsame⟩

/-- Adorning such a node again changes nothing. -/
theorem Wears.adorned_sameValue (h : Wears node r) (hnode : node.Throughout Distinct) :
    (adorned node r).sameValue node = true := by
  obtain ⟨ms, rfl, htext⟩ := object_of_refText? h.text
  obtain ⟨info, hinfo, hsame⟩ := h.info
  have hfind : OrderedMap.find? ms adornmentKey = some info := hinfo
  have hkeys : OrderedMap.keys (OrderedMap.put ms adornmentKey r.adornment) =
      OrderedMap.keys ms := by
    rw [OrderedMap.keys_put, if_pos (OrderedMap.mem_keys_of_find? hfind)]
  rw [adorned_object, OrderedMap.put_self htext, sameValue, Bool.and_eq_true, beq_iff_eq]
  refine ⟨by simpa [OrderedMap.keys] using congrArg List.length hkeys,
    sameMembers_of_find? fun m hm => ?_⟩
  rcases OrderedMap.mem_put hm with hm | rfl
  · exact ⟨m.2, OrderedMap.find?_of_nodup (hnode.here ms rfl) hm,
      sameValue_refl ((throughout_object.mp hnode).2 m hm)⟩
  · exact ⟨info, hfind, hsame⟩

/-- Such a node gives the reference back, but for what its adornment does not tell. -/
theorem Wears.reads (h : Wears node r) : ∃ r', Reference.ofNode? node = some r' ∧
    r'.error = r.error ∧ ∀ {x}, Wears x r → Wears x (r'.withComponent r.component) := by
  obtain ⟨info, hinfo, hsame⟩ := h.info
  have hdistinct := distinct_adornment r
  have part (name : String) :
      (info.member? name).bind string? = (r.adornment.member? name).bind string? :=
    bind_member?_of_sameValue string?_of_sameValue hsame hdistinct.here name
  have hurl : (r.adornment.member? "url").bind string? = some r.urlText := by
    simp [Reference.adornment, member?, OrderedMap.find?, string?]
  have hfragment : (r.adornment.member? "fragment").bind string? = r.fragment := by
    obtain ⟨_, _, _, fragment, _, component, error⟩ := r
    cases fragment <;> cases component <;> cases error <;>
      simp [Reference.adornment, member?, OrderedMap.find?, string?]
  have herror : Reference.recordedError info = r.error :=
    (Reference.recordedError_of_sameValue hsame hdistinct).trans (Reference.recordedError_adornment r)
  have hadornment : ((readOff r.text r.urlText info).withComponent r.component).adornment =
      r.adornment :=
    Reference.adornment_congr rfl ((part _).trans hfragment) rfl herror
  refine ⟨readOff r.text r.urlText info, ofNode?_eq_some.mpr ⟨r.text, info, r.urlText, h.text,
    hinfo, (part _).trans hurl, rfl⟩, herror, fun {x} hx => ⟨hx.text, ?_⟩⟩
  rw [hadornment]
  exact hx.info

end Scan

end ApiBundle
