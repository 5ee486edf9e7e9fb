import ApiBundle.Proofs.Reference.Adornment
import ApiBundle.Proofs.Tree.Insert

/-!
# Documents with adornments

While a document is worked on whose references stay where they are, it is the document that it was,
with some of its reference nodes adorned. `Json.Dressed` says so for references that are written out
as places of the document itself. Paths lead where they led before (`Dressed.follow?`), and what
is below a name may be replaced by what has become of it (`Dressed.overwrite`).
-/

namespace ApiBundle

namespace Json

/-- The second tree is the first one with some references to places of its document adorned. -/
inductive Dressed (u : Uri) : Json → Json → Prop where
  | bare (p : Pointer) : Dressed u (refNode ("#" ++ p.text)) (refNode ("#" ++ p.text))
  | adorned (p : Pointer) (c : Option Component) : Dressed u (refNode ("#" ++ p.text))
      (Scan.adorned (refNode ("#" ++ p.text)) ((Reference.atPointer u p).withComponent c))
  | plain {x : Json} {ys : List Json} (unread : x.refText? = none)
      (length : ys.length = x.kids.length)
      (kids : ∀ k ∈ x.kids.zip ys, Dressed u k.1.2 k.2) : Dressed u x (x.withKids ys)

/-- A reference node, if this is one, is written out and leads to a place of its own document. -/
def Direct (x : Json) : Prop := x.isRefNode = true → ∃ p : Pointer, x = refNode ("#" ++ p.text)

@[simp] theorem refText?_refNode (text : String) : (refNode text).refText? = some text := by
  simp [refNode, refText?, member?, OrderedMap.find?, string?]

theorem isRefNode_eq_false {x : Json} : x.isRefNode = false ↔ x.refText? = none := by
  simp [isRefNode]

theorem step?_refNode {text : String} {step : Segment} {y : Json}
    (h : (refNode text).step? step = some y) : step = .key refKey := by
  cases step with
  | key name =>
    by_cases hname : refKey = name
    · rw [hname]
    · simp [refNode, step?, OrderedMap.find?, hname] at h
  | index i => cases h

theorem stripMembers_withValues (ms : List (String × Json)) (ys : List Json) :
    stripMembers (withValues ms ys) = withValues ms (ys.map stripAdornments) := by
  induction ms generalizing ys with
  | nil => rfl
  | cons m ms ih =>
    cases ys with
    | nil => rfl
    | cons y ys => simp [withValues, stripMembers, ih]

theorem stripItems_eq (xs : List Json) : stripItems xs = xs.map stripAdornments := by
  induction xs with
  | nil => rfl
  | cons x xs ih => rw [stripItems, ih, List.map_cons]

theorem stripAdornments_refNode (text : String) :
    (refNode text).stripAdornments = refNode text := by
  simp [refNode, stripAdornments, stripMembers, OrderedMap.remove, Scan.refKey_ne_adornmentKey]

/-- What is no reference node has no adornment of its own. -/
theorem stripAdornments_withKids {x : Json} {ys : List Json}
    (h : (x.withKids ys).isRefNode = false) :
    (x.withKids ys).stripAdornments = x.withKids (ys.map stripAdornments) := by
  cases x with
  | object ms =>
    simp only [withKids] at h ⊢
    rw [stripAdornments, h, stripMembers_withValues]
    rfl
  | array xs => exact congrArg array (stripItems_eq ys)
  | _ => simp [withKids, stripAdornments]

namespace Dressed

variable {u : Uri} {x y z w : Json}

theorem of_kidwise (hx : x.refText? = none) (h : Kidwise (fun _ => Dressed u) x y) :
    Dressed u x y := by
  obtain ⟨ys, hlen, rfl, hys⟩ := h
  exact .plain hx hlen hys

theorem kidwise (h : Dressed u x y) (hx : x.refText? = none) :
    Kidwise (fun _ => Dressed u) x y := by
  cases h with
  | bare | adorned => simp at hx
  | plain unread length kids => exact ⟨_, length, rfl, kids⟩

theorem refl (h : x.Throughout Direct) : Dressed u x x := by
  induction h with
  | @mk x here below ih =>
    cases href : x.isRefNode with
    | true =>
      obtain ⟨p, rfl⟩ := here href
      exact .bare p
    | false => exact of_kidwise (isRefNode_eq_false.mp href) (Kidwise.refl ih)

theorem eq_string {text : String} (h : Dressed u x (.string text)) : x = .string text := by
  generalize hy : string text = y at h
  cases h with
  | bare | adorned => cases hy
  | @plain x ys => cases x <;> simp_all [withKids]

/-- Adorning a node does not change its text, and what is no reference node does not become one. -/
theorem refText?_eq (h : Dressed u x y) : y.refText? = x.refText? := by
  cases h with
  | bare => rfl
  | adorned p c =>
    rw [Scan.refText?_adorned (refText?_refNode _), refText?_refNode]
    rfl
  | @plain x ys unread length kids =>
    rw [unread]
    refine Option.eq_none_iff_forall_ne_some.mpr fun text htext => ?_
    have hmember := refText?_of_member?.mp htext
    rw [member?_eq_step?] at hmember
    have hkids : Kidwise (fun _ => Dressed u) x (x.withKids ys) := ⟨ys, length, rfl, kids⟩
    obtain ⟨a, ha, hdressed⟩ := hkids.step? hmember
    rw [hdressed.eq_string, ← member?_eq_step?] at ha
    rw [refText?_of_member?.mpr ha] at unread
    cases unread

/-- A path that leads past all references leads to what has become of the node there. -/
theorem follow? {path : List Segment} (h : Dressed u x y) (hpath : .key refKey ∉ path)
    (hz : x.follow? path = some z) : ∃ w, y.follow? path = some w ∧ Dressed u z w := by
  induction path generalizing x y with
  | nil =>
    cases hz
    exact ⟨y, rfl, h⟩
  | cons step path ih =>
    obtain ⟨a, ha, hrest⟩ := Option.bind_eq_some_iff.mp hz
    have hplain : x.refText? = none := by
      cases h with
      | bare | adorned => exact absurd (step?_refNode ha ▸ List.mem_cons_self ..) hpath
      | plain unread => exact unread
    obtain ⟨b, hb, hab⟩ := (h.kidwise hplain).step?_of_step? ha
    obtain ⟨w, hw, hzw⟩ := ih hab (fun hmem => hpath (List.mem_cons_of_mem _ hmem)) hrest
    exact ⟨w, Option.bind_eq_some_iff.mpr ⟨b, hb, hw⟩, hzw⟩

/-- Writing back what has become of the node at the end of a path of names. -/
theorem overwrite {names : List String} {new : Json} (h : Dressed u x y) (hnames : refKey ∉ names)
    (hz : x.follow? (names.map .key) = some z) (hw : Dressed u z w)
    (hnew : Pointer.overwrite y w names = some new) : Dressed u x new := by
  induction names generalizing x y new with
  | nil =>
    cases hz
    cases hnew
    exact hw
  | cons name names ih =>
    obtain ⟨a, ha, hrest⟩ := Option.bind_eq_some_iff.mp hz
    have hplain : x.refText? = none := by
      cases h with
      | bare | adorned =>
        exact absurd (Segment.key.inj (step?_refNode ha) ▸ List.mem_cons_self ..) hnames
      | plain unread => exact unread
    have hkids := h.kidwise hplain
    obtain ⟨step, old, child, hstep, hold, hbelow, rfl⟩ := Pointer.overwrite_cons hnew
    -- the node has members, so the token is the name of one
    have hname : step = .key name := by
      obtain ⟨b, hb, -⟩ := hkids.step?_of_step? ha
      cases y with
      | object ms => exact (Option.some.inj hstep).symm
      | _ => cases hb
    subst hname
    refine of_kidwise hplain (hkids.replace hold fun a' ha' => ?_)
    cases ha.symm.trans ha'
    obtain ⟨b, hb, hab⟩ := hkids.step?_of_step? ha
    cases hold.symm.trans hb
    exact ih hab (fun hmem => hnames (List.mem_cons_of_mem _ hmem)) hrest hbelow

/-- A member that is there may be replaced by what has become of it. -/
theorem put {ms : List (String × Json)} {name : String} (h : Dressed u x (.object ms))
    (hname : name ≠ refKey) (hz : x.step? (.key name) = some z) (hw : Dressed u z w) :
    Dressed u x (.object (OrderedMap.put ms name w)) := by
  generalize hy : object ms = y at h
  have hplain : x.refText? = none := by
    cases h with
    | bare | adorned => exact absurd (Segment.key.inj (step?_refNode hz)) hname
    | plain unread => exact unread
  subst hy
  have hkids := h.kidwise hplain
  obtain ⟨old, hold, -⟩ := hkids.step?_of_step? hz
  refine of_kidwise hplain (hkids.replace hold fun z' hz' => ?_)
  cases hz.symm.trans hz'
  exact hw

/-- Without its adornments the document is what it was. -/
theorem stripAdornments (h : Dressed u x y) : y.stripAdornments = x := by
  induction h with
  | bare p => exact stripAdornments_refNode _
  | adorned p c =>
    rw [refNode, Scan.adorned_object]
    simp [OrderedMap.put, Scan.refKey_ne_adornmentKey, Json.stripAdornments, stripMembers, isRefNode,
      refText?, member?, OrderedMap.find?, string?, OrderedMap.remove, Reference.atPointer,
      Reference.withComponent]
  | @plain x ys unread length kids ih =>
    have hplain : (x.withKids ys).isRefNode = false :=
      isRefNode_eq_false.mpr ((Dressed.plain unread length kids).refText?_eq.trans unread)
    rw [stripAdornments_withKids hplain]
    refine Kidwise.eq ⟨ys.map Json.stripAdornments, by simpa using length, rfl, fun k hk => ?_⟩
    rw [List.zip_map_right] at hk
    obtain ⟨k', hk', rfl⟩ := List.mem_map.mp hk
    exact ih k' hk'

end Dressed

end Json

end ApiBundle
