import ApiBundle.Proofs.Tree.Replace
import ApiBundle.RefNode

/-!
# What stays of a document

Work on a document replaces reference nodes. A node that is none, and that cannot become one because
its `$ref` member does, is *firm*: it keeps its kind and its children's names, and the same goes for
each child in turn (`Json.Kept`). A place that lies behind firm nodes only is therefore there
afterwards if and only if it was there before (`Kept.lookup`, `Kept.lookup_back`), and writing to it
what has become of its node keeps the document (`Kept.overwrite`).
-/

namespace ApiBundle

namespace Json

/-- A reference node, or a node whose `$ref` member is such a node in turn. -/
inductive Volatile : Json → Prop where
  | text {node : Json} {text : String} (member : node.member? refKey = some (.string text)) :
    Volatile node
  | computed {node x : Json} (member : node.member? refKey = some x) (below : Volatile x) :
    Volatile node

/-- A node whose place is passed by a pointer is volatile. -/
inductive PassesVolatile : Json → List String → Prop where
  | here {node : Json} {token : String} {rest : List String} (volatile : Volatile node) :
    PassesVolatile node (token :: rest)
  | deeper {node child : Json} {token : String} {rest : List String}
      (step : Pointer.child? node token = some child) (passes : PassesVolatile child rest) :
      PassesVolatile node (token :: rest)

/-- The second tree is what has become of the first one: firm nodes are still there. -/
inductive Kept : Json → Json → Prop where
  | volatile {t u : Json} (volatile : Volatile t) : Kept t u
  | firm {t : Json} {us : List Json} (length : us.length = t.kids.length)
      (kids : ∀ k ∈ t.kids.zip us, Kept k.1.2 k.2) : Kept t (t.withKids us)

theorem volatile_of_refText? {t : Json} (h : t.refText?.isSome) : Volatile t := by
  unfold refText? at h
  cases hm : t.member? refKey with
  | none => simp [hm] at h
  | some x =>
    cases x with
    | string text => exact .text hm
    | _ => simp [hm, string?] at h

theorem kids_lt {t : Json} {k : Segment × Json} (h : k ∈ t.kids) : sizeOf k.2 < sizeOf t := by
  cases t with
  | object ms =>
    obtain ⟨m, hm, rfl⟩ := List.mem_map.mp h
    have hlt := List.sizeOf_lt_of_mem hm
    obtain ⟨name, x⟩ := m
    simp only [Prod.mk.sizeOf_spec] at hlt
    simp only [object.sizeOf_spec]
    omega
  | array xs =>
    have hmem : k.2 ∈ xs := by
      have h' : k.2 ∈ (indexed 0 xs).map Prod.snd := List.mem_map_of_mem h
      rwa [Walk.map_snd_indexed] at h'
    have hlt := List.sizeOf_lt_of_mem hmem
    simp only [array.sizeOf_spec]
    omega
  | null | bool | number | string => cases h

namespace Kept

variable {t u : Json}

theorem kidwise (h : Kept t u) (hfirm : ¬Volatile t) : Kidwise (fun _ => Kept) t u := by
  cases h with
  | volatile hv => exact absurd hv hfirm
  | firm length kids => exact ⟨_, length, rfl, kids⟩

theorem of_kidwise (h : Kidwise (fun _ => Kept) t u) : Kept t u := by
  obtain ⟨us, hlen, rfl, hus⟩ := h
  exact .firm hlen hus

theorem refl (t : Json) : Kept t t := by
  refine of_kidwise (Kidwise.refl fun k hk => ?_)
  have := kids_lt hk
  exact refl k.2
termination_by sizeOf t

/-- A tree that has become a text was that text, or is volatile. -/
theorem eq_string {text : String} (h : Kept t (.string text)) (hfirm : ¬Volatile t) :
    t = .string text := by
  obtain ⟨us, hlen, heq, -⟩ := h.kidwise hfirm
  cases t <;> simp_all [withKids]

/-- What has become a reference node was volatile before. -/
theorem volatile_of_refText? (h : Kept t u) (href : u.refText?.isSome) : Volatile t := by
  refine Classical.byContradiction fun hfirm => ?_
  unfold refText? at href
  cases hm : u.member? refKey with
  | none => simp [hm] at href
  | some b =>
    rw [member?_eq_step?] at hm
    obtain ⟨a, ha, hkept⟩ := (h.kidwise hfirm).step? hm
    rw [← member?_eq_step?] at ha hm
    cases b with
    | string text =>
      by_cases hv : Volatile a
      · exact hfirm (.computed ha hv)
      · exact hfirm (.text (hkept.eq_string hv ▸ ha))
    | _ => simp [hm, string?] at href

/-- A token means the same step before and after. -/
theorem segment?_eq (h : Kidwise (fun _ => Kept) t u) (token : String) :
    Pointer.segment? u token = Pointer.segment? t token := by
  obtain ⟨us, -, rfl, -⟩ := h
  exact Pointer.segment?_withKids t us token

/-- A place behind firm nodes is still there. -/
theorem lookup {tokens : List String} {a : Json} (h : Kept t u)
    (hfirm : ¬PassesVolatile t tokens) (ha : Pointer.lookup t tokens = some a) :
    ∃ b, Pointer.lookup u tokens = some b ∧ Kept a b := by
  induction tokens generalizing t u with
  | nil =>
    cases ha
    exact ⟨u, rfl, h⟩
  | cons token rest ih =>
    have hkids := h.kidwise fun hv => hfirm (.here hv)
    simp only [Pointer.lookup, Pointer.child?_eq, Option.bind_eq_some_iff] at ha
    obtain ⟨child, ⟨step, hstep, hchild⟩, hrest⟩ := ha
    obtain ⟨child', hchild', hkept⟩ := hkids.step?_of_step? hchild
    have hbelow : ¬PassesVolatile child rest := fun hp =>
      hfirm (.deeper (by rw [Pointer.child?_eq, hstep]; exact hchild) hp)
    obtain ⟨b, hb, hab⟩ := ih hkept hbelow hrest
    refine ⟨b, ?_, hab⟩
    simp only [Pointer.lookup, Pointer.child?_eq, segment?_eq hkids, hstep, Option.bind_some,
      hchild', hb]

/-- A place behind firm nodes was there before. -/
theorem lookup_back {tokens : List String} {b : Json} (h : Kept t u)
    (hfirm : ¬PassesVolatile t tokens) (hb : Pointer.lookup u tokens = some b) :
    ∃ a, Pointer.lookup t tokens = some a ∧ Kept a b := by
  induction tokens generalizing t u with
  | nil =>
    cases hb
    exact ⟨t, rfl, h⟩
  | cons token rest ih =>
    have hkids := h.kidwise fun hv => hfirm (.here hv)
    simp only [Pointer.lookup, Pointer.child?_eq, Option.bind_eq_some_iff, segment?_eq hkids] at hb
    obtain ⟨child', ⟨step, hstep, hchild'⟩, hrest⟩ := hb
    obtain ⟨child, hchild, hkept⟩ := hkids.step? hchild'
    have hbelow : ¬PassesVolatile child rest := fun hp =>
      hfirm (.deeper (by rw [Pointer.child?_eq, hstep]; exact hchild) hp)
    obtain ⟨a, ha, hab⟩ := ih hkept hbelow hrest
    refine ⟨a, ?_, hab⟩
    simp only [Pointer.lookup, Pointer.child?_eq, hstep, Option.bind_some, hchild, ha]

/-- Writing to a place what has become of its node keeps the document. -/
theorem overwrite {tokens : List String} {value new : Json} (h : Kept t u)
    (hvalue : ∀ a, ¬PassesVolatile t tokens → Pointer.lookup t tokens = some a → Kept a value)
    (hnew : Pointer.overwrite u value tokens = some new) : Kept t new := by
  induction tokens generalizing t u new with
  | nil =>
    cases hnew
    exact hvalue t nofun rfl
  | cons token rest ih =>
    by_cases hv : Volatile t
    · exact .volatile hv
    · have hkids := h.kidwise hv
      obtain ⟨step, old, child', hstep, hold, hrest, rfl⟩ := Pointer.overwrite_cons hnew
      refine of_kidwise (hkids.replace hold fun a ha => ?_)
      obtain ⟨b, hb, hkept⟩ := hkids.step?_of_step? ha
      rw [hold] at hb
      cases hb
      rw [segment?_eq hkids] at hstep
      have hchild : Pointer.child? t token = some a := by
        rw [Pointer.child?_eq, hstep]
        exact ha
      refine ih hkept (fun a' hfirm ha' => hvalue a' (fun hp => ?_) ?_) hrest
      · cases hp with
        | here hv' => exact hv hv'
        | deeper hstep' hp' =>
          rw [hchild] at hstep'
          cases hstep'
          exact hfirm hp'
      · simp only [Pointer.lookup, hchild, Option.bind_some, ha']

end Kept

end Json

end ApiBundle
