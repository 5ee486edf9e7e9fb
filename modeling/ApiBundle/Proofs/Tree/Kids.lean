import ApiBundle.Proofs.Walk.Induction

/-!
# Steps into a node with other children

A walk gives a node back with its children replaced, in order. Which steps lead into such a node
does not depend on the children, and each step leads to the replacement of the child that it led to
before. `Json.Kidwise` relates a node to one that is made in this way from related children.
-/

namespace ApiBundle

namespace Json

/-- A node is another one with every child replaced by a related one. -/
def Kidwise (R : Segment → Json → Json → Prop) (x y : Json) : Prop :=
  ∃ ys, ys.length = x.kids.length ∧ y = x.withKids ys ∧ ∀ k ∈ x.kids.zip ys, R k.1.1 k.1.2 k.2

theorem length_indexed (position : Nat) (xs : List Json) :
    (indexed position xs).length = xs.length := by
  induction xs generalizing position with
  | nil => rfl
  | cons x xs ih => simp [indexed, ih]

theorem find?_withValues {ms : List (String × Json)} {ys : List Json} {k : String} {y : Json}
    (h : OrderedMap.find? (withValues ms ys) k = some y) :
    ∃ x, OrderedMap.find? ms k = some x ∧
      ((.key k, x), y) ∈ (ms.map fun m => (Segment.key m.1, m.2)).zip ys := by
  induction ms generalizing ys with
  | nil => cases h
  | cons m ms ih =>
    obtain ⟨name, x⟩ := m
    cases ys with
    | nil => cases h
    | cons z ys =>
      simp only [withValues, OrderedMap.find?] at h ⊢
      by_cases hk : name = k
      · rw [if_pos hk] at h
        cases h
        subst hk
        exact ⟨x, by rw [if_pos rfl], by simp⟩
      · rw [if_neg hk] at h
        obtain ⟨a, ha, hmem⟩ := ih h
        exact ⟨a, by rw [if_neg hk, ha], List.mem_cons_of_mem _ hmem⟩

theorem find?_withValues_of_find? {ms : List (String × Json)} {ys : List Json} {k : String}
    {x : Json} (hlen : ys.length = ms.length) (h : OrderedMap.find? ms k = some x) :
    ∃ y, OrderedMap.find? (withValues ms ys) k = some y ∧
      ((.key k, x), y) ∈ (ms.map fun m => (Segment.key m.1, m.2)).zip ys := by
  induction ms generalizing ys with
  | nil => cases h
  | cons m ms ih =>
    obtain ⟨name, a⟩ := m
    cases ys with
    | nil => cases hlen
    | cons z ys =>
      simp only [withValues, OrderedMap.find?] at h ⊢
      by_cases hk : name = k
      · rw [if_pos hk] at h
        cases h
        subst hk
        exact ⟨z, by rw [if_pos rfl], by simp⟩
      · rw [if_neg hk] at h
        obtain ⟨y, hy, hmem⟩ := ih (by simpa using hlen) h
        exact ⟨y, by rw [if_neg hk, hy], List.mem_cons_of_mem _ hmem⟩

theorem mem_zip_indexed {xs ys : List Json} (position : Nat) {i : Nat} {x y : Json}
    (hx : xs[i]? = some x) (hy : ys[i]? = some y) :
    ((.index (position + i), x), y) ∈ (indexed position xs).zip ys := by
  induction xs generalizing ys position i with
  | nil => cases hx
  | cons a xs ih =>
    cases ys with
    | nil => cases hy
    | cons b ys =>
      cases i with
      | zero =>
        cases hx
        cases hy
        simp [indexed]
      | succ i =>
        have hx' : xs[i]? = some x := by simpa using hx
        have hrec := ih (position + 1) hx' (by simpa using hy)
        rw [show position + 1 + i = position + (i + 1) by omega] at hrec
        exact List.mem_cons_of_mem _ hrec

variable {x y : Json} {ys : List Json} {step : Segment}

theorem length_kids_object (ms : List (String × Json)) : (object ms).kids.length = ms.length := by
  simp [kids]

theorem length_kids_array (xs : List Json) : (array xs).kids.length = xs.length := by
  simp [kids, length_indexed]

/-- A step into a node with other children comes from one into the node. -/
theorem step?_withKids (hlen : ys.length = x.kids.length)
    (h : (x.withKids ys).step? step = some y) :
    ∃ a, x.step? step = some a ∧ ((step, a), y) ∈ x.kids.zip ys := by
  cases x with
  | object ms =>
    cases step with
    | key k => exact find?_withValues h
    | index i => cases h
  | array xs =>
    cases step with
    | key k => cases h
    | index i =>
      rw [length_kids_array] at hlen
      have hy : ys[i]? = some y := h
      have hlt : i < xs.length := hlen ▸ (List.getElem?_eq_some_iff.mp hy).1
      have hx : xs[i]? = some xs[i] := List.getElem?_eq_getElem hlt
      refine ⟨_, hx, ?_⟩
      simpa [kids] using mem_zip_indexed 0 hx hy
  | null | bool | number | string => cases step <;> cases h

/-- A step into a node leads into the node with other children as well. -/
theorem step?_withKids_of_step? {a : Json} (hlen : ys.length = x.kids.length)
    (h : x.step? step = some a) :
    ∃ y, (x.withKids ys).step? step = some y ∧ ((step, a), y) ∈ x.kids.zip ys := by
  cases x with
  | object ms =>
    cases step with
    | key k => exact find?_withValues_of_find? (by rwa [length_kids_object] at hlen) h
    | index i => cases h
  | array xs =>
    cases step with
    | key k => cases h
    | index i =>
      rw [length_kids_array] at hlen
      have hx : xs[i]? = some a := h
      have hlt : i < ys.length := hlen.symm ▸ (List.getElem?_eq_some_iff.mp hx).1
      have hy : ys[i]? = some ys[i] := List.getElem?_eq_getElem hlt
      refine ⟨_, hy, ?_⟩
      simpa [kids] using mem_zip_indexed 0 hx hy
  | null | bool | number | string => cases step <;> cases h

/-- The member of a node is its child under the name. -/
theorem member?_eq_step? (x : Json) (name : String) : x.member? name = x.step? (.key name) := by
  cases x <;> rfl

/-- A node is itself with the children that it has. -/
theorem withKids_self (x : Json) : x.withKids (x.kids.map Prod.snd) = x := by
  cases x with
  | object ms =>
    simp only [kids, withKids, List.map_map, Function.comp_def]
    rw [Walk.withValues_self]
  | array xs =>
    simp only [kids, withKids]
    rw [Walk.map_snd_indexed]
  | _ => rfl

/-- Children in order, taken apart from the front. -/
theorem mem_kids_of_step? {a : Json} (h : x.step? step = some a) : (step, a) ∈ x.kids := by
  have hlen : (x.kids.map Prod.snd).length = x.kids.length := by simp
  obtain ⟨y, -, hmem⟩ := step?_withKids_of_step? hlen h
  exact (List.of_mem_zip hmem).1

namespace Kidwise

variable {R R' : Segment → Json → Json → Prop}

theorem mono (hR : ∀ {k}, k ∈ x.kids → ∀ {b}, R k.1 k.2 b → R' k.1 k.2 b) (h : Kidwise R x y) :
    Kidwise R' x y := by
  obtain ⟨ys, hlen, rfl, hys⟩ := h
  exact ⟨ys, hlen, rfl, fun k hk => hR (List.of_mem_zip hk).1 (hys k hk)⟩

theorem refl (hR : ∀ k ∈ x.kids, R k.1 k.2 k.2) : Kidwise R x x := by
  refine ⟨x.kids.map Prod.snd, by simp, (withKids_self x).symm, fun k hk => ?_⟩
  rw [List.zip_map_right] at hk
  obtain ⟨⟨a, b⟩, hab, rfl⟩ := List.mem_map.mp hk
  have heq : a = b := by
    obtain ⟨i, hi, hget⟩ := List.mem_iff_getElem.mp hab
    rw [List.getElem_zip] at hget
    cases hget
    rfl
  subst heq
  exact hR a (List.of_mem_zip hab).1

/-- Children that are replaced by themselves. -/
theorem eq (h : Kidwise (fun _ a b => b = a) x y) : y = x := by
  obtain ⟨ys, hlen, rfl, hys⟩ := h
  have heq : ys = x.kids.map Prod.snd := by
    refine List.ext_getElem (by simpa using hlen) fun i hi hi' => ?_
    have hlt : i < x.kids.length := by simpa using hi'
    have hmem : (x.kids[i], ys[i]) ∈ x.kids.zip ys := by
      rw [← List.getElem_zip (h := by rw [List.length_zip]; omega)]
      exact List.getElem_mem _
    simpa using hys _ hmem
  rw [heq, withKids_self]

theorem kids_withKids (hlen : ys.length = x.kids.length) :
    (x.withKids ys).kids = (x.kids.zip ys).map fun k => (k.1.1, k.2) := by
  cases x with
  | object ms =>
    simp only [kids, withKids]
    induction ms generalizing ys with
    | nil => cases ys <;> rfl
    | cons m ms ih =>
      cases ys with
      | nil => rfl
      | cons y ys => simpa [withValues] using ih (by simpa [kids] using hlen)
  | array xs =>
    simp only [kids, withKids]
    rw [length_kids_array] at hlen
    generalize (0 : Nat) = position
    induction xs generalizing ys position with
    | nil =>
      cases ys with
      | nil => rfl
      | cons y ys => cases hlen
    | cons a xs ih =>
      cases ys with
      | nil => cases hlen
      | cons y ys => simpa [indexed] using ih (by simpa using hlen) (position + 1)
  | null | bool | number | string => rfl

theorem withValues_withValues (ms : List (String × Json)) (ys zs : List Json)
    (hlen : ys.length = ms.length) : withValues (withValues ms ys) zs = withValues ms zs := by
  induction ms generalizing ys zs with
  | nil => rfl
  | cons m ms ih =>
    cases ys with
    | nil => cases hlen
    | cons y ys =>
      cases zs with
      | nil => rfl
      | cons z zs => simp [withValues, ih ys zs (by simpa using hlen)]

/-- One change of the children after another. -/
theorem trans {S T : Segment → Json → Json → Prop} {z : Json} (h : Kidwise R x y)
    (h' : Kidwise S y z) (hT : ∀ {step a b c}, R step a b → S step b c → T step a c) :
    Kidwise T x z := by
  obtain ⟨ys, hlen, rfl, hys⟩ := h
  obtain ⟨zs, hlen', rfl, hzs⟩ := h'
  rw [kids_withKids hlen] at hlen' hzs
  simp only [List.length_map, List.length_zip, hlen, Nat.min_self] at hlen'
  refine ⟨zs, hlen', ?_, fun k hk => ?_⟩
  · cases x with
    | object ms =>
      simp only [withKids]
      rw [withValues_withValues ms ys zs (by rwa [length_kids_object] at hlen)]
    | _ => rfl
  · obtain ⟨i, hi, rfl⟩ := List.mem_iff_getElem.mp hk
    have hi' : i < x.kids.length ∧ i < zs.length := by
      rw [List.length_zip] at hi
      omega
    have hy : i < ys.length := by omega
    have hfirst := hys (x.kids[i], ys[i]) (by
      rw [← List.getElem_zip (h := by rw [List.length_zip]; omega)]
      exact List.getElem_mem _)
    have hsecond := hzs ((x.kids[i].1, ys[i]), zs[i]) (by
      refine List.mem_iff_getElem.mpr ⟨i, ?_, ?_⟩
      · rw [List.length_zip, List.length_map, List.length_zip]
        omega
      · simp)
    rw [List.getElem_zip]
    exact hT hfirst hsecond

/-- Where a step leads afterwards. -/
theorem step? (h : Kidwise R x y) {b : Json} (hb : y.step? step = some b) :
    ∃ a, x.step? step = some a ∧ R step a b := by
  obtain ⟨ys, hlen, rfl, hys⟩ := h
  obtain ⟨a, ha, hmem⟩ := step?_withKids hlen hb
  exact ⟨a, ha, hys _ hmem⟩

/-- What a step leads to that led somewhere before. -/
theorem step?_of_step? (h : Kidwise R x y) {a : Json} (ha : x.step? step = some a) :
    ∃ b, y.step? step = some b ∧ R step a b := by
  obtain ⟨ys, hlen, rfl, hys⟩ := h
  obtain ⟨b, hb, hmem⟩ := step?_withKids_of_step? hlen ha
  exact ⟨b, hb, hys _ hmem⟩

end Kidwise

end Json

/-! ## Pointers by steps -/

namespace Pointer

/-- The step that a token means at a node. -/
def segment? (node : Json) (token : String) : Option Segment :=
  match node with
  | .object _ => some (.key token)
  | .array _ => (index? token).map .index
  | _ => none

theorem child?_eq (node : Json) (token : String) :
    child? node token = (segment? node token).bind node.step? := by
  cases node with
  | object ms => rfl
  | array xs =>
    simp only [child?, segment?]
    cases index? token <;> rfl
  | _ => rfl

theorem segment?_withKids (x : Json) (ys : List Json) (token : String) :
    segment? (x.withKids ys) token = segment? x token := by
  cases x <;> rfl

end Pointer

namespace Walk

variable {τ σ ε : Type} {t : Tracker τ}

/-- What holds of every child after all of them were walked. -/
theorem Threaded.pairs {R : Json → Tracker τ → σ → Json → Option ε → σ → Prop}
    {Q : Segment → Json → Json → Prop}
    (hR : ∀ {step x s y s'}, R x (t.move step) s y none s' → Q step x y)
    {kids : List (Segment × Json)} {s s' : σ} {ys : List Json}
    (h : Threaded R t kids s ys none s') : ∀ k ∈ kids.zip ys, Q k.1.1 k.1.2 k.2 := by
  generalize he : (none : Option ε) = e at h
  induction h with
  | nil => intro k hk; cases hk
  | fail head => cases he
  | cons head _ ih =>
    subst he
    intro k hk
    rcases List.mem_cons.mp hk with rfl | hk
    · exact hR head
    · exact ih rfl k hk

/-- A node whose children were walked is made from related ones. -/
theorem Threaded.kidwise {R : Json → Tracker τ → σ → Json → Option ε → σ → Prop}
    {Q : Segment → Json → Json → Prop}
    (hR : ∀ {step x s y s'}, R x (t.move step) s y none s' → Q step x y)
    {x : Json} {s s' : σ} {ys : List Json} (h : Threaded R t x.kids s ys none s') :
    x.Kidwise Q (x.withKids ys) :=
  ⟨ys, h.length_eq, rfl, h.pairs hR⟩

end Walk

end ApiBundle
