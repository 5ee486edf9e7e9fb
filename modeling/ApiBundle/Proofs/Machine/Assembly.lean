import ApiBundle.Machine.Basic
import ApiBundle.Proofs.OrderedMap

/-!
# Assembly steps

What the steps that assemble a machine do to it: running a step gives a result and a machine, and
the equations below say which. Adding a state and installing an edge for a label text that has none
yet keep all other edges (`Machine.edge?_withState`, `Machine.edge?_withEdge`). A machine is closed
when its edges lead to states that exist, and one machine extends another when it has the edges and
the tags of that one.
-/

namespace ApiBundle

namespace Machine

variable {τ α β : Type} {m m' : Machine τ} {q p : Nat} {text : String} {label : Label}

/-! ## Running steps -/

theorem run_bind (x : Assembly τ α) (f : α → Assembly τ β) (m : Machine τ) :
    (x >>= f).run.run m =
      match x.run.run m with
      | (.ok a, m') => (f a).run.run m'
      | (.error e, m') => (.error e, m') := by
  show ((x.run >>= ExceptT.bindCont f : StateM (Machine τ) _).run m) = _
  cases hrun : x.run.run m with
  | mk result m' =>
    show StateT.run (ExceptT.bindCont f (x.run.run m).1) (x.run.run m).2 = _
    rw [hrun]
    cases result <;> rfl

/-- The machine with one more state. -/
def withState (m : Machine τ) (tag : Option τ) : Machine τ := ⟨m.states.push (.fresh tag)⟩

/-- The machine with an edge. -/
def withEdge (m : Machine τ) (source : Nat) (text : String) (label : Label) (target : Nat) :
    Machine τ :=
  ⟨m.states.modify source (·.setEdge text label target)⟩

theorem run_addState (m : Machine τ) (tag : Option τ) :
    (addState tag).run.run m = (.ok m.size, m.withState tag) := rfl

theorem run_install (m : Machine τ) (source : Nat) (text : String) (label : Label) (target : Nat) :
    (install source text label target).run.run m = (.ok (), m.withEdge source text label target) :=
  rfl

theorem run_record (m : Machine τ) (state : Nat) :
    (record state).run.run m =
      match m.states[state]? with
      | some s => (.ok s, m)
      | none => (.error (.unknownState state), m) := by
  unfold record
  rw [run_bind]
  show (match m.states[state]? with
    | some s => (pure s : Assembly τ (StateRecord τ))
    | none => throw (BundleError.unknownState state)).run.run m = _
  cases m.states[state]? <;> rfl

theorem run_readLabel (m : Machine τ) (text : String) :
    (readLabel text : Assembly τ Label).run.run m = (Label.parse text, m) := by
  unfold readLabel
  cases Label.parse text <;> rfl

/-! ## Properties that steps keep -/

/-- A property that an assembly step does not take away. -/
def Preserves (P : Machine τ → Prop) (m : Assembly τ α) : Prop :=
  ∀ machine, P machine → P (m.run.run machine).2

section Preserves

variable {P : Machine τ → Prop}

theorem preserves_pure (a : α) : Preserves P (pure a : Assembly τ α) := fun _ h => h

theorem Preserves.bind {x : Assembly τ α} {f : α → Assembly τ β} (hx : Preserves P x)
    (hf : ∀ a, Preserves P (f a)) : Preserves P (x >>= f) := by
  intro m h
  have hfirst := hx m h
  rw [run_bind]
  cases hrun : x.run.run m with
  | mk result m' =>
    rw [hrun] at hfirst
    cases result with
    | ok a => exact hf a m' hfirst
    | error e => exact hfirst

theorem preserves_forM {l : List α} {f : α → Assembly τ PUnit}
    (hf : ∀ a ∈ l, Preserves P (f a)) : Preserves P (l.forM f) := by
  induction l with
  | nil => exact preserves_pure _
  | cons a l ih =>
    exact (hf a (List.mem_cons_self ..)).bind fun _ =>
      ih fun b hb => hf b (List.mem_cons_of_mem _ hb)

end Preserves

/-! ## Edges -/

theorem tag_setEdge (s : StateRecord τ) (text : String) (label : Label) (target : Nat) :
    (s.setEdge text label target).tag = s.tag := by
  unfold StateRecord.setEdge
  split <;> rfl

/-- Where the edge of a label text leads from a state. -/
def edge? (m : Machine τ) (state : Nat) (text : String) : Option Nat :=
  m.states[state]?.bind (·.target? text)

/-- Where the edges of label texts, one after the other, lead from a state. -/
def along? (m : Machine τ) (state : Nat) : List String → Option Nat
  | [] => some state
  | text :: rest => (m.edge? state text).bind (m.along? · rest)

theorem along?_append (m : Machine τ) (q : Nat) (path rest : List String) :
    m.along? q (path ++ rest) = (m.along? q path).bind (m.along? · rest) := by
  induction path generalizing q with
  | nil => rfl
  | cons text path ih =>
    cases h : m.edge? q text with
    | none => simp [along?, h]
    | some next => simp [along?, h, ih]

theorem along?_concat (m : Machine τ) (q : Nat) (path : List String) (text : String) :
    m.along? q (path ++ [text]) = (m.along? q path).bind (m.edge? · text) := by
  rw [along?_append]
  cases m.along? q path with
  | none => rfl
  | some p => cases h : m.edge? p text <;> simp [along?, h]

theorem states_eq_none (h : m.size ≤ q) : m.states[q]? = none :=
  Array.getElem?_eq_none h

theorem edge?_eq_none (h : m.size ≤ q) : m.edge? q text = none := by
  rw [edge?, states_eq_none h, Option.bind_none]

theorem lt_of_edge? (h : m.edge? q text = some p) : q < m.size := by
  refine Nat.lt_of_not_le fun hle => ?_
  rw [edge?_eq_none hle] at h
  cases h

theorem edge?_withState (m : Machine τ) (tag : Option τ) (q : Nat) (text : String) :
    (m.withState tag).edge? q text = m.edge? q text := by
  rw [edge?, withState, Array.getElem?_push]
  split
  · next h =>
    rw [edge?_eq_none (Nat.le_of_eq h.symm)]
    rfl
  · rfl

theorem find?_redirect {edges : List Edge} (label : Label) (target : Nat)
    (h : edges.find? (·.text == text) = none) (other : String) :
    ((StateRecord.redirect edges text label target).find? (·.text == other)).map Edge.target =
      if text = other then some target
      else (edges.find? (·.text == other)).map Edge.target := by
  induction edges with
  | nil => by_cases heq : text = other <;> simp [StateRecord.redirect, heq]
  | cons e rest ih =>
    have hne : e.text ≠ text := by
      simpa using List.find?_eq_none.mp h e (List.mem_cons_self ..)
    have hrest : rest.find? (·.text == text) = none := by
      simpa [List.find?_cons, hne] using h
    rw [StateRecord.redirect, if_neg hne]
    by_cases heq : e.text = other
    · have hother : text ≠ other := fun h => hne (heq.trans h.symm)
      simp [heq, hother]
    · simpa [List.find?_cons, heq] using ih hrest

theorem parse_eq_error {e : BundleError} (h : Label.parse text = .error e) :
    ∃ reason, e = .invalidLabel text reason := by
  unfold Label.parse at h
  split at h
  · cases h
  · split at h
    · cases h
    · split at h
      · split at h
        · cases h
        · cases h
          exact ⟨_, rfl⟩
      · cases h

theorem eq_of_parse_exact {name : String} (h : Label.parse text = .ok (.exact name)) :
    name = text := by
  unfold Label.parse at h
  split at h
  · cases h
  · split at h
    · cases h
    · split at h
      · split at h <;> cases h
      · cases h
        rfl

/-- The edge of a label text that had none leads where it was told; all others are as before. -/
theorem target?_setEdge {s : StateRecord τ} (hlabel : Label.parse text = .ok label)
    (h : s.target? text = none) (target : Nat) (other : String) :
    (s.setEdge text label target).target? other =
      if text = other then some target else s.target? other := by
  obtain ⟨hexact, hothers⟩ : OrderedMap.find? s.exact text = none ∧
      s.others.find? (·.text == text) = none := by
    unfold StateRecord.target? at h
    cases hfind : OrderedMap.find? s.exact text with
    | none => simpa [hfind] using h
    | some v => simp [hfind] at h
  cases label with
  | exact name =>
    cases eq_of_parse_exact hlabel
    simp only [StateRecord.setEdge, StateRecord.target?, OrderedMap.find?_put]
    split <;> rfl
  | pattern | anyName | anyIndex =>
    simp only [StateRecord.setEdge, StateRecord.target?, find?_redirect _ target hothers other]
    by_cases heq : text = other
    · subst heq
      simp [hexact]
    · simp only [if_neg heq]

theorem edge?_withEdge (hlabel : Label.parse text = .ok label) (hq : q < m.size)
    (hmissing : m.edge? q text = none) (target state : Nat) (other : String) :
    (m.withEdge q text label target).edge? state other =
      if q = state ∧ text = other then some target else m.edge? state other := by
  have hs : m.states[q]? = some m.states[q] := Array.getElem?_eq_getElem hq
  unfold edge? withEdge
  rw [Array.getElem?_modify]
  by_cases hstate : q = state
  · subst hstate
    rw [edge?, hs, Option.bind_some] at hmissing
    simp [hs, target?_setEdge hlabel hmissing]
  · simp [hstate]

/-! ## Tags -/

theorem tag_eq_none (h : m.size ≤ q) : m.tag q = none := by
  rw [tag, states_eq_none h, Option.bind_none]

theorem tag_withState (m : Machine τ) (q : Nat) : (m.withState none).tag q = m.tag q := by
  rw [tag, withState, Array.getElem?_push]
  split
  · next h =>
    rw [tag_eq_none (Nat.le_of_eq h.symm)]
    rfl
  · rfl

theorem tag_withEdge (m : Machine τ) (source : Nat) (text : String) (label : Label)
    (target q : Nat) : (m.withEdge source text label target).tag q = m.tag q := by
  unfold tag withEdge
  rw [Array.getElem?_modify]
  split
  · cases m.states[q]? with
    | none => rfl
    | some s => exact tag_setEdge s text label target
  · rfl

/-! ## Closed machines -/

/-- Every edge leads to a state that exists. -/
def Closed (m : Machine τ) : Prop :=
  ∀ (q : Nat) (s : StateRecord τ), m.states[q]? = some s → ∀ e ∈ s.edges, e.target < m.size

theorem exists_edge_of_target? {s : StateRecord τ} (h : s.target? text = some p) :
    ∃ e ∈ s.edges, e.target = p := by
  unfold StateRecord.target? at h
  cases hfind : OrderedMap.find? s.exact text with
  | some v =>
    rw [hfind] at h
    cases h
    refine ⟨⟨text, .exact text, p⟩, List.mem_append_left _ ?_, rfl⟩
    exact List.mem_map.mpr ⟨(text, p), OrderedMap.mem_of_find? hfind, rfl⟩
  | none =>
    rw [hfind] at h
    obtain ⟨e, he, rfl⟩ := Option.map_eq_some_iff.mp h
    exact ⟨e, List.mem_append_right _ (List.mem_of_find?_eq_some he), rfl⟩

theorem Closed.edge? (h : m.Closed) (hedge : m.edge? q text = some p) : p < m.size := by
  obtain ⟨s, hs, htarget⟩ := Option.bind_eq_some_iff.mp hedge
  obtain ⟨e, he, rfl⟩ := exists_edge_of_target? htarget
  exact h _ _ hs e he

theorem target_redirect {edges : List Edge} {e : Edge} {target : Nat}
    (h : e ∈ StateRecord.redirect edges text label target) : e.target = target ∨ e ∈ edges := by
  induction edges with
  | nil =>
    cases List.mem_singleton.mp h
    exact .inl rfl
  | cons e' rest ih =>
    rw [StateRecord.redirect] at h
    split at h
    · rcases List.mem_cons.mp h with rfl | h
      · exact .inl rfl
      · exact .inr (List.mem_cons_of_mem _ h)
    · rcases List.mem_cons.mp h with rfl | h
      · exact .inr (List.mem_cons_self ..)
      · exact (ih h).imp_right (List.mem_cons_of_mem _)

theorem target_setEdge {s : StateRecord τ} {e : Edge} {target : Nat}
    (h : e ∈ (s.setEdge text label target).edges) : e.target = target ∨ e ∈ s.edges := by
  cases label with
  | exact name =>
    rcases List.mem_append.mp h with h | h
    · obtain ⟨entry, hentry, rfl⟩ := List.mem_map.mp h
      rcases OrderedMap.mem_put hentry with hold | rfl
      · exact .inr (List.mem_append_left _ (List.mem_map_of_mem hold))
      · exact .inl rfl
    · exact .inr (List.mem_append_right _ h)
  | pattern | anyName | anyIndex =>
    rcases List.mem_append.mp h with h | h
    · exact .inr (List.mem_append_left _ h)
    · exact (target_redirect h).imp_right (List.mem_append_right _)

theorem closed_empty : (empty : Machine τ).Closed := by
  intro q s hs
  cases hs

theorem Closed.withState (h : m.Closed) (tag : Option τ) : (m.withState tag).Closed := by
  intro q s hs e he
  have hsize : (m.withState tag).size = m.size + 1 := Array.size_push ..
  rw [Machine.withState, Array.getElem?_push] at hs
  split at hs
  · cases hs
    cases he
  · exact hsize ▸ Nat.lt_succ_of_lt (h _ _ hs e he)

theorem size_withEdge (m : Machine τ) (source : Nat) (text : String) (label : Label)
    (target : Nat) : (m.withEdge source text label target).size = m.size :=
  Array.size_modify ..

theorem Closed.withEdge (h : m.Closed) {target : Nat} (htarget : target < m.size)
    (source : Nat) (text : String) (label : Label) :
    (m.withEdge source text label target).Closed := by
  intro q s hs e he
  rw [size_withEdge]
  rw [Machine.withEdge, Array.getElem?_modify] at hs
  split at hs
  · obtain ⟨s', hs', rfl⟩ := Option.map_eq_some_iff.mp hs
    rcases target_setEdge he with rfl | he
    · exact htarget
    · exact h _ _ hs' e he
  · exact h _ _ hs e he

/-! ## Extensions -/

/-- A machine with the edges and the tags of another one. -/
structure Extends (m m' : Machine τ) : Prop where
  size : m.size ≤ m'.size
  edge : ∀ {q text p}, m.edge? q text = some p → m'.edge? q text = some p
  tag : ∀ q, m'.tag q = m.tag q

namespace Extends

theorem refl (m : Machine τ) : m.Extends m := ⟨Nat.le_refl _, id, fun _ => rfl⟩

theorem trans {m'' : Machine τ} (h : m.Extends m') (h' : m'.Extends m'') : m.Extends m'' :=
  ⟨Nat.le_trans h.size h'.size, fun he => h'.edge (h.edge he), fun q => (h'.tag q).trans (h.tag q)⟩

/-- What can be followed leads to where it did. -/
theorem along? (h : m.Extends m') {path : List String} (hpath : m.along? q path = some p) :
    m'.along? q path = some p := by
  induction path generalizing q with
  | nil => exact hpath
  | cons text rest ih =>
    obtain ⟨next, hedge, hrest⟩ := Option.bind_eq_some_iff.mp hpath
    rw [Machine.along?, h.edge hedge]
    exact ih hrest

end Extends

theorem extends_withState (m : Machine τ) : m.Extends (m.withState none) where
  size := by
    rw [Machine.size, Machine.size, withState, Array.size_push]
    exact Nat.le_succ _
  edge h := (edge?_withState m none ..).trans h
  tag := tag_withState m

theorem extends_withEdge (hlabel : Label.parse text = .ok label) (hq : q < m.size)
    (hmissing : m.edge? q text = none) (target : Nat) :
    m.Extends (m.withEdge q text label target) where
  size := Nat.le_of_eq (size_withEdge ..).symm
  edge {state other p} h := by
    rw [edge?_withEdge hlabel hq hmissing, if_neg, h]
    rintro ⟨rfl, rfl⟩
    rw [hmissing] at h
    cases h
  tag := tag_withEdge m q text label target

end Machine

end ApiBundle
