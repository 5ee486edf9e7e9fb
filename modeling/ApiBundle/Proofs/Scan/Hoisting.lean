import ApiBundle.Proofs.Reference.Adornment
import ApiBundle.Proofs.Scan.Frame

/-!
# What is hoisted once

Hoisting makes an entry for a reference, scans what the reference leads to, and notes that the
content of the entry is finished. No reference is noted twice, and every one that is noted has an
entry (`Session.Hoisting`): while its content is scanned a reference is being resolved and has an
entry, and whoever meets it then is answered with the entry (`settledEntry?`), so that nobody else
notes it (`Session.Hoists`).

An entry is known by the document and the place that its reference leads to, a noted reference by
its identity, so the identity has to say what these are (`Reference.Sharp`). A valid reference that
is read from a text is sharp. What an adornment gives back is sharp if the URL of the document reads
back, which is asked of the contents of the store (`Store.Legible`).
-/

namespace ApiBundle

namespace Reference

variable {r r' : Reference} {u : Uri}

instance : Decidable (r.Sharp u) :=
  decidable_of_iff (r.url = some u ∧ r.urlText = u.text ∧ u.withoutFragment = u ∧
      r.fragment = if r.pointer.isRoot then none else some r.pointer.text)
    ⟨fun h => ⟨h.1, h.2.1, h.2.2.1, h.2.2.2⟩, fun h => ⟨h.url, h.urlText, h.whole, h.fragment⟩⟩

/-- A sharp reference whose URL reads back. -/
def Legible (r : Reference) : Prop := ∃ u, r.Sharp u ∧ Uri.parse u.text = .ok u

instance : Decidable r.Legible :=
  decidable_of_iff (∃ u ∈ r.url, r.Sharp u ∧ (Uri.parse u.text).toOption = some u) <| by
    constructor
    · rintro ⟨u, -, hsharp, hread⟩
      exact ⟨u, hsharp, ok_of_toOption hread⟩
    · rintro ⟨u, hsharp, hread⟩
      exact ⟨u, hsharp.url, hsharp, by rw [hread]; rfl⟩

/-- A reference that is not treated as an error is valid. -/
theorem error_of_treatment {o : Options} (h : r.treatment o ≠ .error) : r.error = none := by
  unfold treatment at h
  cases herror : r.error with
  | none => rfl
  | some e => simp [isValid, herror] at h

end Reference

namespace Store

variable {s s' : Store}

/-- All contents that could be taken in have URLs that read back. -/
def Legible (s : Store) : Prop := ∀ c ∈ s.contents, c.body ≠ .invalid → c.reference.Legible

instance : Decidable s.Legible :=
  inferInstanceAs (Decidable (∀ c ∈ s.contents, c.body ≠ .invalid → c.reference.Legible))

theorem Legible.of_extends (h : s'.Legible) (hext : s.Extends s') : s.Legible := by
  intro c hc hbody
  obtain ⟨id, hid⟩ := List.getElem?_of_mem hc
  obtain ⟨c', hc', href, -, hkind⟩ := hext.content (c := c) hid
  rw [← href]
  apply h c' (List.mem_of_getElem? hc')
  intro hbody'
  rw [hbody'] at hkind
  apply hbody
  cases hb : c.body <;> simp_all [Body.kind]

end Store

namespace Scan

variable {o : Options} {base : Reference} {node : Json} {t : Tracker Component}
  {r held : Reference} {u : Uri}

/-- A valid reference that is met is sharp if what is held under its identity reads back. -/
theorem sharp_of_reference? (href : reference? o base node t = some r) (hvalid : r.error = none)
    (hheld : held.Legible) (hid : held.id = r.id) (hurl : r.url = some u) : r.Sharp u := by
  have located (h : ∃ v, r.Sharp v) : r.Sharp u := by
    obtain ⟨v, hsharp⟩ := h
    cases hsharp.url.symm.trans hurl
    exact hsharp
  apply located
  obtain ⟨text, -, rfl⟩ := Option.map_eq_some_iff.mp href
  cases hnode : Reference.ofNode? node with
  | none =>
    simp only [hnode] at hvalid ⊢
    by_cases hexpand : o.expandNames = true
    · rw [if_pos hexpand] at hvalid ⊢
      exact Reference.sharp_expandName hvalid
    · rw [if_neg hexpand] at hvalid ⊢
      exact Reference.sharp_resolve hvalid
  | some r₀ =>
    simp only [hnode] at hid ⊢
    -- all that an adornment gives back but the text is read off the identity
    obtain ⟨text', info, urlText, -, -, -, rfl⟩ := ofNode?_eq_some.mp hnode
    obtain ⟨v, hsharp, hread⟩ := hheld
    obtain ⟨htexts, hfragments⟩ := RefId.mk.inj hid
    have hpointer : (readOff text' urlText info).pointer = held.pointer := by
      rw [← hsharp.pointer_eq, hfragments]
      rfl
    refine ⟨v, ?_, htexts.symm.trans hsharp.urlText, hsharp.whole, ?_⟩
    · show (Uri.parse urlText).toOption = some v
      rw [show urlText = v.text from htexts.symm.trans hsharp.urlText, hread]
      rfl
    · show (readOff text' urlText info).fragment = _
      rw [show (readOff text' urlText info).fragment = held.fragment from hfragments.symm,
        hsharp.fragment]
      show _ = if (readOff text' urlText info).pointer.isRoot then none
        else some (readOff text' urlText info).pointer.text
      rw [hpointer]

end Scan

/-! ## Finished references -/

namespace Session

variable {s s' s'' : Session} {r : Reference}

/-- No reference is finished twice, and every finished one has an entry. -/
structure Hoisting (s : Session) : Prop where
  once : s.finalized.Nodup
  entered : ∀ i ∈ s.finalized, s.registry.contains i = true

/-- A state that a run can come to without finishing a reference twice. -/
structure Hoists (s s' : Session) : Prop extends s.Evolves s' where
  hoisting : s'.store.Legible → s.Hoisting → s'.Hoisting
  /-- What is being resolved and has an entry is finished by nobody else. -/
  apart : s'.store.Legible → ∀ i, s.resolving.isActive i = true →
    s.registry.contains i = true → i ∈ s'.finalized → i ∈ s.finalized

/-- A state with the same finished references. -/
theorem Evolves.hoists (h : s.Evolves s') (hsame : s'.finalized = s.finalized) : s.Hoists s' where
  toEvolves := h
  hoisting := by
    intro _ hs
    refine ⟨hsame ▸ hs.once, fun i hi => ?_⟩
    rw [hsame] at hi
    exact h.registry.contains (hs.entered i hi)
  apart := by
    intro _ i _ _ hi
    rwa [hsame] at hi

namespace Hoists

theorem refl (hwf : s.store.WF) : s.Hoists s := (Evolves.refl hwf).hoists rfl

theorem trans (h : s.Hoists s') (h' : s'.Hoists s'') : s.Hoists s'' where
  toEvolves := h.toEvolves.trans h'.toEvolves
  hoisting := by
    intro hlegible hs
    exact h'.hoisting hlegible (h.hoisting (hlegible.of_extends h'.store) hs)
  apart := by
    intro hlegible i hactive hentry hi
    apply h.apart (hlegible.of_extends h'.store) i hactive hentry
    apply h'.apart hlegible i _ (h.registry.contains hentry) hi
    rw [h.resolving]
    exact hactive

theorem composes : Composes Hoists := ⟨fun h => h.toEvolves, .refl, .trans⟩

/-- What happens while a reference is being resolved, seen from outside. -/
theorem around (hfree : s.isActive r = false) (h : (s.enter r).Hoists s') :
    s.Hoists (s'.leave r) where
  toEvolves := h.toEvolves.around hfree
  hoisting := by
    intro hlegible hs
    obtain ⟨honce, hentered⟩ := h.hoisting hlegible ⟨hs.once, hs.entered⟩
    exact ⟨honce, hentered⟩
  apart := by
    intro hlegible i hactive hentry hi
    refine h.apart hlegible i ?_ hentry hi
    unfold VisitSet.isActive at hactive ⊢
    simp only [List.contains_iff_mem, enter, List.mem_append] at hactive ⊢
    exact .inl hactive

end Hoists

end Session

/-! ## Steps -/

namespace Scan

open Scanning Session

variable {nested : NestedScan} {base : Reference} {node : Json} {r : Reference}
  {t : Tracker Component} {state : Option Nat} {s s' : Session}

/-- Scans of a kind finish no reference twice. -/
def NestedHoists (nested : NestedScan) : Prop :=
  ∀ id phase start, Relates Hoists (nested id phase start)

theorem finalized_hoisted {y : Option Json} :
    (hoisted s r y).finalized = s.finalized ++ [r.id] := by
  cases y <;> rfl

theorem store_hoisted {y : Option Json} : (hoisted s r y).store = s.store := by
  cases y <;> rfl

theorem extends_hoisted {y : Option Json} : s.registry.Extends (hoisted s r y).registry := by
  cases y with
  | none => exact .refl _
  | some y => exact Registry.extends_of_heads_eq (Registry.heads_refresh _)

section Steps

variable (hnested : NestedHoists nested)
include hnested

theorem nestedEvolves : NestedEvolves nested :=
  fun h hwf => (hnested _ _ _ _ _ _ hwf h).toEvolves

theorem carries_hoists : Carries Hoists nested where
  composes := Hoists.composes
  quiet := fun hev _ hsame => hev.hoists hsame
  around := .around
  nested := fun id phase start _ => hnested id phase start

omit hnested in
/-- A reference that has to be hoisted and is not being resolved is not finished. -/
theorem notMem_finalized (hs : s.Hoisting) (hentry : settledEntry? s r = none) :
    r.id ∉ s.finalized := by
  intro hmem
  have hcontains := hs.entered r.id hmem
  unfold settledEntry? at hentry
  rw [if_pos (by simp [hmem])] at hentry
  unfold Registry.contains at hcontains
  rw [hentry] at hcontains
  cases hcontains

omit hnested in
theorem find?_of_localize {registry g : Registry} {raw : Json} {c : Component} {u : Uri}
    {e : Entry} (hsharp : r.Sharp u)
    (h : registry.localize raw c r.pointer u = .ok (e, g)) : g.find? r.id = some e := by
  rw [hsharp.id_eq]
  rcases Registry.localize_cases h with ⟨rfl, hfind⟩ | ⟨container, -, hfresh, rfl, rfl⟩
  · exact hfind
  · rw [Registry.find?_append, hfresh]
    simp

omit hnested in
/-- A valid reference that is met and leads somewhere is sharp. -/
theorem sharp_of_loads {id : ContentId} {s₁ : Session} {u : Uri}
    (href : reference? s.options base node t = some r) (hvalid : r.error = none)
    (hurl : r.url = some u) (h : Loads r state s (.ok id) s₁) (hlegible : s₁.store.Legible) :
    r.Sharp u := by
  cases h with
  | found look grows content same valid body =>
    exact sharp_of_reference? href hvalid (hlegible _ (List.mem_of_getElem? content) body) same hurl

omit hnested in
theorem evolves_hoisted {y : Option Json} (hwf : s.store.WF) : s.Evolves (hoisted s r y) := by
  cases y with
  | none => exact evolves_finish hwf
  | some y => exact (evolves_refreshed hwf).trans (evolves_finish hwf)

omit hnested in
/-- A reference may be finished that has an entry and was not finished before. -/
theorem hoists_hoisted {y : Option Json} (h : s.Hoists s') (hfree : s.isActive r = false)
    (hentry : s'.store.Legible → s'.registry.contains r.id = true)
    (hnot : s'.store.Legible → s.Hoisting → r.id ∉ s'.finalized) :
    s.Hoists (hoisted s' r y) where
  toEvolves := h.toEvolves.trans (evolves_hoisted h.wf)
  hoisting := by
    intro hlegible hs
    rw [store_hoisted] at hlegible
    have hkept := extends_hoisted (s := s') (r := r) (y := y)
    obtain ⟨honce, hentries⟩ := h.hoisting hlegible hs
    refine ⟨?_, fun i hi => hkept.contains ?_⟩
    · rw [finalized_hoisted, List.nodup_append]
      refine ⟨honce, List.nodup_singleton _, fun i hi j hj heq => hnot hlegible hs ?_⟩
      cases List.mem_singleton.mp hj
      exact heq ▸ hi
    · rw [finalized_hoisted] at hi
      rcases List.mem_append.mp hi with hi | hi
      · exact hentries i hi
      · cases List.mem_singleton.mp hi
        exact hentry hlegible
  apart := by
    intro hlegible i hactive hcontains hi
    rw [store_hoisted] at hlegible
    rw [finalized_hoisted] at hi
    rcases List.mem_append.mp hi with hi | hi
    · exact h.apart hlegible i hactive hcontains hi
    · cases List.mem_singleton.mp hi
      rw [show s.resolving.isActive r.id = false from hfree] at hactive
      cases hactive

/-- Hoisting finishes a reference after its content was scanned, once. -/
theorem hoists_of_localizes {answer : Except BundleError (Disposition Completion)}
    (hwf : s.store.WF) (hr : ∀ c, r.component = some c → c ∈ s.dialect.components)
    (href : reference? s.options base node t = some r) (hvalid : r.error = none)
    (h : Localizes nested node r state s answer s') : s.Hoists s' := by
  have hR := carries_hoists hnested
  have hev := evolves_of_localizes (nestedEvolves hnested) hwf hr h
  cases h with
  | bare | known => exact hev.hoists rfl
  | missing component entry look | gone component entry look | homeless component entry look =>
    exact relates_of_loads hR hwf look
  | active component entry look tree hurl hoist active =>
    have hlook := relates_of_loads hR hwf look
    exact hlook.trans
      ((evolves_localized hlook.wf (hlook.dialect ▸ hr _ component) hoist).hoists rfl)
  | failed component entry look tree hurl hoist free scan =>
    have hlook := relates_of_loads hR hwf look
    have hhoist := (evolves_localized hlook.wf (hlook.dialect ▸ hr _ component) hoist).hoists rfl
    exact (hlook.trans hhoist).trans
      (relates_of_rescansFor hR ((hlook.isActive r).trans free) hhoist.wf scan)
  | @hoisted c id s₁ s₂ raw url e registry tree' component entry look tree hurl hoist free scan =>
    have hlook := relates_of_loads hR hwf look
    have hhoist := (evolves_localized hlook.wf (hlook.dialect ▸ hr _ component) hoist).hoists rfl
    obtain ⟨s₃, hends, rfl⟩ := scan
    have hscan : ((s₁.withRegistry registry).enter r).Hoists s₃ :=
      relates_of_rescans hR hhoist.wf hends
    have hbefore : s.Hoists (s₃.leave r) :=
      (hlook.trans hhoist).trans (hscan.around ((hlook.isActive r).trans free))
    -- the reference has its entry before its content is scanned
    have hentered (hlegible : s₃.store.Legible) : registry.contains r.id = true :=
      Option.isSome_of_eq_some (find?_of_localize
        (sharp_of_loads href hvalid hurl look (hlegible.of_extends hscan.store)) hoist)
    refine hoists_hoisted hbefore free (fun hlegible => hscan.registry.contains (hentered hlegible))
      fun hlegible hs hmem => ?_
    have hmem₁ : r.id ∈ (s₁.withRegistry registry).finalized :=
      hscan.apart hlegible r.id (by simp [enter, VisitSet.isActive]) (hentered hlegible) hmem
    have hsame : (s₁.withRegistry registry).finalized = s.finalized := by
      cases look with
      | found => rfl
    rw [hsame] at hmem₁
    exact notMem_finalized hs entry hmem₁

theorem hoists_of_visit {phase : Phase} {answer : Except BundleError (Disposition Completion)}
    (hwf : s.store.WF) (hmachine : t.machine = s.dialect.machine)
    (h : Ends (visit nested phase base node t) s answer s') : s.Hoists s' := by
  have htag := tag_mem_components hmachine
  have hev := evolves_of_visit (nestedEvolves hnested) hwf htag h
  refine relates_of_visit (carries_hoists hnested) hwf (fun _ hcollect => ?_)
    (fun ref hvalid _ localize => ?_) h
  · cases hcollect with
    | plain | failed | collected => exact hev.hoists rfl
  · exact hoists_of_localizes hnested hwf (fun c hc => htag c (component_of_reference? ref ▸ hc)) ref
      (Reference.error_of_treatment hvalid) localize

end Steps

/-- No scan finishes a reference twice, or one that somebody else is about to finish. -/
theorem hoists_scanFrom (bound : Nat) : NestedHoists (scanFrom bound) := by
  induction bound with
  | zero =>
    intro id phase start s result s' _ h
    cases h
  | succ bound ih =>
    intro id phase start s result s' hwf h
    exact relates_of_scanFrom (carries_hoists ih)
      (fun hwf hmachine hv => hoists_of_visit ih hwf hmachine hv) hwf h

/-- So does a scan from where a content was first met. -/
theorem hoists_scan (bound : Nat) (id : ContentId) (phase : Phase) :
    Relates Hoists (scan bound id phase) :=
  Relates.get_bind fun _ => hoists_scanFrom bound id phase _

end Scan

/-! ## Answers -/

namespace Session

variable {s s' s₁ : Session} {r r' : Reference} {e : Entry} {target : Json}

/-- A reference that is answered at once, with a reference into the registry. -/
def Points (s : Session) (r : Reference) (target : Json) : Prop :=
  (Scan.settledEntry? s r).map Entry.refNode = some target

theorem points_iff : s.Points r target ↔ (s.isActive r = true ∨ r.id ∈ s.finalized) ∧
    ∃ e, s.registry.find? r.id = some e ∧ e.refNode = target := by
  unfold Points Scan.settledEntry? isActive
  by_cases hbusy : (s.resolving.isActive r.id || s.finalized.contains r.id) = true
  · rw [if_pos hbusy, Option.map_eq_some_iff]
    simp only [Bool.or_eq_true, List.contains_iff_mem] at hbusy
    simp only [hbusy, true_and]
  · rw [if_neg hbusy]
    simp only [Bool.or_eq_true, List.contains_iff_mem] at hbusy
    simp only [hbusy, Option.map_none, reduceCtorEq, false_and]

/-- What stands in the registry is pointed at while it is being resolved. -/
theorem points_enter (h : s.registry.find? r.id = some e) : (s.enter r).Points r e.refNode :=
  points_iff.mpr ⟨.inl (by simp [enter, isActive, VisitSet.isActive]), e, h, rfl⟩

theorem Points.evolves (h : s.Points r target) (hev : s.Evolves s') : s'.Points r target := by
  obtain ⟨hbusy, e, he, rfl⟩ := points_iff.mp h
  obtain ⟨e', he', hhead⟩ := hev.registry.find? he
  refine points_iff.mpr ⟨?_, e', he', Entry.refNode_of_head hhead⟩
  rw [hev.isActive r]
  exact hbusy.imp_right fun hmem => hev.finalized.subset hmem

theorem Points.enter (h : s.Points r target) (r' : Reference) : (s.enter r').Points r target := by
  obtain ⟨hbusy, hentry⟩ := points_iff.mp h
  refine points_iff.mpr ⟨hbusy.imp_left fun hactive => ?_, hentry⟩
  unfold isActive VisitSet.isActive at hactive ⊢
  simp only [List.contains_iff_mem, Session.enter, List.mem_append] at hactive ⊢
  exact .inl hactive

/-- A state that comes after another one, within the scans that begin between the two. -/
inductive LeadsTo : Session → Session → Prop where
  | later {s s' : Session} (steps : s.Evolves s') : LeadsTo s s'
  | inside {s s₁ s' : Session} (steps : s.Evolves s₁) (r : Reference)
      (rest : LeadsTo (s₁.enter r) s') : LeadsTo s s'

/-- What is pointed at is pointed at from then on. -/
theorem Points.leadsTo (h : s.Points r target) (hw : s.LeadsTo s') : s'.Points r target := by
  induction hw with
  | later steps => exact h.evolves steps
  | inside steps r' _ ih => exact ih ((h.evolves steps).enter r')

end Session

namespace Scan

open Scanning Session

variable {nested : NestedScan} {base : Reference} {node target : Json} {r r' : Reference}
  {t : Tracker Component} {state : Option Nat} {s s' : Session}

/-- An equal reference is answered with what is pointed at, and nothing is scanned or entered. -/
theorem localize_of_points (h : s.Points r target) (hid : r'.id = r.id)
    (hcomponent : r'.component ≠ none) :
    Ends (localize nested node r' state) s (.ok (.doneWith target)) s := by
  obtain ⟨c, hc⟩ := Option.ne_none_iff_exists'.mp hcomponent
  obtain ⟨e, he, rfl⟩ := Option.map_eq_some_iff.mp h
  have hentry : settledEntry? s r' = some e := by
    unfold settledEntry? at he ⊢
    rwa [hid]
  unfold localize
  rw [ends_get_bind]
  simp only [hc, hentry, ends_pure, and_self]

/-- A reference that is replaced by one into the registry is pointed at when that is done. -/
theorem points_of_localizes {answer : Disposition Completion} (hnested : NestedHoists nested)
    (hwf : s.store.WF) (hr : ∀ c, r.component = some c → c ∈ s.dialect.components)
    (href : reference? s.options base node t = some r) (hvalid : r.error = none)
    (hlegible : s'.store.Legible) (h : Localizes nested node r state s (.ok answer) s') :
    answer = .doneWith node.withoutAdornment ∨
      ∃ target, answer = .doneWith target ∧ s'.Points r target ∧
        (s.isActive r = false → r.id ∈ s'.finalized) := by
  cases h with
  | bare | missing | gone => exact .inl rfl
  | @known c e component entry =>
    have hpoints : s.Points r e.refNode := congrArg (Option.map Entry.refNode) entry
    refine .inr ⟨e.refNode, rfl, hpoints, fun hfree => ?_⟩
    rcases (points_iff.mp hpoints).1 with hactive | hmem
    · rw [hfree] at hactive
      cases hactive
    · exact hmem
  | @active c id s₁ raw url e registry component entry look tree hurl hoist active =>
    have hfind := find?_of_localize (sharp_of_loads href hvalid hurl look hlegible) hoist
    have hstill : (s₁.withRegistry registry).isActive r = true :=
      ((evolves_of_loads hwf look).isActive r).trans active
    refine .inr ⟨e.refNode, rfl, points_iff.mpr ⟨.inl hstill, e, hfind, rfl⟩, fun hfree => ?_⟩
    rw [hfree] at active
    cases active
  | @hoisted c id s₁ s₂ raw url e registry tree' component entry look tree hurl hoist free scan =>
    have hlook := evolves_of_loads hwf look
    have hhoist := evolves_localized hlook.wf (hlook.dialect ▸ hr _ component) hoist
    obtain ⟨s₃, hends, rfl⟩ := scan
    have hscan := relates_of_rescans (carries_hoists hnested)
      (s := (s₁.withRegistry registry).enter r) hhoist.wf hends
    rw [store_hoisted] at hlegible
    have hfind := find?_of_localize
      (sharp_of_loads href hvalid hurl look (hlegible.of_extends hscan.store)) hoist
    have hkept := extends_hoisted (s := s₃.leave r) (r := r) (y := tree')
    obtain ⟨e', he', hhead⟩ := (hscan.registry.trans hkept).find? hfind
    have hmem : r.id ∈ (hoisted (s₃.leave r) r tree').finalized := by
      rw [finalized_hoisted]
      exact List.mem_append_right _ (List.mem_singleton_self _)
    exact .inr ⟨e.refNode, rfl,
      points_iff.mpr ⟨.inr hmem, e', he', Entry.refNode_of_head hhead⟩, fun _ => hmem⟩

end Scan

end ApiBundle
