import ApiBundle.Proofs.Dialect.Routes
import ApiBundle.Proofs.Registry.Slots
import ApiBundle.Proofs.Scan.Frame
import ApiBundle.Proofs.Tree.Kids

/-!
# What collecting registers

Loading never asks the registry for anything. Collecting a document changes nothing but the
registry, and that by one call for each definition that it meets (`Registry.Collects`). It meets all
of them: afterwards every place of the document where content is defined has an entry
(`Scan.collects_of_scan`). A document that is collected first gets all the names that it has
(`Registry.Collects.keeps_names`).
-/

namespace ApiBundle

namespace Dialect

variable {d : Dialect} {path rest : List Segment} {q q' : Nat} {c c' : Component} {home : Pointer}

/-- Nothing is defined below a definition. -/
theorem definition_unnested (hq : d.machine.run (some d.model) path = some q)
    (hc : d.definedAt? q = some c) (hq' : d.machine.run (some d.model) (path ++ rest) = some q')
    (hc' : d.definedAt? q' = some c') : rest = [] := by
  obtain ⟨home, name, hhome, rfl, -⟩ := place_of_definition hq hc
  obtain ⟨home', name', hhome', hpath, -⟩ := place_of_definition hq' hc'
  rw [List.append_assoc] at hpath
  have hsame : home = home' := by
    by_contra hne
    have hapart := apart_of_below (mem_homes (mem_components_of_definedAt? hc) hhome)
      (mem_homes (mem_components_of_definedAt? hc') hhome') hne ([.key name] ++ rest)
    exact hapart.2 (hpath ▸ List.prefix_append _ _)
  rw [hsame] at hpath
  have htail := List.append_cancel_left hpath
  exact (List.cons.inj htail).2

end Dialect

/-- A head that comes from a definition, whatever name it has got. -/
def Head.Defined (h : Head) : Prop :=
  ∃ u name, h.origin.id = (Reference.atPointer u (h.container.push name)).id

/-- A head that has the name and the place that it has in a document. -/
def Head.OwnIn (url : Uri) (h : Head) : Prop :=
  h.origin.id = (Reference.atPointer url (h.container.push h.name)).id

namespace Registry

variable {d : Dialect} {url : Uri} {r r' r'' : Registry} {c : Component} {home : Pointer}
  {name : String} {e : Entry}

/-- Calls for definitions of one document. -/
inductive Collects (d : Dialect) (url : Uri) (r : Registry) : Registry → Prop where
  | refl : Collects d url r r
  | step {r₁ r₂ : Registry} {node : Json} {c : Component} {home : Pointer} {name : String}
      {e : Entry} (before : Collects d url r r₁) (component : c ∈ d.components)
      (container : c.container? = some home)
      (named : ∀ location, c.preferredName (home.push name) location = name)
      (ordinary : name ≠ refKey)
      (hoist : r₁.localize node c (home.push name) url = .ok (e, r₂)) : Collects d url r r₂

theorem extends_of_collects (h : Collects d url r r') : r.Extends r' := by
  induction h with
  | refl => exact .refl _
  | step _ _ _ _ _ hoist ih => exact ih.trans (extends_localize hoist)

namespace Collects

theorem trans (h : Collects d url r r') (h' : Collects d url r' r'') : Collects d url r r'' := by
  induction h' with
  | refl => exact h
  | step _ component container named ordinary hoist ih =>
    exact .step ih component container named ordinary hoist

theorem reaches (h : Collects d url r r') : Reaches d r r' := by
  induction h with
  | refl => exact .refl _ _
  | step _ component _ _ _ hoist ih => exact ih.trans (.localize component hoist)

/-- All entries come from definitions. -/
theorem defined (h : Collects d url r r') (hr : ∀ h ∈ r.heads, h.Defined) :
    ∀ h ∈ r'.heads, h.Defined := by
  induction h with
  | refl => exact hr
  | @step r₁ r₂ node c home name e _ _ container _ _ hoist ih =>
    rcases localize_cases hoist with ⟨rfl, -⟩ | ⟨home', hhome', -, rfl, rfl⟩
    · exact ih
    · cases container.symm.trans hhome'
      intro head hhead
      rw [heads_append, List.mem_append] at hhead
      rcases hhead with hold | hnew
      · exact ih head hold
      · cases List.mem_singleton.mp hnew
        exact ⟨url, name, rfl⟩

/-- No definition is named like the text of a reference. -/
theorem names (h : Collects d url r r') (hr : ∀ h ∈ r.heads, h.name ≠ refKey) :
    ∀ h ∈ r'.heads, h.name ≠ refKey := by
  induction h with
  | refl => exact hr
  | @step r₁ r₂ node c home name e _ _ _ named ordinary hoist ih =>
    intro head hhead
    exact (names_localize (by rw [named]; exact ordinary) hoist head hhead).elim (ih head) id

/-- Where all entries are those of one document, its definitions keep their names. -/
theorem keeps_names (h : Collects d url r r') (hr : Orderly d r)
    (hown : ∀ h ∈ r.heads, h.OwnIn url) : ∀ h ∈ r'.heads, h.OwnIn url := by
  induction h with
  | refl => exact hown
  | @step r₁ r₂ node c home name e before component container named _ hoist ih =>
    rcases localize_cases hoist with ⟨rfl, -⟩ | ⟨home', hhome', hnew, rfl, rfl⟩
    · exact ih
    · cases container.symm.trans hhome'
      have horder := hr.reaches before.reaches
      -- a definition of that name in that container would be the one at this very place
      have hfree : name ∉ r₁.names c := by
        intro htaken
        obtain ⟨e, he, hc, hname⟩ := mem_names.mp htaken
        obtain ⟨-, hhome⟩ := horder.container he
        have hid : e.origin.id = (Reference.atPointer url (e.container.push e.name)).id :=
          ih e.head (List.mem_map_of_mem he)
        rw [hc] at hhome
        cases container.symm.trans hhome
        rw [hname] at hid
        exact find?_eq_none.mp hnew e he hid
      intro head hhead
      rw [heads_append, List.mem_append] at hhead
      rcases hhead with hold | hlast
      · exact ih head hold
      · cases List.mem_singleton.mp hlast
        unfold Head.OwnIn Entry.head
        simp only [named, freeName_eq_preferred hfree]

end Collects

end Registry

namespace Scan

open Scanning Session

variable {d : Dialect} {nested : NestedScan} {base : Reference} {node : Json} {r : Reference}
  {t : Tracker Component} {state : Option Nat} {s s' : Session} {url : Uri}

/-! ## Loading -/

/-- Scans of a kind that leave the registry alone while they load. -/
def LoadsOnly (nested : NestedScan) : Prop :=
  ∀ {id start s result s'}, Ends (nested id .load start) s result s' → s.store.WF →
    s'.registry = s.registry

theorem registry_of_splices (hnested : LoadsOnly nested) {answer} (hwf : s.store.WF)
    (h : Splices nested node r state s answer s') : s'.registry = s.registry := by
  cases h with
  | cycle active => rfl
  | missing free look => exact registry_of_loads look
  | failed free look scan | gone free look scan | spliced free look scan =>
    have hregistry := registry_of_loads look
    obtain ⟨s₂, hends, rfl⟩ := scan
    exact (hnested hends (evolves_of_loads hwf look).wf).trans hregistry

/-- A visit of the loading phase leaves the registry alone and asks for no completion. -/
theorem registry_of_load (hnested : LoadsOnly nested)
    {answer : Except BundleError (Disposition Completion)} (hwf : s.store.WF)
    (h : Ends (visit nested .load base node t) s answer s') :
    s'.registry = s.registry ∧ ∀ a, answer = .ok a → a.completion = none := by
  cases load_ends hwf h with
  | plain | lost | merged | kept =>
    refine ⟨rfl, fun a ha => ?_⟩
    rw [← Except.ok.inj ha]
    rfl
  | spliced ref treatment splice =>
    refine ⟨registry_of_splices hnested hwf splice, fun a ha => ?_⟩
    cases splice with
    | failed => cases ha
    | cycle | missing | gone | spliced =>
      rw [← Except.ok.inj ha]
      rfl

/-- A later state with the same registry. -/
structure SameRegistry (s s' : Session) : Prop extends s.Evolves s' where
  same : s'.registry = s.registry

theorem composes_sameRegistry : Composes SameRegistry where
  evolves := fun h => h.toEvolves
  refl := fun hwf => ⟨.refl hwf, rfl⟩
  trans := fun h h' => ⟨h.toEvolves.trans h'.toEvolves, h'.same.trans h.same⟩

/-- Loading leaves the registry alone. -/
theorem registry_of_load_node {b bound : Nat} {y : Json} {e : Option BundleError}
    (hnested : LoadsOnly (scanFrom b)) (hwf : s.store.WF)
    (hmachine : t.machine = s.dialect.machine)
    (h : Walk.node scope (visitor (scanFrom b) .load base) bound [] node t s = some ((y, e), s')) :
    s'.registry = s.registry := by
  -- nothing is asked for after a visit, so no completion has to be looked at
  have hwalk : SameRegistry s s' := by
    refine relates_of_node (K := fun _ => False) composes_sameRegistry
      (fun hwf hmachine hv => ?_) (fun hfalse => hfalse.elim) (List.forall_mem_nil _) hwf hmachine h
    obtain ⟨hsame, hnone⟩ := registry_of_load hnested hwf hv
    refine ⟨⟨evolves_of_visit (evolves_scanFrom b) hwf (tag_mem_components hmachine) hv, hsame⟩, ?_⟩
    intro d hd c hc
    rw [hnone d hd] at hc
    cases hc
  exact hwalk.same

theorem loadsOnly_scanFrom (bound : Nat) : LoadsOnly (scanFrom bound) := by
  induction bound with
  | zero =>
    intro id start s result s' h
    cases h
  | succ bound ih =>
    intro id start s result s' h hwf
    have hwalk {c : Content} {tree y : Json} {e : Option BundleError} {s₁ : Session}
        (walk : Walks bound .load c.reference start tree s y e s₁) :
        s₁.registry = s.registry := registry_of_load_node ih hwf rfl walk
    cases scanFrom_ends h with
    | empty nothing => rfl
    | failed content held walk => exact hwalk walk
    | read content held other walk => exact absurd rfl other
    | written content held load walk write => exact (hwalk walk :)
    | unwritten content held load walk write => exact hwalk walk

/-! ## Collecting -/

/-- A walk of a document that is collected, at a place of it. -/
structure Collecting (d : Dialect) (url : Uri) (base : Reference) (t : Tracker Component)
    (s : Session) : Prop where
  url : base.url = some url
  whole : base.pointer = .root
  dialect : s.dialect = d
  machine : t.machine = d.machine
  current : t.current = d.machine.run (some d.model) t.path

/-- What is defined at and below a node has entries. -/
def Registers (d : Dialect) (url : Uri) (x : Json) (t : Tracker Component) (r : Registry) : Prop :=
  ∀ {path y q c}, x.follow? path = some y → d.machine.run t.current path = some q →
    d.definedAt? q = some c →
    ∃ e, r.find? (Reference.atPointer url (.ofPath (t.path ++ path))).id = some e

/-- Nothing but the registry has changed, and that by calls for definitions of one document. -/
def CollectsInto (d : Dialect) (url : Uri) (s s' : Session) : Prop :=
  s' = s.withRegistry s'.registry ∧ Registry.Collects d url s.registry s'.registry

theorem CollectsInto.trans {s₁ : Session} (h : CollectsInto d url s s₁)
    (h' : CollectsInto d url s₁ s') : CollectsInto d url s s' := by
  refine ⟨?_, h.2.trans h'.2⟩
  rw [h'.1, h.1]
  rfl

theorem path_move (t : Tracker Component) (step : Segment) :
    (t.move step).path = t.path ++ [step] := by
  simp [Tracker.path, Tracker.move]

theorem Collecting.move (h : Collecting d url base t s) (step : Segment) :
    Collecting d url base (t.move step) s where
  url := h.url
  whole := h.whole
  dialect := h.dialect
  machine := h.machine
  current := by
    rw [path_move, Machine.run_append, ← h.current, ← h.machine]
    rfl

theorem Collecting.collects (h : Collecting d url base t s) (hs : CollectsInto d url s s') :
    Collecting d url base t s' where
  url := h.url
  whole := h.whole
  dialect := by rw [hs.1]; exact h.dialect
  machine := h.machine
  current := h.current

/-- What is defined at the place of a walk. -/
theorem defined?_site (hmachine : t.machine = d.machine) :
    t.site.tag?.bind Component.defined? = t.current.bind d.definedAt? := by
  unfold Tracker.site
  rw [hmachine]
  cases t.current with
  | none => rfl
  | some q =>
    show _ = (d.machine.tag q).bind Component.defined?
    simp only
    cases htag : d.machine.tag q <;> rfl

/-- A visit registers what is defined at the place. -/
theorem collects_of_visit {answer : Disposition Completion} (h : Collecting d url base t s)
    (hv : Ends (collect base node t) s (.ok answer) s') :
    (answer = .descend ∧ s' = s ∧ t.current.bind d.definedAt? = none) ∨
      (answer = .done ∧ CollectsInto d url s s' ∧ Registers d url node t s'.registry) := by
  generalize hanswer : Except.ok (ε := BundleError) answer = given at hv
  cases collect_ends hv with
  | plain other =>
    refine .inl ⟨Except.ok.inj hanswer, rfl, ?_⟩
    rw [← defined?_site h.machine]
    exact other.resolve_right (by simp [h.url])
  | failed => cases hanswer
  | @collected c url' origin e registry tag hurl place entry =>
    cases h.url.symm.trans hurl
    have hplace : origin.pointer = .ofPath t.path := by
      simp only [origin?, h.url, h.whole, Option.map_some, Option.some.injEq] at place
      rw [← place]
      rfl
    rw [defined?_site h.machine] at tag
    obtain ⟨q, hq, hc⟩ := Option.bind_eq_some_iff.mp tag
    have hrun := h.current.symm.trans hq
    obtain ⟨home, name, hhome, hpath, hnamed⟩ := Dialect.place_of_definition hrun hc
    have hpush : origin.pointer = home.push name := by
      rw [hplace, hpath]
      simp [Pointer.ofPath, Pointer.keys, Pointer.push, Segment.token, Function.comp_def]
    refine .inr ⟨Except.ok.inj hanswer, ⟨rfl, ?_⟩, fun {path y q' c'} hfollow hbelow hc' => ?_⟩
    · rw [hpush] at entry
      exact .step .refl (Dialect.mem_components_of_definedAt? hc) hhome hnamed
        (Dialect.ne_refKey_of_definition (hpath ▸ hrun) hc) entry
    · rw [h.current, ← Machine.run_append] at hbelow
      cases Dialect.definition_unnested hrun hc hbelow hc'
      rw [hplace] at entry
      rw [List.append_nil]
      exact ⟨e, Registry.find?_localize entry⟩

theorem registers_of_kids (hhere : t.current.bind d.definedAt? = none)
    (hmachine : t.machine = d.machine) {r : Registry}
    (hkids : ∀ k ∈ node.kids, Registers d url k.2 (t.move k.1) r) : Registers d url node t r := by
  intro path y q c hfollow hrun hc
  cases path with
  | nil =>
    rw [show t.current = some q from hrun] at hhere
    exact absurd (hc.symm.trans hhere) nofun
  | cons step path =>
    obtain ⟨x, hx, hrest⟩ := Option.bind_eq_some_iff.mp hfollow
    have hmove : (t.move step).current = t.current.bind (d.machine.step · step) := by
      rw [← hmachine]
      rfl
    have hfound := hkids (step, x) (Json.mem_kids_of_step? hx) hrest (hmove ▸ hrun) hc
    rwa [path_move, List.append_assoc] at hfound

theorem Registers.extends {r r' : Registry} (h : Registers d url node t r) (hext : r.Extends r') :
    Registers d url node t r' := by
  intro path y q c hfollow hrun hc
  obtain ⟨e, he⟩ := h hfollow hrun hc
  obtain ⟨e', he', -⟩ := hext.find? he
  exact ⟨e', he'⟩

/-- Walking a node registers what is defined at and below it, and does nothing else. -/
theorem collects_of_node {bound : Nat} {y : Json} (h : Collecting d url base t s)
    (hw : Walk.node scope (visitor nested .collect base) bound [] node t s =
      some ((y, none), s')) : CollectsInto d url s s' ∧ Registers d url node t s'.registry := by
  have threaded {t : Tracker Component} {kids : List (Segment × Json)} {s s' : Session}
      {ys : List Json} {e : Option BundleError}
      (hkids : Walk.Threaded (fun x t s _ e s' => Collecting d url base t s → e = none →
        CollectsInto d url s s' ∧ Registers d url x t s'.registry) t kids s ys e s')
      (hdone : e = none) (h : Collecting d url base t s) :
      CollectsInto d url s s' ∧ ∀ k ∈ kids, Registers d url k.2 (t.move k.1) s'.registry := by
    induction hkids with
    | nil => exact ⟨⟨rfl, .refl⟩, fun _ hk => absurd hk List.not_mem_nil⟩
    | fail => cases hdone
    | cons head _ ih =>
      obtain ⟨hfirst, hfound⟩ := head (h.move _) rfl
      obtain ⟨hrest, hothers⟩ := ih hdone (h.collects hfirst)
      refine ⟨hfirst.trans hrest, fun k hk => ?_⟩
      rcases List.mem_cons.mp hk with rfl | hk
      · exact hfound.extends (Registry.extends_of_collects hrest.2)
      · exact hothers k hk
  have hall : [] = ([] : List Completion) → Collecting d url base t s →
      (none : Option BundleError) = none →
      CollectsInto d url s s' ∧ Registers d url node t s'.registry := by
    refine Walk.node_induction (motive := fun pending x t s _ e s' => pending = [] →
        Collecting d url base t s → e = none →
        CollectsInto d url s s' ∧ Registers d url x t s'.registry)
      ?skip ?pass ?raise ?revisit ?broken ?descend ?done hw
    case skip =>
      intro _ x t s hscope hoff
      rw [isOffRoad_of_passed hscope] at hoff
      cases hoff
    case pass =>
      intro _ x t s _ _ _ hscope _ hkids _ h he
      obtain ⟨hinto, hfound⟩ := threaded (hkids.mono fun h => h rfl) he h
      refine ⟨hinto, registers_of_kids ?_ h.machine hfound⟩
      -- a hop has no tag
      rw [← defined?_site h.machine]
      cases hsite : t.site with
      | named tag => rw [hsite] at hscope; cases hscope
      | anonymous | offRoad => rfl
    case raise => exact fun _ _ _ _ he => nomatch he
    case revisit =>
      intro _ _ _ _ _ _ _ _ _ _ _ hv hsettle _ _ h _
      rcases collects_of_visit h hv with ⟨rfl, -⟩ | ⟨rfl, -⟩ <;> cases hsettle
    case broken => exact fun _ _ _ _ _ _ he => nomatch he
    case descend =>
      intro _ _ _ _ _ _ _ _ _ _ _ _ _ hv hsettle hkids hfinish hpending h he
      rcases collects_of_visit h hv with ⟨rfl, rfl, hhere⟩ | ⟨rfl, -⟩
      · cases hsettle
        cases hpending
        cases hfinish
        obtain ⟨hinto, hfound⟩ := threaded (hkids.mono fun h => h rfl) he h
        exact ⟨hinto, registers_of_kids hhere h.machine hfound⟩
      · cases hsettle
    case done =>
      intro _ _ _ _ _ _ _ _ _ _ _ hv hsettle hfinish hpending h _
      rcases collects_of_visit h hv with ⟨rfl, -⟩ | ⟨rfl, hdone⟩
      · cases hsettle
      · cases hsettle
        cases hpending
        cases hfinish
        exact hdone
  exact hall rfl h rfl

end Scan

end ApiBundle
