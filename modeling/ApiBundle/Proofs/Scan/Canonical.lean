import ApiBundle.Proofs.Scan.Collecting
import ApiBundle.Proofs.Scan.Loading
import ApiBundle.Proofs.Scan.Termination
import ApiBundle.Proofs.Store.Alone

/-!
# Scans of canonical documents

Where a walk stands in a canonical document is known from its path (`Scan.Stands`).
-/

namespace ApiBundle

/-- A canonical document that was read from a URL. -/
structure Dialect.Hosts (d : Dialect) (u : Uri) (tree : Json) : Prop where
  canonical : d.Canonical tree
  wf : tree.WellFormed
  whole : u.withoutFragment = u
  reads : Uri.parse u.text = .ok u

/-- The state of a run on one canonical document. -/
structure Session.Alone (d : Dialect) (u : Uri) (tree : Json) (s : Session) : Prop where
  store : s.store.Alone d u tree
  dialect : s.dialect = d
  inlined : s.options.inlined = []

namespace Scan

open Scanning Json Dialect

variable {d : Dialect} {u : Uri} {tree x y : Json} {base r : Reference} {t : Tracker Component}
  {s s' : Session} {c : Component} {p : Pointer} {phase : Phase} {k : Segment × Json}

/-! ## Where walks stand -/

/-- The path of the visited node in its document. -/
def place (base : Reference) (t : Tracker Component) : List Segment := base.pointer.keys ++ t.path

theorem place_move (step : Segment) : place base (t.move step) = place base t ++ [step] := by
  rw [place, path_move, ← List.append_assoc]
  rfl

/-- A walk is at what stands at a place of a document. -/
structure Stands (d : Dialect) (u : Uri) (tree : Json) (base : Reference) (t : Tracker Component)
    (x : Json) : Prop where
  url : base.url = some u
  machine : t.machine = d.machine
  node : tree.follow? (place base t) = some x
  state : d.StandsIn t.current (d.machine.run (some d.model) (place base t))

/-- A definition is at or below the visited node, which is visited in the state of its place. -/
structure Covers (d : Dialect) (tree : Json) (base : Reference) (t : Tracker Component)
    (p : Pointer) : Prop where
  current : t.current = d.machine.run (some d.model) (place base t)
  defined : ∃ c, d.Defines tree c p
  below : place base t <+: p.keys

theorem Covers.definedAt? (h : Covers d tree base t p) (hkeys : p.keys = place base t) :
    ∃ c, t.current.bind d.definedAt? = some c := by
  obtain ⟨c, hdefines⟩ := h.defined
  refine ⟨c, ?_⟩
  rw [h.current, ← hkeys]
  exact hdefines.component

/-- What has become of the node at the place of a walk. -/
def Becomes (u : Uri) (tree : Json) (base : Reference) (t : Tracker Component) (y : Json) : Prop :=
  ∃ x, tree.follow? (place base t) = some x ∧ Dressed u x y

theorem run_place_move (step : Segment) :
    d.machine.run (some d.model) (place base (t.move step)) =
      (d.machine.run (some d.model) (place base t)).bind (d.machine.step · step) := by
  rw [place_move, Machine.run_append]
  rfl

theorem follow?_place_move (h : tree.follow? (place base t) = some x) (step : Segment) :
    tree.follow? (place base (t.move step)) = x.step? step := by
  rw [place_move, follow?_append, h]
  show (x.step? step).bind _ = _
  cases x.step? step <;> rfl

namespace Stands

theorem move (h : Stands d u tree base t x) {step : Segment} (hy : x.step? step = some y) :
    Stands d u tree base (t.move step) y where
  url := h.url
  machine := h.machine
  node := (follow?_place_move h.node step).trans hy
  state := by
    have hcurrent : (t.move step).current = t.current.bind (d.machine.step · step) := by
      rw [← h.machine]
      rfl
    rw [hcurrent, run_place_move, h.state.step step]
    exact .same _

/-- A definition below the node is below one of its children. -/
theorem covers_cases (h : Stands d u tree base t x) (hc : Covers d tree base t p) :
    p.keys = place base t ∨ ∃ k ∈ x.kids, Covers d tree base (t.move k.1) p := by
  obtain ⟨rest, hrest⟩ := hc.below
  cases rest with
  | nil => exact .inl (by rw [← hrest, List.append_nil])
  | cons step rest =>
    refine .inr ?_
    obtain ⟨c, hdefines⟩ := hc.defined
    obtain ⟨z, hz⟩ := Option.isSome_iff_exists.mp hdefines.found
    rw [← hrest, follow?_append, h.node, Option.bind_some] at hz
    obtain ⟨a, ha, -⟩ := Option.bind_eq_some_iff.mp hz
    refine ⟨(step, a), mem_kids_of_step? ha, ?_, hc.defined, ?_⟩
    · rw [run_place_move, ← hc.current, ← h.machine]
      rfl
    · rw [place_move, ← hrest]
      exact ⟨rest, by simp⟩

/-- At a hop there is no definition. -/
theorem keys_ne_of_anonymous (h : Stands d u tree base t x) (hsite : t.site = .anonymous)
    (hc : Covers d tree base t p) : p.keys ≠ place base t := by
  intro hkeys
  obtain ⟨c, hdefined⟩ := hc.definedAt? hkeys
  rw [← defined?_site h.machine, hsite] at hdefined
  cases hdefined

end Stands

/-! ## Walks -/

/--
A walk comes to an end without a failure, and leaves of the node what it may become. `I` holds
before and after it, and `D` holds of all definitions that were met.
-/
def Fares (d : Dialect) (u : Uri) (tree : Json) (phase : Phase) (I : Session → Prop)
    (D : Pointer → Session → Prop) (base : Reference) (y : Json) (t : Tracker Component)
    (s : Session) : Prop :=
  ∃ y' s', Walk.Comes scope (fun b => visitor (scanFrom b) phase base) [] y t s (y', none) s' ∧
    Becomes u tree base t y' ∧ I s' ∧ ∀ p, D p s ∨ Covers d tree base t p → D p s'

/-- The completion of a node comes to an end without a failure and does not change the node. -/
def Finishes (d : Dialect) (u : Uri) (tree : Json) (phase : Phase) (I : Session → Prop)
    (D : Pointer → Session → Prop) (base : Reference) (t : Tracker Component)
    (completion : Option Completion) : Prop :=
  ∀ y s, Becomes u tree base t y → I s → ∃ s',
    Bounded.Comes (fun b => Walk.finish (visitor (scanFrom b) phase base) t completion.toList y) s
      (y, none) s' ∧ I s' ∧
      ∀ p, D p s ∨ (Covers d tree base t p ∧ p.keys = place base t) → D p s'

variable {I : Session → Prop} {D : Pointer → Session → Prop}

/-- A hop is walked through. -/
theorem comes_hop {out : Json × Option BundleError} (hsite : t.site = .anonymous)
    (hkids : Walk.ChildrenCome scope (fun b => visitor (scanFrom b) phase base) y t s out s') :
    Walk.Comes scope (fun b => visitor (scanFrom b) phase base) [] y t s out s' := by
  have hpassed := eligible_eq_false.mpr hsite
  exact Walk.comes_pass hpassed (isOffRoad_of_passed hpassed) hkids

/--
How walks of a canonical document fare is decided at its reference nodes. At the other nodes they
descend, unless they are known to fare well.
-/
theorem fares (hhost : d.Hosts u tree)
    (held : ∀ {x y t s}, Stands d u tree base t x → x.isRefNode = true → Dressed u x y → I s →
      Fares d u tree phase I D base y t s)
    (plain : ∀ {x y t s}, Stands d u tree base t x → y.refText? = none → t.site ≠ .anonymous →
      Dressed u x y → I s → Fares d u tree phase I D base y t s ∨
        ∃ completion, Finishes d u tree phase I D base t completion ∧
          Comes (fun b => visit (scanFrom b) phase base y t) s
            (.ok (Disposition.descend.andThen completion)) s)
    (h : Stands d u tree base t x) (hxy : Dressed u x y) (hs : I s) :
    Fares d u tree phase I D base y t s := by
  induction hxy generalizing t s with
  | bare p => exact held h (by simp [isRefNode]) (.bare p) hs
  | adorned p c => exact held h (by simp [isRefNode]) (.adorned p c) hs
  | @plain x ys unread hlen hys ih =>
    have hxwf := hhost.wf.follow? h.node
    have hdressed : Dressed u x (x.withKids ys) := .plain unread hlen hys
    -- the children, one after the other
    have hkids : ∀ s, I s → ∃ zs s', Walk.ChildrenCome scope
          (fun b => visitor (scanFrom b) phase base) (x.withKids ys) t s
          ((x.withKids ys).withKids zs, none) s' ∧
        Becomes u tree base t ((x.withKids ys).withKids zs) ∧ I s' ∧
        ∀ p, D p s ∨ (Covers d tree base t p ∧ p.keys ≠ place base t) → D p s' := by
      intro s hs
      obtain ⟨zs, s', hthread, hs', hdone⟩ := Walk.Threaded.of_forall (x.withKids ys).kids (t := t)
        (R := fun y t s y' e s' => Walk.Comes scope (fun b => visitor (scanFrom b) phase base) [] y
          t s (y', e) s' ∧ (e = none → Becomes u tree base t y'))
        (C := fun k p => Covers d tree base (t.move k.1) p) (D := D)
        (fun k hk s hs => by
          rw [Kidwise.kids_withKids hlen] at hk
          obtain ⟨pair, hpair, rfl⟩ := List.mem_map.mp hk
          have hstep := hxwf.step?_of_mem_kids (List.of_mem_zip hpair).1
          obtain ⟨y', s', hcome, hbecomes, hs', hdone⟩ := ih pair hpair (h.move hstep) hs
          exact ⟨y', s', ⟨hcome, fun _ => hbecomes⟩, hs', hdone⟩) hs
      have hcome : Walk.Come scope (fun b => visitor (scanFrom b) phase base) t _ s zs none s' :=
        hthread.mono fun h => h.1
      refine ⟨zs, s', hcome.children, ⟨x, h.node, .of_kidwise unread ?_⟩, hs', fun p hp => hdone p ?_⟩
      · have hbefore : x.Kidwise (fun step a b => x.step? step = some a ∧ Dressed u a b) _ :=
          (hdressed.kidwise unread).mono fun hk _ hab => ⟨hxwf.step?_of_mem_kids hk, hab⟩
        refine hbefore.trans (hthread.kidwise (Q := fun step _ b => Becomes u tree base (t.move step) b)
          fun h => h.2 rfl) fun {step a b c} hab hbc => ?_
        obtain ⟨a', ha', hdressed'⟩ := hbc
        rw [follow?_place_move h.node, hab.1] at ha'
        cases ha'
        exact hdressed'
      · refine hp.imp_right fun hbelow => ?_
        obtain ⟨hcovers, hne⟩ := hbelow
        obtain ⟨k, hk, hbelow⟩ := (h.covers_cases hcovers).resolve_left hne
        obtain ⟨b, hb, -⟩ := (hdressed.kidwise unread).step?_of_step? (hxwf.step?_of_mem_kids hk)
        exact ⟨(k.1, b), mem_kids_of_step? hb, hbelow⟩
    by_cases hsite : t.site = .anonymous
    · obtain ⟨zs, s', hcome, hbecomes, hs', hdone⟩ := hkids s hs
      exact ⟨_, s', comes_hop hsite hcome, hbecomes, hs',
        fun p hp => hdone p (hp.imp_right fun hc => ⟨hc, h.keys_ne_of_anonymous hsite hc⟩)⟩
    · have hplain : (x.withKids ys).refText? = none := hdressed.refText?_eq.trans unread
      rcases plain h hplain hsite hdressed hs with hfares | ⟨completion, hfinish, hvisit⟩
      · exact hfares
      · obtain ⟨zs, s₁, hcome, hbecomes, hs₁, hdone⟩ := hkids s hs
        obtain ⟨s', hfinished, hs', hdone'⟩ := hfinish _ _ hbecomes hs₁
        refine ⟨_, s', Walk.comes_descend (eligible_iff.mpr hsite) hvisit rfl hcome ?_, hbecomes, hs',
          fun p hp => hdone' p ?_⟩
        · rw [List.append_nil]
          exact hfinished
        · by_cases hkeys : p.keys = place base t
          · exact hp.imp (fun hp => hdone p (.inl hp)) fun hc => ⟨hc, hkeys⟩
          · exact .inl (hdone p (hp.imp_right fun hc => ⟨hc, hkeys⟩))

/-! ## Reference nodes -/

/-- A walk is at a reference to a definition, in the state of the place. -/
structure Refers (d : Dialect) (tree : Json) (base : Reference) (t : Tracker Component)
    (c : Component) (p : Pointer) : Prop where
  site : t.site = .named c
  cited : IsCited c
  citable : d.Citable tree c p
  current : t.current = d.machine.run (some d.model) (place base t)
  tag : (d.machine.run (some d.model) (place base t)).bind d.machine.tag = some c

theorem Stands.refers (h : Stands d u tree base t x) (hhost : d.Hosts u tree)
    (href : x.isRefNode = true) :
    ∃ c p, Refers d tree base t c p ∧ x = refNode ("#" ++ p.text) := by
  obtain ⟨c, htag, hc, hcites⟩ := hhost.canonical _ x h.node href
  obtain ⟨p, hp, rfl⟩ := hcites.eq_refNode hc
  have hcurrent := h.state.eq_of_tag htag hc
  refine ⟨c, p, ⟨?_, hc, hp, hcurrent, htag⟩, rfl⟩
  rw [← hcurrent] at htag
  obtain ⟨q, hq, htag⟩ := Option.bind_eq_some_iff.mp htag
  unfold Tracker.site
  rw [hq, h.machine]
  simp only [htag]

namespace Refers

variable (h : Refers d tree base t c p)
include h

theorem visited : t.site ≠ .anonymous := by
  rw [h.site]
  simp

/-- Nothing is defined at a reference. -/
theorem not_covers {q : Pointer} : ¬ Covers d tree base t q := by
  intro hcovers
  obtain ⟨c', hdefines⟩ := hcovers.defined
  obtain ⟨rest, hrest⟩ := hcovers.below
  have hnone := h.cited.unnested rest h.tag
  rw [hrest, hdefines.component] at hnone
  cases hnone

/-- The reference is hoisted. -/
theorem treatment {o : Options} (hinlined : o.inlined = []) :
    ((Reference.atPointer u p).withComponent t.site.tag?).treatment o = .localize :=
  h.cited.treatment rfl (by rw [h.site]; rfl) hinlined

end Refers

theorem sharp_atPointer (hhost : d.Hosts u tree) (p : Pointer) (c : Option Component) :
    ((Reference.atPointer u p).withComponent c).Sharp u := by
  refine ⟨?_, ?_, hhost.whole, rfl⟩ <;> simp [Reference.atPointer, Reference.withComponent, hhost.whole]

/-- The reference of such a node is read from its text, or from its adornment. -/
theorem reference?_of_cited (hhost : d.Hosts u tree) (hp : d.Citable tree c p)
    (hurl : base.url = some u) (hy : Dressed u (refNode ("#" ++ p.text)) y) (o : Options) :
    reference? o base y t = some ((Reference.atPointer u p).withComponent t.site.tag?) := by
  generalize hx : refNode ("#" ++ p.text) = x at hy
  cases hy with
  | plain unread =>
    rw [← hx, refText?_refNode] at unread
    cases unread
  | bare p' =>
    have hnone : Reference.ofNode? (refNode ("#" ++ p.text)) = none := by
      simp [Reference.ofNode?, refNode, member?, OrderedMap.find?, refKey_ne_adornmentKey]
    have hroot : p.isRoot = false :=
      Bool.eq_false_iff.mpr fun hroot => hp.inside (Pointer.isRoot_iff.mp hroot)
    have hresolve : Reference.resolve ("#" ++ p.text) (some u) t.site.tag? =
        (Reference.atPointer u p).withComponent t.site.tag? := by
      rw [Reference.resolve_here hp.inside hp.plain]
      simp [Reference.atPointer, Reference.withComponent, hroot]
    rw [← hx]
    unfold reference?
    simp only [refText?_refNode, Option.map_some, hnone, hurl, hresolve]
    split
    · rw [Reference.expandName_eq_self _ (Pointer.slash_mem_text hp.inside)]
      simp [Reference.atPointer, Reference.withComponent, hroot]
    · rfl
  | adorned p' c' =>
    obtain rfl : p = p' := by
      have htext : "#" ++ p.text = "#" ++ p'.text := by simpa [refNode] using hx
      exact Pointer.text_inj (String.append_right_inj _ |>.mp htext)
    have hholds := holds_adorned (refText?_refNode ("#" ++ p.text))
      ((Reference.atPointer u p).withComponent c')
    have hkept := (sharp_atPointer hhost p c').kept_eq hhost.reads rfl
    unfold reference?
    rw [hholds.text, Option.map_some, hholds.ofNode?]
    simp only
    rw [hkept]
    rfl

theorem reference?_of_plain {o : Options} (h : y.refText? = none) :
    reference? o base y t = none := by
  unfold reference?
  rw [h]
  rfl

/-- A walk that is done with a node fares as the visit does. -/
theorem fares_of_done {new : Json} (hsite : t.site ≠ .anonymous)
    (hvisit : Comes (fun b => visit (scanFrom b) phase base y t) s (.ok (.doneWith new)) s')
    (hy : Becomes u tree base t y) (hnew : Becomes u tree base t new) (hs' : I s')
    (hdone : ∀ p, D p s ∨ Covers d tree base t p → D p s') :
    Fares d u tree phase I D base y t s := by
  rcases hsettle : (Disposition.doneWith (κ := Completion) new).settle y with ⟨z, action⟩
  have hz : Becomes u tree base t z ∧ action = .done := by
    rcases settle_cases rfl hsettle with ⟨rfl, rfl⟩ | ⟨rfl, -, rfl⟩
    · exact ⟨hnew, rfl⟩
    · exact ⟨hy, rfl⟩
  obtain ⟨hz, rfl⟩ := hz
  exact ⟨z, s', Walk.comes_done (eligible_iff.mpr hsite) hvisit hsettle Bounded.comes_pure, hz, hs',
    hdone⟩

/-! ## Loading -/

/-- What a reference node of the document becomes when it is adorned. -/
theorem dressed_adorned (hy : Dressed u (refNode ("#" ++ p.text)) y) (c : Option Component) :
    Dressed u (refNode ("#" ++ p.text))
      (adorned y ((Reference.atPointer u p).withComponent c)) := by
  generalize hx : refNode ("#" ++ p.text) = x at hy
  cases hy with
  | plain unread =>
    rw [← hx, refText?_refNode] at unread
    cases unread
  | bare =>
    rw [← hx]
    exact .adorned p c
  | adorned =>
    rw [← hx, adorned_adorned (refText?_refNode _)]
    exact .adorned p c

/-- Loading a canonical document adorns its references, and does nothing else. -/
theorem load_fares (hhost : d.Hosts u tree) (hinlined : s.options.inlined = [])
    (h : Stands d u tree base t x) (hxy : Dressed u x y) :
    Fares d u tree .load (· = s) (fun _ _ => True) base y t s := by
  refine fares hhost ?held ?plain h hxy rfl
  case held =>
    rintro x y t s h href hxy rfl
    obtain ⟨c, p, hrefers, rfl⟩ := h.refers hhost href
    have hvisit (nested : NestedScan) : Ends (load nested base y t) s
        (.ok (.doneWith (adorned y ((Reference.atPointer u p).withComponent t.site.tag?)))) s := by
      have hread := reference?_of_cited (t := t) hhost hrefers.citable h.url hxy s.options
      unfold load
      rw [ends_get_bind]
      simp only [hread, hrefers.treatment hinlined, ends_pure, and_self]
    exact fares_of_done hrefers.visited ⟨0, fun b _ => hvisit _⟩ ⟨_, h.node, hxy⟩
      ⟨_, h.node, dressed_adorned hxy _⟩ rfl fun _ _ => trivial
  case plain =>
    rintro x y t s h hplain hsite hxy rfl
    have hvisit (nested : NestedScan) : Ends (load nested base y t) s (.ok .descend) s := by
      unfold load
      rw [ends_get_bind]
      simp only [reference?_of_plain hplain, ends_pure, and_self]
    refine .inr ⟨none, fun y s' hy hs' => ⟨s', Bounded.comes_pure, hs', fun _ _ => trivial⟩, ?_⟩
    exact ⟨0, fun b _ => hvisit _⟩

/-- The walk of the tree of a content starts at its place. -/
theorem stands_start {start : Option Nat} {content : Content} {id : ContentId}
    (h : s.Alone d u tree) (hc : s.store.content? id = some content)
    (hstate : d.StandsIn start (d.machine.run (some d.model) content.reference.pointer.keys))
    (hx : tree.follow? content.reference.pointer.keys = some x) :
    Stands d u tree content.reference (.start s.dialect.machine start) x := by
  have hplace : place content.reference (.start s.dialect.machine start) =
      content.reference.pointer.keys := List.append_nil _
  exact ⟨(h.store.sharp hc).url, congrArg Dialect.machine h.dialect, hplace ▸ hx, hplace ▸ hstate⟩

/-- Every content of a canonical document is loaded, and stays what it is. -/
theorem load_comes_alone {start : Option Nat} {content : Content} {id : ContentId}
    (hhost : d.Hosts u tree) (h : s.Alone d u tree) (hc : s.store.content? id = some content)
    (hstate : d.StandsIn start (d.machine.run (some d.model) content.reference.pointer.keys)) :
    ∃ y store content', Comes (fun b => scanFrom b id .load start) s (.ok (some y))
        (s.withStore store) ∧ (s.withStore store).Alone d u tree ∧
      store.content? id = some content' ∧ content'.reference = content.reference := by
  obtain ⟨x, y, hx, hy, hxy⟩ := h.store.tree? hc
  have hstands := stands_start h hc hstate hx
  obtain ⟨y', _, hwalk, ⟨x', hx', hxy'⟩, rfl, -⟩ := load_fares hhost h.inlined hstands hxy
  cases hx'.symm.trans hstands.node
  obtain ⟨store, hwrite, hstore⟩ := h.store.write hc hx hxy'
  have hcomes := scanFrom_comes hc hy hwalk (by rw [if_pos rfl]; exact ⟨store, hwrite, rfl⟩)
  obtain ⟨b, hends⟩ := hcomes.ends
  obtain ⟨content', hc', href, -⟩ := (evolves_scanFrom b hends h.store.wf).store.content hc
  exact ⟨y', store, content', hcomes, ⟨hstore, h.dialect, h.inlined⟩, hc', href⟩

/-- What a reference to a definition leads to is found. -/
theorem loadTarget_alone (h : s.Alone d u tree) (hr : r.Sharp u) (hvalid : r.error = none)
    (hc : d.Citable tree c r.pointer) (start : Option Nat) : ∃ (id : ContentId) (store : Store)
      (content : Content), Ends (loadTarget r start) s (.ok (.ok id)) (s.withStore store) ∧
      (s.withStore store).Alone d u tree ∧ store.content? id = some content ∧
      content.reference.pointer = r.pointer := by
  obtain ⟨target, s₁, hends, hloads⟩ := loadTarget_ends h.store.wf r start
  cases hloads with
  | @found id content store look grows hcontent same valid body =>
    have hstore := h.store.load hr hvalid hc look grows
    refine ⟨id, store, content, hends, ⟨hstore, h.dialect, h.inlined⟩, hcontent, ?_⟩
    rw [(hstore.sharp hcontent).id_eq, hr.id_eq] at same
    exact (Reference.eq_of_id_atPointer same).2
  | @lost id content store e look grows hcontent same error =>
    rw [(h.store.load hr hvalid hc look grows).valid hcontent] at error
    cases error

end Scan

end ApiBundle
