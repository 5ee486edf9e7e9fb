import ApiBundle.Proofs.Scan.Enrolling

/-!
# Settling a canonical document

Settling a canonical document gives every definition's entry the content of the definition, and
points where references pointed before. A definition is scanned for the first reference that leads
to it; while that goes on, and afterwards, its entry is known, so scans nest no deeper than there
are entries.
-/

namespace ApiBundle

namespace Session

/-- Whether a reference is being resolved, or its content is finished. -/
def isBusy (s : Session) (i : RefId) : Bool := s.resolving.isActive i || s.finalized.contains i

/-- The heads of entries that nothing has been done for. -/
def idle (s : Session) (heads : List Head) : List Head :=
  heads.filter fun h => !s.isBusy h.origin.id

/-- A canonical document is being settled, with so many entries left that nothing was done for. -/
structure Settling (d : Dialect) (u : Uri) (tree : Json) (heads : List Head) (n : Nat)
    (s : Session) : Prop where
  alone : s.Alone d u tree
  enrolled : s.registry.Enrolled d u tree
  heads_eq : s.registry.heads = heads
  room : (s.idle heads).length ≤ n

/-- The entry for a definition has its content. -/
def Restored (u : Uri) (tree : Json) (p : Pointer) (s : Session) : Prop :=
  ∀ e ∈ s.registry.entries, e.origin.id = (Reference.atPointer u p).id →
    ∃ x, tree.follow? p.keys = some x ∧ Json.Dressed u x e.node

namespace Settling

variable {d : Dialect} {u : Uri} {tree x y : Json} {heads : List Head} {m n : Nat} {s s' : Session}
  {path : List Segment} {r : Reference} {store : Store} {p : Pointer}

theorem mono (h : s.Settling d u tree heads m) (hmn : m ≤ n) : s.Settling d u tree heads n :=
  ⟨h.alone, h.enrolled, h.heads_eq, Nat.le_trans h.room hmn⟩

theorem withStore (h : s.Settling d u tree heads n) (hstore : (s.withStore store).Alone d u tree) :
    (s.withStore store).Settling d u tree heads n :=
  ⟨hstore, h.enrolled, h.heads_eq, h.room⟩

/-- An entry may be given what its definition has become. -/
theorem refreshed (h : s.Settling d u tree heads n) (hx : tree.follow? path = some x)
    (hy : Json.Dressed u x y) :
    (s.refreshed (Reference.atPointer u (.ofPath path)).id y).Settling d u tree heads n ∧
      ∀ p, Restored u tree p s ∨ p.keys = path →
        Restored u tree p (s.refreshed (Reference.atPointer u (.ofPath path)).id y) := by
  have hheads : (s.refreshed (Reference.atPointer u (.ofPath path)).id y).registry.heads =
      s.registry.heads := Registry.heads_refresh _
  refine ⟨⟨⟨h.alone.store, h.alone.dialect, h.alone.inlined⟩, h.enrolled.of_heads_eq hheads,
    hheads.trans h.heads_eq, h.room⟩, fun p hp e' he' hid => ?_⟩
  obtain ⟨e, he, rfl⟩ := List.mem_map.mp he'
  by_cases horigin : e.origin.id = (Reference.atPointer u (.ofPath path)).id
  · rw [if_pos horigin] at hid ⊢
    obtain ⟨-, rfl⟩ := Reference.eq_of_id_atPointer (hid.symm.trans horigin)
    -- the entry is that of a definition, so that its place is found by names
    have hdefines := (h.enrolled.entry e he).2
    rw [h.enrolled.place_eq he horigin] at hdefines
    obtain ⟨x', hx'⟩ := Option.isSome_iff_exists.mp hdefines.found
    cases Json.follow?_eq_of_tokens hx' hx rfl
    exact ⟨x, hx', hy⟩
  · rw [if_neg horigin] at hid ⊢
    refine hp.elim (fun hold => hold e he hid) fun hkeys => absurd ?_ horigin
    rw [hid, ← hkeys, Scan.ofPath_keys]

/-- While a reference is resolved for the first time, there is one entry less. -/
theorem enter {e : Entry} (h : s.Settling d u tree heads n) (hfree : s.isBusy r.id = false)
    (he : s.registry.find? r.id = some e) : ∃ m < n, (s.enter r).Settling d u tree heads m := by
  obtain ⟨hmem, hid⟩ := Registry.mem_of_find? he
  have hhead : e.head ∈ heads := h.heads_eq ▸ List.mem_map_of_mem hmem
  have hid : e.head.origin.id = r.id := hid
  have hless : ((s.enter r).idle heads).length < (s.idle heads).length := by
    refine length_filter_lt (fun head hhead => ?_) hhead (by simp [hid, hfree]) ?_
    · simp only [isBusy, Session.enter, VisitSet.isActive, List.contains_eq_mem, List.mem_append,
        Bool.not_eq_true', Bool.or_eq_false_iff, decide_eq_false_iff_not, not_or] at hhead ⊢
      exact ⟨hhead.1.1, hhead.2⟩
    · simp [hid, isBusy, Session.enter, VisitSet.isActive]
  exact ⟨_, Nat.lt_of_lt_of_le hless h.room, ⟨h.alone.store, h.alone.dialect, h.alone.inlined⟩,
    h.enrolled, h.heads_eq, Nat.le_refl _⟩

/-- Afterwards, it is finished. -/
theorem finish (h : s.Settling d u tree heads n) :
    ((s.leave r).finish r).Settling d u tree heads n := by
  refine ⟨⟨h.alone.store, h.alone.dialect, h.alone.inlined⟩, h.enrolled, h.heads_eq,
    Nat.le_trans (List.Sublist.length_le ?_) h.room⟩
  refine List.monotone_filter_right _ fun head hhead => ?_
  simp only [isBusy, Session.leave, Session.finish, VisitSet.unvisit, VisitSet.isActive,
    List.contains_eq_mem, List.mem_filter, List.mem_append, List.mem_singleton, Bool.not_eq_true',
    Bool.or_eq_false_iff, decide_eq_false_iff_not, decide_eq_true_eq, not_or] at hhead ⊢
  exact ⟨fun hmem => hhead.1 ⟨hmem, hhead.2.2⟩, hhead.2.1⟩

end Settling

end Session

namespace Scan

open Scanning Session Json Dialect

variable {d : Dialect} {u : Uri} {tree x y : Json} {base : Reference} {t : Tracker Component}
  {heads : List Head} {n : Nat} {s s' : Session} {id : ContentId} {content : Content}
  {start : Option Nat} {c : Component} {p : Pointer}

/-- With so many entries left, contents are settled. -/
def Settles (d : Dialect) (u : Uri) (tree : Json) (heads : List Head) (n : Nat) : Prop :=
  ∀ {s : Session} {id : ContentId} {content : Content} {start : Option Nat},
    s.Settling d u tree heads n → s.store.content? id = some content →
    d.StandsIn start (d.machine.run (some d.model) content.reference.pointer.keys) →
    ∃ y s', Comes (fun b => scanFrom b id .settle start) s (.ok (some y)) s' ∧
      (∃ x, tree.follow? content.reference.pointer.keys = some x ∧ Dressed u x y) ∧
      s'.Settling d u tree heads n ∧ ∀ p, Restored u tree p s ∨
        Covers d tree content.reference (.start d.machine start) p → Restored u tree p s'

/-- A content is loaded and settled. -/
theorem rescan_comes (hhost : d.Hosts u tree) (hnested : Settles d u tree heads n)
    (hs : s.Settling d u tree heads n) (hc : s.store.content? id = some content)
    (hstate : d.StandsIn start (d.machine.run (some d.model) content.reference.pointer.keys)) :
    ∃ y s', Comes (fun b => rescan (scanFrom b) id start) s (.ok (some y)) s' ∧
      (∃ x, tree.follow? content.reference.pointer.keys = some x ∧ Dressed u x y) ∧
      s'.Settling d u tree heads n ∧ ∀ p, Restored u tree p s → Restored u tree p s' := by
  obtain ⟨_, store, content', hload, halone, hc', href⟩ :=
    load_comes_alone hhost hs.alone hc hstate
  obtain ⟨y, s', hsettle, hy, hs', hdone⟩ := hnested (hs.withStore halone) hc' (href ▸ hstate)
  rw [href] at hy
  exact ⟨y, s', hload.bind hsettle, hy, hs', fun p hp => hdone p (.inl hp)⟩

/-- Hoisting scans the content of an entry and brings the entry up to date. -/
theorem localize_hoists {nested : NestedScan} {r : Reference} {state : Option Nat} {id : ContentId}
    {s₁ s₂ : Session} {raw y : Json} {url : Uri} {e : Entry} {registry : Registry}
    (hcomponent : r.component = some c) (hentry : settledEntry? s r = none)
    (hlook : Ends (loadTarget r state) s (.ok (.ok id)) s₁) (hraw : s₁.store.tree? id = some raw)
    (hurl : r.url = some url)
    (hoist : s₁.registry.localize raw c r.pointer url = .ok (e, registry))
    (hfree : (s₁.withRegistry registry).isActive r = false)
    (hscan : Ends (rescan nested id state) ((s₁.withRegistry registry).enter r) (.ok (some y)) s₂) :
    Ends (localize nested node r state) s (.ok (.doneWith e.refNode))
      (hoisted (s₂.leave r) r (some y)) := by
  have hresolved : Ends (resolving r (rescan nested id state)) (s₁.withRegistry registry)
      (.ok (some y)) (s₂.leave r) := (ends_resolving hfree).mpr ⟨s₂, hscan, rfl⟩
  unfold localize
  rw [ends_get_bind]
  simp only [hcomponent, hentry]
  rw [ends_bind_of hlook]
  simp only
  rw [ends_get_bind]
  simp only [hraw, hurl]
  rw [ends_get_bind, ends_bind_of (ends_ofExcept.mpr ⟨hoist.symm, rfl⟩), ends_setRegistry_bind,
    ends_isResolving_bind, if_neg (by rw [hfree]; exact Bool.false_ne_true),
    ends_bind_of hresolved, ends_refreshEntry_bind, ends_modify_bind]
  exact ends_pure.mpr ⟨rfl, rfl⟩

/-- A reference to a definition is settled: it stays, and the entry of the definition is restored. -/
theorem localize_comes (hhost : d.Hosts u tree) (hnested : ∀ m < n, Settles d u tree heads m)
    (h : Refers d tree base t c p) (hs : s.Settling d u tree heads n) (node : Json) :
    ∃ s', Comes (fun b => localize (scanFrom b) node
        ((Reference.atPointer u p).withComponent t.site.tag?) t.current) s
        (.ok (.doneWith (refNode ("#" ++ p.text)))) s' ∧
      s'.Settling d u tree heads n ∧ ∀ q, Restored u tree q s → Restored u tree q s' := by
  have hsharp := sharp_atPointer hhost p t.site.tag?
  have hcomponent : ((Reference.atPointer u p).withComponent t.site.tag?).component = some c := by
    rw [h.site]
    rfl
  have hid : ((Reference.atPointer u p).withComponent t.site.tag?).id =
      (Reference.atPointer u p).id := rfl
  have hpointer : ((Reference.atPointer u p).withComponent t.site.tag?).pointer = p := rfl
  have hvalid : ((Reference.atPointer u p).withComponent t.site.tag?).error = none := rfl
  generalize (Reference.atPointer u p).withComponent t.site.tag? = r at *
  obtain ⟨e, he⟩ := hs.enrolled.defined c p h.citable.toDefines
  have hnode := hs.enrolled.refNode he
  have hentry : settledEntry? s r = if s.isBusy r.id then some e else none := by
    rw [← he, ← hid]
    rfl
  cases hbusy : s.isBusy r.id with
  | true =>
    rw [hbusy, if_pos rfl] at hentry
    refine ⟨s, ⟨0, fun b _ => ?_⟩, hs, fun _ hq => hq⟩
    unfold localize
    rw [ends_get_bind]
    simp only [hcomponent, hentry, hnode, ends_pure, and_self]
  | false =>
    rw [hbusy, if_neg Bool.false_ne_true] at hentry
    obtain ⟨id, store, content, hlook, halone, hcontent, hplace⟩ :=
      loadTarget_alone hs.alone hsharp hvalid (hpointer ▸ h.citable) t.current
    obtain ⟨x, raw, hx, hraw, -⟩ := halone.store.tree? hcontent
    have hs₁ := hs.withStore halone
    have hoist : (s.withStore store).registry.localize raw c r.pointer u = .ok (e, s.registry) :=
      Registry.localize_of_find? (hpointer.symm ▸ he)
    have hfree : (s.withStore store).isActive r = false :=
      (Bool.or_eq_false_iff.mp hbusy).1
    obtain ⟨m, hm, hs₂⟩ := hs₁.enter (r := r) hbusy (hid ▸ he)
    have hstate : d.StandsIn t.current
        (d.machine.run (some d.model) content.reference.pointer.keys) := by
      obtain ⟨q, hq, hdefined⟩ := Option.bind_eq_some_iff.mp h.citable.component
      obtain ⟨site, hsite, htag⟩ := Option.bind_eq_some_iff.mp h.tag
      rw [hplace, hpointer, hq, h.current, hsite]
      exact .site htag h.cited hdefined
    obtain ⟨y, s₃, ⟨b₀, hrescan⟩, ⟨x', hx', hy⟩, hs₃, hdone⟩ :=
      rescan_comes hhost (hnested m hm) hs₂ hcontent hstate
    have hlast := (hs₃.finish (r := r)).refreshed hx' hy
    rw [hplace, hpointer, ofPath_keys, ← hid] at hlast
    refine ⟨_, ⟨b₀, fun b hb => ?_⟩, hlast.1.mono (Nat.le_of_lt hm),
      fun q hq => hlast.2 q (.inl (hdone q hq))⟩
    rw [← hnode]
    exact localize_hoists hcomponent hentry hlook hraw hsharp.url hoist hfree (hrescan b hb)

/-- A definition's entry is refreshed when the definition has been walked. -/
theorem refresh?_eq (hmachine : t.machine = d.machine) (hurl : base.url = some u) :
    refresh? base t = if (t.current.bind d.definedAt?).isSome then
      some (.refresh (.atPointer u (.ofPath (place base t)))) else none := by
  have hany : (t.site.tag?.any fun c => c.info.defines.isSome) =
      (t.current.bind d.definedAt?).isSome := by
    rw [← defined?_site hmachine]
    cases t.site.tag? with
    | none => rfl
    | some c => simp [Component.defined?]
  unfold refresh?
  rw [hany, origin?_eq hurl]
  rfl

/-- Where nothing is defined, nothing is left to do; a definition's entry is restored. -/
theorem refresh?_finishes (h : Stands d u tree base t x) :
    Finishes d u tree .settle (Session.Settling d u tree heads n) (Restored u tree) base t
      (refresh? base t) := by
  intro y s hy hs
  rw [refresh?_eq h.machine h.url]
  by_cases hdefined : (t.current.bind d.definedAt?).isSome
  · rw [if_pos hdefined]
    obtain ⟨x, hx, hxy⟩ := hy
    obtain ⟨hs', hdone⟩ := hs.refreshed hx hxy
    exact ⟨_, ⟨0, fun b _ => rfl⟩, hs', fun p hp => hdone p (hp.imp_right And.right)⟩
  · rw [if_neg hdefined]
    refine ⟨s, Bounded.comes_pure, hs, fun p hp => hp.resolve_right fun hhere => ?_⟩
    obtain ⟨hcovers, hkeys⟩ := hhere
    obtain ⟨c, hc⟩ := hcovers.definedAt? hkeys
    exact hdefined (Option.isSome_of_eq_some hc)

/-- Settling a canonical document leaves its references, and restores the entries it comes by. -/
theorem settle_fares (hhost : d.Hosts u tree) (hnested : ∀ m < n, Settles d u tree heads m)
    (h : Stands d u tree base t x) (hxy : Dressed u x y) (hs : s.Settling d u tree heads n) :
    Fares d u tree .settle (Session.Settling d u tree heads n) (Restored u tree) base y t s := by
  refine fares hhost ?held ?plain h hxy hs
  case held =>
    intro x y t s h href hxy hs
    obtain ⟨c, p, hrefers, rfl⟩ := h.refers hhost href
    obtain ⟨s', ⟨b₀, hlocal⟩, hs', hdone⟩ := localize_comes hhost hnested hrefers hs y
    have hrefresh : refresh? base t = none := by
      have hnone := hrefers.cited.unnested [] hrefers.tag
      rw [List.append_nil, ← hrefers.current] at hnone
      rw [refresh?_eq h.machine h.url, hnone]
      rfl
    have hvisit : Comes (fun b => visit (scanFrom b) .settle base y t) s
        (.ok (.doneWith (refNode ("#" ++ p.text)))) s' := by
      refine ⟨b₀, fun b hb => ?_⟩
      have hread := reference?_of_cited (t := t) hhost hrefers.citable h.url hxy s.options
      show Ends (settle (scanFrom b) base y t) s _ s'
      unfold settle
      rw [ends_get_bind]
      simp only [hread, hrefers.treatment hs.alone.inlined]
      refine (ends_bind_of (hlocal b hb)).mpr (ends_pure.mpr ⟨?_, rfl⟩)
      exact congrArg (fun completion =>
        Except.ok ((Disposition.doneWith (refNode ("#" ++ p.text))).andThen completion)) hrefresh.symm
    exact fares_of_done hrefers.visited hvisit ⟨_, h.node, hxy⟩ ⟨_, h.node, .bare p⟩ hs'
      fun q hq => hdone q (hq.resolve_right hrefers.not_covers)
  case plain =>
    intro x y t s h hplain hsite hxy hs
    refine .inr ⟨refresh? base t, refresh?_finishes h, ⟨0, fun b _ => ?_⟩⟩
    show Ends (settle (scanFrom b) base y t) s _ s
    unfold settle
    rw [ends_get_bind]
    simp only [reference?_of_plain hplain]
    exact ends_pure.mpr ⟨rfl, rfl⟩

/-- However many entries are left, contents are settled. -/
theorem settles (hhost : d.Hosts u tree) (heads : List Head) (n : Nat) :
    Settles d u tree heads n := by
  induction n using Nat.strongRecOn with
  | ind n ih =>
  intro s id content start hs hc hstate
  obtain ⟨x, y, hx, hy, hxy⟩ := hs.alone.store.tree? hc
  have hstands := stands_start hs.alone hc hstate hx
  obtain ⟨y', s', hwalk, ⟨x', hx', hxy'⟩, hs', hdone⟩ := settle_fares hhost ih hstands hxy hs
  rw [hs.alone.dialect] at hdone hx'
  rw [place, show (Tracker.start d.machine start).path = [] from rfl, List.append_nil] at hx'
  exact ⟨y', s', scanFrom_comes hc hy hwalk (by rw [if_neg (by decide)]), ⟨x', hx', hxy'⟩, hs', hdone⟩

end Scan

end ApiBundle
