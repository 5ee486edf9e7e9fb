import ApiBundle.Proofs.Reference.Wearing
import ApiBundle.Proofs.Scan.Halting
import ApiBundle.Proofs.Scan.Loading

/-!
# Loading again

A tree is *sealed* at a state if every reference node that a walk from there comes across wears its
reference, component included, and none of them is to be replaced while loading. Loading seals tidy
trees as long as no target has lost its place (`Scan.sealed_of_node`), and a walk over a sealed tree
scans nothing and leaves every node as it is (`Scan.still_of_sealed`). So loading what was just
loaded gives the same tree, and leaves the store as it is (`Scan.reloaded`).

The conditions are needed. A reference whose target has lost its place is adorned and left alone,
and a later pass puts the target in place once the place is back. A `$ref` member that is a
reference node becomes a text when it is replaced, and only the next pass reads it.
-/

namespace ApiBundle

open Json

namespace Scan

open Scanning Session

variable {source : Source} {original : Reference → Option Json} {nested : NestedScan}
  {base : Reference} {m : Machine Component} {o : Options} {q : Option Nat} {x y : Json}
  {r : Reference} {t : Tracker Component} {s s' : Session}

/-- Every reference that a walk from a state comes across is worn, and its target stays away. -/
inductive Sealed (m : Machine Component) (o : Options) : Option Nat → Json → Prop where
  | worn {q : Option Nat} {x : Json} {r : Reference} (visited : siteAt m q ≠ .anonymous)
      (wears : Wears x r) (component : r.component = (siteAt m q).tag?)
      (stays : r.treatment o ≠ .inlineNonconforming)
      (below : r.treatment o = .merge → ∀ k ∈ x.kids, Sealed m o (q.bind (m.step · k.1)) k.2) :
      Sealed m o q x
  | plain {q : Option Nat} {x : Json} (unread : siteAt m q = .anonymous ∨ x.refText? = none)
      (below : ∀ k ∈ x.kids, Sealed m o (q.bind (m.step · k.1)) k.2) : Sealed m o q x

/-! ## Loading seals -/

/-- What a visit while loading comes to, if no target has lost its place. -/
inductive SealFollows (o : Options) (t : Tracker Component) (x : Json) : Json → Action → Prop where
  | plain (unread : x.refText? = none) : SealFollows o t x x .descend
  | worn {new : Json} {r : Reference} {action : Action} (wears : Wears new r)
      (component : r.component = t.site.tag?) (stays : r.treatment o ≠ .inlineNonconforming)
      (merges : action = if r.treatment o = .merge then .descend else .done) :
      SealFollows o t x new action

/-- A node that gives a reference back stands for it. -/
theorem reference?_of_reads {r : Reference} (h : Reference.ofNode? x = some r) :
    reference? o base x t = some (r.withComponent t.site.tag?) := by
  obtain ⟨text, _, _, htext, -⟩ := ofNode?_eq_some.mp h
  simp [reference?, htext, h]

/-- The reference that was written into a node is the one that is read back. -/
theorem seal_of_adorned {r r₀ r' : Reference} {d : Disposition Completion} {new : Json}
    {action : Action} (reads : ReadsBack new r₀)
    (hstays : (r₀.withComponent t.site.tag?).treatment o ≠ .inlineNonconforming)
    (href : reference? o base x t = some r) (hcomponent : r'.component = r.component)
    (hnew : d.replacement = some (adorned x r'))
    (haction : d.action = if r'.treatment o = .merge then .descend else .done)
    (hd : d.settle x = (new, action)) : SealFollows o t x new action := by
  obtain ⟨text, htext, -⟩ := Option.map_eq_some_iff.mp href
  have hsite := hcomponent.trans (component_of_reference? href)
  have hwears := wears_of_settle htext hnew hd
  obtain ⟨r₁, hr₁, herror, -⟩ := hwears.reads
  cases reads.ref.symm.trans hr₁
  refine .worn hwears hsite (fun htreat => hstays ?_) ?_
  · rw [← htreat]
    exact Reference.treatment_withComponent (by rw [herror]) hsite
  · rcases settle_cases hnew hd with ⟨-, rfl⟩ | ⟨-, -, rfl⟩
    · exact haction
    · rw [haction]
      split <;> simp

section Walks

variable (hsource : source.Supplies Tidy) (hnested : NestedTidy source original nested)
include hsource hnested

/-- A visit after which the walk does not come back to the node. -/
theorem seal_follows {d : Disposition Completion} {new : Json} {action : Action}
    (hx : x.Throughout Tidy) (hmachine : t.machine = s.dialect.machine)
    (hsite : t.site ≠ .anonymous) (hs : s.Tidied source original)
    (h : Ends (visit nested .load base x t) s (.ok d) s') (hd : d.settle x = (new, action))
    (hplaces : ∀ i, ¬s'.store.Behind original i) (hstop : action ≠ .revisit) :
    SealFollows s.options t x new action := by
  cases (clear_follows hsource hnested hx hmachine hsite hs h hd).2 with
  | plain unread => exact .plain unread
  | spliced => exact absurd rfl hstop
  | @held _ r₀ _ read tidy reads stays =>
    have hstays : (r₀.withComponent t.site.tag?).treatment s.options ≠ .inlineNonconforming :=
      fun htreat => hplaces _ (stays htreat).behind
    have spoilt {r : Reference} (e : ReferenceError) (href : reference? s.options base x t = some r)
        (hd : (Disposition.doneWith (adorned x (r.markInvalid e)) :
          Disposition Completion).settle x = (new, action)) :
        SealFollows s.options t x new action :=
      seal_of_adorned reads hstays href (rfl : (r.markInvalid e).component = r.component) rfl
        (by rw [Reference.treatment_markInvalid]; rfl) hd
    generalize hanswer : (Except.ok d : Except BundleError (Disposition Completion)) = answer at h
    cases load_ends hs.sound.wf h with
    | plain ref =>
      cases hanswer
      cases hd
      rw [reference?_of_reads reads.ref] at ref
      cases ref
    | lost ref treatment | merged ref treatment =>
      cases hanswer
      exact seal_of_adorned reads hstays ref rfl rfl (by rw [treatment]; rfl) hd
    | kept ref treatment =>
      cases hanswer
      exact seal_of_adorned reads hstays ref rfl rfl
        (by rcases treatment with h | h | h <;> rw [h] <;> rfl) hd
    | spliced ref treatment splice =>
      cases splice with
      | cycle active =>
        cases hanswer
        exact spoilt _ ref hd
      | missing free look =>
        cases hanswer
        cases look
        exact spoilt _ ref hd
      | failed free look scan => cases hanswer
      | gone free look scan =>
        cases hanswer
        exact seal_of_adorned reads hstays ref rfl rfl (by rw [treatment]; rfl) hd
      | spliced free look scan =>
        cases hanswer
        rcases settle_cases rfl hd with ⟨-, rfl⟩ | ⟨rfl, -, -⟩
        · exact absurd rfl hstop
        · -- the node that stays gives back a reference that is to be put in place
          rw [reference?_of_reads reads.ref] at ref
          cases ref
          exact absurd treatment hstays

/-- What the walk of a tidy node leaves, if no target has lost its place then. -/
def Seals (source : Source) (original : Reference → Option Json) (o : Options) (x : Json)
    (t : Tracker Component) (s : Session) (y : Json) (s' : Session) : Prop :=
  s.Tidied source original → x.Throughout Tidy → t.machine = s.dialect.machine → s.options = o →
    (∀ i, ¬s'.store.Behind original i) → Sealed t.machine o t.current y

theorem sealed_kids {bound : Nat} {kids : List (Segment × Json)} {ys : List Json}
    (ih : ∀ {x t s y s'}, Walk.node scope (visitor nested .load base) bound [] x t s =
      some ((y, none), s') → Seals source original o x t s y s')
    (h : Walk.Threaded (Walk.Gives (Walk.node scope (visitor nested .load base) bound [])) t kids s
      ys none s')
    (hs : s.Tidied source original) (hx : ∀ k ∈ kids, k.2.Throughout Tidy)
    (hmachine : t.machine = s.dialect.machine) (hoptions : s.options = o)
    (hplaces : ∀ i, ¬s'.store.Behind original i) :
    s.Evolves s' ∧ ∀ k ∈ kids.zip ys,
      Sealed t.machine o (t.move k.1.1).current k.2 ∧ Kept k.1.2 k.2 := by
  generalize he : (none : Option BundleError) = e at h
  induction h with
  | nil => exact ⟨.refl hs.sound.wf, nofun⟩
  | fail => cases he
  | @cons step x y rest s s₁ s' ys e head tail ihrest =>
    subst he
    have hx₀ : x.Throughout Tidy := hx _ (List.mem_cons_self ..)
    have head : Walk.node scope (visitor nested .load base) bound [] x (t.move step) s =
      some ((y, none), s₁) := head
    obtain ⟨hs₁, hev₁, hcleared⟩ :=
      cleared_of_node hsource hnested (t := t.move step) hs hx₀ hmachine head
    obtain ⟨hev', hrest⟩ := ihrest hs₁ (fun k hk => hx k (List.mem_cons_of_mem _ hk))
      (hev₁.dialect ▸ hmachine) (hev₁.options.trans hoptions) hplaces rfl
    refine ⟨hev₁.trans hev', fun k hk => ?_⟩
    rcases List.mem_cons.mp hk with rfl | hk
    · exact ⟨ih head hs hx₀ hmachine hoptions fun i hi => hplaces i (hi.extends hev'.store),
        (hcleared rfl).kept⟩
    · exact hrest k hk

omit hsource hnested in
theorem sealed_withKids {ys : List Json} (hlen : ys.length = x.kids.length)
    (h : ∀ k ∈ x.kids.zip ys, Sealed t.machine o (t.move k.1.1).current k.2 ∧ Kept k.1.2 k.2) :
    ∀ k ∈ (x.withKids ys).kids, Sealed t.machine o (t.current.bind (t.machine.step · k.1)) k.2 := by
  intro k hk
  rw [Kidwise.kids_withKids hlen] at hk
  obtain ⟨p, hp, rfl⟩ := List.mem_map.mp hk
  exact (h p hp).1

omit hsource hnested in
/-- A node that holds no reference, or is not visited, with its children sealed. -/
theorem sealed_of_kids {ys : List Json} (hx : x.Throughout Tidy) (hlen : ys.length = x.kids.length)
    (h : ∀ k ∈ x.kids.zip ys, Sealed t.machine o (t.move k.1.1).current k.2 ∧ Kept k.1.2 k.2)
    (hunread : t.site = .anonymous ∨ x.refText? = none) :
    Sealed t.machine o t.current (x.withKids ys) := by
  have hkept : Kept x (x.withKids ys) := .firm hlen fun k hk => (h k hk).2
  exact .plain (hunread.imp id (hkept.refText?_eq_none (literal_of_tidy hx)))
    (sealed_withKids hlen h)

/-- Loading seals a tidy tree; by induction on the bound of the walk. -/
theorem sealed_of_node {bound : Nat}
    (h : Walk.node scope (visitor nested .load base) bound [] x t s = some ((y, none), s')) :
    Seals source original o x t s y s' := by
  induction bound generalizing x t s y s' with
  | zero => cases h
  | succ bound ih =>
    intro hs hx hmachine hoptions hplaces
    have visited {answer : Except BundleError (Disposition Completion)} {s₁ : Session}
        (hv : Ends (visit nested .load base x t) s answer s₁) :
        s₁.Tidied source original ∧ s.Evolves s₁ :=
      ⟨(preserving_tidied hsource hnested).visit (fun _ _ => trivial) hs hv,
        evolves_of_visit hnested.evolves hs.sound.wf (tag_mem_components hmachine) hv⟩
    generalize he : (none : Option BundleError) = e at h
    cases Walk.goes_of_node h with
    | skip site offRoad =>
      rw [isOffRoad_of_passed site] at offRoad
      cases offRoad
    | pass site onRoad kids =>
      subst he
      obtain ⟨-, hkids⟩ := sealed_kids hsource hnested ih kids hs (fun k hk => hx.kid hk) hmachine
        hoptions hplaces
      exact sealed_of_kids hx kids.length_eq hkids (.inl (eligible_eq_false.mp site))
    | raise => cases he
    | broken => cases he
    | revisit site hv hd again =>
      subst he
      obtain ⟨hs₁, hev₁⟩ := visited hv
      obtain ⟨hnone, hfollows⟩ := clear_follows hsource hnested hx hmachine
        (eligible_iff.mp site) hs hv hd
      rw [hnone] at again
      cases hfollows with
      | held read tidy reads stays stop => exact absurd rfl stop
      | spliced read tidy =>
        exact ih again hs₁ tidy (hev₁.dialect ▸ hmachine) (hev₁.options.trans hoptions) hplaces
    | descend site hv hd kids last =>
      subst he
      obtain ⟨hs₁, hev₁⟩ := visited hv
      obtain ⟨hnone, hfollows⟩ := clear_follows hsource hnested hx hmachine
        (eligible_iff.mp site) hs hv hd
      rw [hnone] at last
      cases last
      have hnew := hfollows.tidy hx
      obtain ⟨hev', hkids⟩ := sealed_kids hsource hnested ih kids hs₁ (fun k hk => hnew.kid hk)
        (hev₁.dialect ▸ hmachine) (hev₁.options.trans hoptions) hplaces
      -- places that are lost stay lost, so that none was lost at the visit
      cases seal_follows hsource hnested hx hmachine (eligible_iff.mp site) hs hv hd
        (fun i hi => hplaces i (hi.extends hev'.store)) (by simp) with
      | plain unread => exact sealed_of_kids hx kids.length_eq hkids (.inr unread)
      | worn wears component stays =>
        exact .worn (eligible_iff.mp site) (wears.withKids (hnew.mono Tidy.distinct) kids.length_eq
          fun k hk => (hkids k hk).2) component (hoptions ▸ stays)
          fun _ => sealed_withKids kids.length_eq hkids
    | done site hv hd last =>
      subst he
      obtain ⟨hnone, -⟩ := clear_follows hsource hnested hx hmachine (eligible_iff.mp site) hs hv hd
      rw [hnone] at last
      cases last
      cases seal_follows hsource hnested hx hmachine (eligible_iff.mp site) hs hv hd hplaces
        (by simp) with
      | worn wears component stays merges =>
        refine .worn (eligible_iff.mp site) wears component (hoptions ▸ stays) fun htreat => ?_
        rw [← hoptions] at htreat
        simp [htreat] at merges

end Walks

/-! ## Sealed trees stay -/

theorem settle_of_sameValue {d : Disposition Completion} (hnew : d.replacement = some y)
    (hsame : y.sameValue x = true) (hstop : d.action ≠ .revisit) : d.settle x = (x, d.action) := by
  simp [Disposition.settle, hnew, hsame, hstop]

/-- A reference that is worn already: its node is left as it is, and nothing is looked up. -/
theorem visit_of_wears (hx : x.Throughout Distinct) (wears : Wears x r)
    (component : r.component = t.site.tag?) (stays : r.treatment s.options ≠ .inlineNonconforming) :
    ∃ d lost, (∀ nested, Ends (visit nested .load base x t) s (.ok d) { s with lost := lost }) ∧
      d.completion = none ∧
      d.settle x = (x, if r.treatment s.options = .merge then .descend else .done) := by
  obtain ⟨r', hr', herror, hworn⟩ := wears.reads
  have href : reference? s.options base x t = some (r'.withComponent t.site.tag?) :=
    reference?_of_reads hr'
  have htreat : (r'.withComponent t.site.tag?).treatment s.options = r.treatment s.options :=
    Reference.treatment_withComponent (by rw [herror]) component
  have hsame : (adorned x (r'.withComponent t.site.tag?)).sameValue x = true :=
    (component ▸ hworn wears).adorned_sameValue hx
  have hload (nested : NestedScan) : visit nested .load base x t = load nested base x t := rfl
  simp only [hload, load, ends_get_bind, href, htreat]
  cases htreatment : r.treatment s.options with
  | inlineNonconforming => exact absurd htreatment stays
  | error =>
    exact ⟨_, _, fun _ => ends_lose_bind.mpr (ends_pure.mpr ⟨rfl, rfl⟩), rfl,
      settle_of_sameValue rfl hsame (by simp [Disposition.doneWith])⟩
  | merge =>
    exact ⟨_, s.lost, fun _ => ends_pure.mpr ⟨rfl, rfl⟩, rfl,
      settle_of_sameValue rfl hsame (by simp [Disposition.descendInto])⟩
  | inlineConforming | localize | retain =>
    exact ⟨_, s.lost, fun _ => ends_pure.mpr ⟨rfl, rfl⟩, rfl,
      settle_of_sameValue rfl hsame (by simp [Disposition.doneWith])⟩

/-- A walk leaves a tree as it is, and notes at most what is invalid. -/
def Still (nested : Nat → NestedScan) (base : Reference) (x : Json) (t : Tracker Component)
    (s : Session) : Prop :=
  ∃ lost, Walk.Comes scope (fun b => visitor (nested b) .load base) [] x t s (x, none)
    { s with lost := lost }

theorem children_still {nested : Nat → NestedScan}
    (h : ∀ k ∈ x.kids, ∀ lost, Still nested base k.2 (t.move k.1) { s with lost := lost }) :
    ∃ lost, Walk.ChildrenCome scope (fun b => visitor (nested b) .load base) x t s (x, none)
      { s with lost := lost } := by
  obtain ⟨s', hkids, lost, rfl⟩ := Walk.Threaded.of_still
    (R := fun x t s y e s' => Walk.Comes scope (fun b => visitor (nested b) .load base) [] x t s
      (y, e) s') (I := fun s' => ∃ lost, s' = { s with lost := lost }) (t := t) x.kids
    (fun k hk s₁ ⟨lost₁, hs₁⟩ => by
      obtain ⟨lost, hcomes⟩ := h k hk lost₁
      exact ⟨_, hs₁ ▸ hcomes, lost, rfl⟩) ⟨s.lost, rfl⟩
  have hcome := Walk.Come.children hkids
  rw [withKids_self] at hcome
  exact ⟨lost, hcome⟩

theorem finish_still {nested : Nat → NestedScan} {d : Disposition Completion}
    (hnone : d.completion = none) : Bounded.Comes
      (fun b => Walk.finish (visitor (nested b) .load base) t (d.completion.toList ++ []) x) s
      (x, none) s := by
  rw [hnone]
  exact Bounded.comes_pure

/-- Loading leaves sealed trees as they are; by induction on the seal. -/
theorem still_of_sealed {nested : Nat → NestedScan} (h : Sealed m o q x)
    (hx : x.Throughout Distinct) (hmachine : t.machine = m) (hstate : t.current = q)
    (hoptions : s.options = o) : Still nested base x t s := by
  induction h generalizing t s with
  | @worn q x r visited wears component stays _ ih =>
    subst hmachine hstate hoptions
    obtain ⟨d, lost, hvisit, hnone, hsettle⟩ := visit_of_wears hx wears component stays
    have hsite : Walk.eligible scope t.site = true := eligible_iff.mpr visited
    have hv : Bounded.Comes (fun b => (visitor (nested b) .load base).visit x t) s (.ok d)
        { s with lost := lost } := ⟨0, fun b _ => hvisit (nested b)⟩
    by_cases hmerge : r.treatment s.options = .merge
    · rw [if_pos hmerge] at hsettle
      obtain ⟨lost', hkids⟩ := children_still (s := { s with lost := lost }) fun k hk _ =>
        ih hmerge k hk (t := t.move k.1) (hx.kid hk) rfl rfl rfl
      exact ⟨lost', Walk.comes_descend hsite hv hsettle hkids (finish_still hnone)⟩
    · rw [if_neg hmerge] at hsettle
      exact ⟨lost, Walk.comes_done hsite hv hsettle (finish_still hnone)⟩
  | @plain q x unread _ ih =>
    subst hmachine hstate hoptions
    obtain ⟨lost, hkids⟩ := children_still (s := s) fun k hk _ =>
      ih k hk (t := t.move k.1) (hx.kid hk) rfl rfl rfl
    by_cases hsite : t.site = .anonymous
    · have hpassed := eligible_eq_false.mpr hsite
      exact ⟨lost, Walk.comes_pass hpassed (isOffRoad_of_passed hpassed) hkids⟩
    · have hunread : reference? s.options base x t = none := by
        simp [reference?, unread.resolve_left hsite]
      have hvisit (b : Nat) : Ends (visit (nested b) .load base x t) s (.ok .descend) s := by
        show Ends (load (nested b) base x t) s _ _
        simp [load, hunread]
      exact ⟨lost, Walk.comes_descend (eligible_iff.mpr hsite) ⟨0, fun b _ => hvisit b⟩ rfl hkids
        (finish_still rfl)⟩

/--
Loading a content that was just loaded gives the same tree and leaves the store as it is, if the
documents are tidy and no target has lost its place.
-/
theorem reloaded {bound : Nat} {id : ContentId} {start : Option Nat} {tree : Json}
    (hsource : source.Supplies Literal) (hs : s.Tidied source original)
    (h : Ends (scanFrom bound id .load start) s (.ok (some tree)) s')
    (hplaces : ∀ i, ¬s'.store.Behind original i) :
    ∃ lost, Comes (fun b => scanFrom b id .load start) s' (.ok (some tree))
      { s' with lost := lost } := by
  cases bound with
  | zero => cases h
  | succ bound =>
    have hnested : NestedTidy source original (scanFrom bound) :=
      tidy_scanFrom (Source.supplies_tidy hsource) bound
    generalize hresult : (Except.ok (some tree) : Except BundleError (Option Json)) = result at h
    cases scanFrom_ends h with
    | empty | failed | unwritten => cases hresult
    | read content held other walk => exact absurd rfl other
    | @written c x y s₁ store content held load walk write =>
      cases hresult
      obtain ⟨hs₁, hev, hcleared⟩ := cleared_of_node (Source.supplies_tidy hsource) hnested
        (t := .start s.dialect.machine start) hs (hs.tidy.tree held) rfl walk
      have hw := writes_of_scan held hev tree
      rw [write] at hw
      obtain ⟨hwf, hext⟩ := hw.wf hs₁.sound.wf
      have hsealed := sealed_of_node (Source.supplies_tidy hsource) hnested walk hs
        (hs.tidy.tree held) rfl rfl fun i hi => hplaces i (hi.extends hext)
      -- the same content is read again, with the tree that was written
      have hread : store.tree? id = some tree := Store.tree?_of_writes hw
      obtain ⟨c', hc', -⟩ := content?_of_tree? hread
      obtain ⟨lost, hstill⟩ : Still scanFrom c'.reference tree
          (.start (s₁.withStore store).dialect.machine start) (s₁.withStore store) :=
        still_of_sealed hsealed ((hcleared rfl).tidy.mono Tidy.distinct)
          (by rw [← hev.dialect]; rfl) rfl hev.options
      refine ⟨lost, scanFrom_comes hc' hread hstill ?_⟩
      rw [if_pos rfl]
      exact ⟨store, Store.write_self hread, rfl⟩

end Scan

namespace Scan.Twice

open Scanning Hop

/-- A document with a reference whose target takes its place, and one that stays. -/
def homeTree : Json :=
  .object [("swagger", .string "2.0"), ("x-a", .object [("$ref", .string "#/x-b")]),
    ("x-b", .object [("k", .string "v")]),
    ("definitions", .object [("B", .object []),
      ("A", .object [("items", .object [("$ref", .string "#/definitions/B")])])])]

def original (r : Reference) : Option Json :=
  if r.id = (Reference.forDocument home).id then some homeTree else none

def taken : Session :=
  (Session.start .swagger2 .default nothing).withStore
    (Store.empty.add ⟨Reference.forDocument home, .document homeTree, some Dialect.swagger2.model⟩)

set_option maxRecDepth 10000

theorem ends_taken : ∃ tree s, Ends (scanFrom 10 0 .load (some Dialect.swagger2.model)) taken
    (.ok (some tree)) s ∧ tree.follow? [.key "x-a"] = some (.object [("k", .string "v")]) ∧
      s.store.contents.map (fun c => c.reference.pointer.tokens) = [[], ["x-b"]] := by
  have h : ((scanFrom 10 0 .load (some Dialect.swagger2.model)).run.run taken).bind
      (fun p => p.1.toOption.join.map fun tree => (tree.follow? [.key "x-a"],
        p.2.store.contents.map fun c => c.reference.pointer.tokens)) =
      some (some (.object [("k", .string "v")]), [[], ["x-b"]]) := by decide +kernel
  obtain ⟨⟨result, s⟩, hends, hresult⟩ := Option.bind_eq_some_iff.mp h
  obtain ⟨tree, htree, hrest⟩ := Option.map_eq_some_iff.mp hresult
  have hresult : result = .ok (some tree) := ok_of_toOption (Option.join_eq_some_iff.mp htree)
  subst hresult
  exact ⟨tree, s, hends, congrArg Prod.fst hrest, congrArg Prod.snd hrest⟩

theorem placed_of_tokens {s : Session}
    (h : s.store.contents.map (fun c => c.reference.pointer.tokens) = [[], ["x-b"]]) (i : RefId) :
    ¬s.store.Behind original i := by
  rintro ⟨id, c, d, o, t, hc, -, -, -, ht, hpasses⟩
  have hliteral : homeTree.Throughout Literal := by decide
  have hstraight : ∀ tokens ∈ [[], ["x-b"]], homeTree.passesRef tokens = false := by
    decide
  have hmem : c.reference.pointer.tokens ∈ [[], ["x-b"]] :=
    h ▸ List.mem_map_of_mem (List.mem_of_getElem? hc)
  unfold original at ht
  split at ht
  · cases ht
    exact not_passesVolatile hliteral (hstraight _ hmem) hpasses
  · cases ht

end Scan.Twice

namespace Scan

open Hop Scanning

theorem reloaded_splice : ∃ tree s',
    nothing.Supplies Literal ∧ Twice.taken.Tidied nothing Twice.original ∧
      Ends (scanFrom 10 0 .load (some Dialect.swagger2.model)) Twice.taken (.ok (some tree)) s' ∧
      (∀ i, ¬s'.store.Behind Twice.original i) ∧
      tree.follow? [.key "x-a"] = some (.object [("k", .string "v")]) ∧
      ∃ lost, Comes (fun b => scanFrom b 0 .load (some Dialect.swagger2.model)) s'
        (.ok (some tree)) { s' with lost := lost } := by
  obtain ⟨tree, s', hends, hspliced, htokens⟩ := Twice.ends_taken
  have hsource : nothing.Supplies Literal := fun hread => absurd hread not_retrieved
  have htidied : Twice.taken.Tidied nothing Twice.original :=
    tidied_of_document (by decide) (by decide) (by decide)
  exact ⟨tree, s', hsource, htidied, hends, Twice.placed_of_tokens htokens, hspliced,
    reloaded hsource htidied hends (Twice.placed_of_tokens htokens)⟩

end Scan

end ApiBundle
