import ApiBundle.Proofs.Reference.Adornment
import ApiBundle.Proofs.Scan.Failure
import ApiBundle.Proofs.Scan.Preservation
import ApiBundle.Proofs.Store.Trees

/-!
# What loading leaves behind

After a content was loaded from a state, every reference node that its walk came across gives its
reference back, and no valid one stands where the dialect knows no references (`Scan.Handled`).
There is one excuse: a target that was looked up before and has lost its place since, which takes a
pointer that passes a volatile node (`Session.Excused`). Hops are not visited, so nothing is said
of the nodes there; what lies below them is walked like all else.

The documents have to be tidy. A `$ref` member that is a reference node itself may become a text
once it is replaced, and then its node is a reference that nobody has visited.
-/

namespace ApiBundle

open Json

namespace Reference

variable {r r' : Reference} {o : Options}

theorem treatment_withComponent (herror : r'.error = none ↔ r.error = none)
    {c : Option Component} (hcomponent : r.component = c) :
    (r'.withComponent c).treatment o = r.treatment o :=
  treatment_congr herror hcomponent.symm

theorem treatment_markInvalid (r : Reference) (e : ReferenceError) :
    (r.markInvalid e).treatment o = .error := by
  unfold treatment isValid
  cases hr : (r.markInvalid e).error with
  | none =>
    have hsome := Store.markInvalid_isSome r e
    rw [hr] at hsome
    cases hsome
  | some e => rfl

end Reference

namespace Scan

variable {m : Machine Component} {o : Options} {q : Option Nat} {x y node : Json}

/-- The kind of place that a walk is at in a state. -/
def siteAt (m : Machine Component) (q : Option Nat) : Site Component := (Tracker.start m q).site

theorem site_eq (t : Tracker Component) : t.site = siteAt t.machine t.current := rfl

theorem eligible_iff {site : Site Component} :
    Walk.eligible scope site = true ↔ site ≠ .anonymous := by
  cases site <;> simp [Walk.eligible, scope]

theorem eligible_eq_false {site : Site Component} :
    Walk.eligible scope site = false ↔ site = .anonymous := by
  cases site <;> simp [Walk.eligible, scope]

/--
Every reference that a walk from a state comes across is read back, and its target is not to take
its place while loading, unless there is an excuse.
-/
inductive Handled (m : Machine Component) (o : Options) (excused : Reference → Prop) :
    Option Nat → Json → Prop where
  | held {q : Option Nat} {x : Json} {r : Reference} (visited : siteAt m q ≠ .anonymous)
      (reads : ReadsBack x r)
      (stays : (r.withComponent (siteAt m q).tag?).treatment o = .inlineNonconforming →
        excused r) : Handled m o excused q x
  | plain {q : Option Nat} {x : Json} (unread : siteAt m q = .anonymous ∨ x.refText? = none)
      (below : ∀ k ∈ x.kids, Handled m o excused (q.bind (m.step · k.1)) k.2) :
      Handled m o excused q x

theorem Handled.mono {excused excused' : Reference → Prop} (h : Handled m o excused q x)
    (himp : ∀ r, excused r → excused' r) : Handled m o excused' q x := by
  induction h with
  | held visited reads stays => exact .held visited reads fun htreat => himp _ (stays htreat)
  | plain unread _ ih => exact .plain unread ih

/-- A path that passes no reference node but at hops leads to nodes that are handled. -/
theorem Handled.follow {excused : Reference → Prop} {path : List Segment}
    (h : Handled m o excused q x) (hy : x.follow? path = some y)
    (outer : ∀ front segment rest z, path = front ++ segment :: rest → x.follow? front = some z →
      z.refText? = none ∨ siteAt m (m.run q front) = .anonymous) :
    Handled m o excused (m.run q path) y := by
  induction path generalizing q x with
  | nil =>
    cases hy
    exact h
  | cons segment rest ih =>
    obtain ⟨child, hchild, hrest⟩ := Option.bind_eq_some_iff.mp hy
    have hbelow : Handled m o excused (q.bind (m.step · segment)) child := by
      cases h with
      | plain unread below => exact below _ (mem_kids_of_step? hchild)
      | held visited reads stays =>
        -- such a node is a reference node at a site that is visited
        obtain ⟨text, _, _, htext, -⟩ := ofNode?_eq_some.mp reads.ref
        rcases outer [] segment rest x rfl rfl with hnone | hsite
        · rw [htext] at hnone
          cases hnone
        · exact absurd hsite visited
    refine ih hbelow hrest fun front segment' rest' z hpath hz => ?_
    refine outer (segment :: front) segment' rest' z (by rw [hpath]; rfl) ?_
    exact Option.bind_eq_some_iff.mpr ⟨child, hchild, hz⟩

end Scan

namespace Session

variable {source : Source} {original : Reference → Option Json} {s s' : Session} {r : Reference}

/-- What a reference leads to has lost its place, and nobody is resolving it. -/
structure Excused (original : Reference → Option Json) (s : Session) (r : Reference) : Prop where
  idle : s.isActive r = false
  behind : s.store.Behind original r.id

theorem Excused.evolves (h : s.Excused original r) (hev : s.Evolves s') :
    s'.Excused original r :=
  ⟨(hev.isActive r).trans h.idle, h.behind.extends hev.store⟩

/-- Between two steps of a run on tidy documents. -/
structure Tidied (source : Source) (original : Reference → Option Json) (s : Session) : Prop where
  sound : s.Sound source original
  tidy : s.store.Throughout Tidy

theorem Tidied.alike (h : s.Tidied source original) (hsame : s.Alike s') :
    s'.Tidied source original := by
  refine ⟨⟨?_, hsame.source.trans h.sound.reads, ?_⟩, ?_⟩
  · rw [hsame.store]
    exact h.sound.wf
  · rw [hsame.store]
    exact h.sound.faithful
  · rw [hsame.store]
    exact h.tidy

end Session

namespace Scan

open Scanning Session

variable {source : Source} {original : Reference → Option Json} {nested : NestedScan}
  {base : Reference} {x node : Json} {r r' : Reference} {t : Tracker Component}
  {state : Option Nat} {s s' : Session}

/-- Every scan of a kind keeps the documents tidy, and what it gives as loaded is handled. -/
structure NestedTidy (source : Source) (original : Reference → Option Json)
    (nested : NestedScan) : Prop where
  evolves : NestedEvolves nested
  tidied : ∀ {id phase start s result s'}, s.Tidied source original →
    Ends (nested id phase start) s result s' → s'.Tidied source original
  handled : ∀ {id start s y s'}, s.Tidied source original →
    Ends (nested id .load start) s (.ok (some y)) s' → y.Throughout Tidy ∧
      Handled s.dialect.machine s.options (s'.Excused original) start y
  gone : ∀ {id phase start s s'}, Ends (nested id phase start) s (.ok none) s' →
    s.store.tree? id = none ∧ s' = s

theorem preserving_tidied (hsource : source.Supplies Tidy)
    (hnested : NestedTidy source original nested) :
    Preserving (fun _ => True) (Session.Tidied source original) nested where
  wf := fun hs => hs.sound.wf
  alike := fun hsame hs => hs.alike hsame
  nested := fun hs => hnested.tidied hs
  loads := fun {r start target s s'} _ hs h => by
    have hsound := sound_of_loads hs.sound h
    have hsupplies : s.source.Supplies Tidy := hs.sound.reads ▸ hsource
    refine ⟨hsound, ?_⟩
    cases h with
    | found look grows => exact hs.tidy.grows hsupplies grows
    | lost look grows => exact ⟨(hs.tidy.grows hsupplies grows).document⟩

/-- Adorning a node keeps it tidy. -/
theorem tidy_adorned (h : x.Throughout Tidy) {text : String} (hx : x.refText? = some text)
    (r : Reference) : (adorned x r).Throughout Tidy := by
  have href := refText?_adorned hx r
  refine .mk ⟨?_, fun y hy => ?_⟩ fun k hk => ?_
  · obtain ⟨ms, rfl, -⟩ := object_of_refText? hx
    intro ms' heq
    rw [adorned_object] at heq
    cases heq
    exact OrderedMap.nodup_keys_put (OrderedMap.nodup_keys_put (h.here.distinct ms rfl) _ _) _ _
  · rw [refText?_of_member?.mp href] at hy
    cases hy
    rfl
  · rcases mem_kids_adorned hx hk with hk | rfl | rfl
    · exact h.kid hk
    · exact tidy_of_plain (plain_string _)
    · exact tidy_of_plain (plain_adornment r)

/-- What can follow the visit of a node while loading. -/
inductive ClearFollows (o : Options) (excused : Reference → Prop) (t : Tracker Component)
    (x : Json) : Json → Action → Prop where
  | plain (unread : x.refText? = none) : ClearFollows o excused t x x .descend
  | held {new : Json} {r : Reference} {action : Action} (read : Volatile x)
      (tidy : new.Throughout Tidy) (reads : ReadsBack new r)
      (stays : (r.withComponent t.site.tag?).treatment o = .inlineNonconforming → excused r)
      (stop : action ≠ .revisit) : ClearFollows o excused t x new action
  | spliced {new : Json} (read : Volatile x) (tidy : new.Throughout Tidy) :
      ClearFollows o excused t x new .revisit

theorem ClearFollows.tidy {o : Options} {excused : Reference → Prop} {new : Json} {action : Action}
    (h : ClearFollows o excused t x new action) (hx : x.Throughout Tidy) :
    new.Throughout Tidy := by
  cases h with
  | plain => exact hx
  | held read tidy | spliced read tidy => exact tidy

/-- The node that a walk goes on with after it was adorned reads back as what it was given. -/
theorem reads_adorned (hx : x.Throughout Tidy) {text : String} (htext : x.refText? = some text)
    (hcomponent : r.component = t.site.tag?) {o : Options} {excused : Reference → Prop}
    (hexcused : ∀ r', r'.id = r.id → r.treatment o = .inlineNonconforming → excused r')
    {d : Disposition Completion} {new : Json} {action : Action}
    (hnew : d.replacement = some (adorned x r)) (haction : d.action ≠ .revisit)
    (hd : d.settle x = (new, action)) : ClearFollows o excused t x new action := by
  have hread : Volatile x := volatile_of_refText? (by rw [htext]; rfl)
  have hadorned := tidy_adorned hx htext r
  have hholds := (holds_adorned htext r).readsBack
  have stays {r' : Reference} (hid : r'.id = r.id) (herror : r'.error = none ↔ r.error = none)
      (htreat : (r'.withComponent t.site.tag?).treatment o = .inlineNonconforming) :
      excused r' :=
    hexcused r' hid ((Reference.treatment_withComponent herror hcomponent).symm.trans htreat)
  rcases settle_cases hnew hd with ⟨rfl, rfl⟩ | ⟨rfl, hsame, rfl⟩
  · exact .held hread hadorned hholds (stays rfl Reference.error_kept) haction
  · obtain ⟨r', hreads, hid, herror⟩ := hholds.of_sameValue (hadorned.mono Tidy.distinct)
      (hx.mono Tidy.distinct) hsame
    refine .held hread hx hreads (stays hid (herror.trans Reference.error_kept)) ?_
    rwa [if_neg haction]

/-- A tree that is handled does not have the value of a node that is to be put in place. -/
theorem not_sameValue_of_handled {o : Options} {excused : Reference → Prop} {a : Json}
    (hx : x.Throughout Tidy) (href : reference? o base x t = some r)
    (htreat : r.treatment o = .inlineNonconforming) (hsite : t.site ≠ .anonymous)
    (ha : a.Throughout Tidy) (hhandled : Handled t.machine o excused t.current a)
    (hother : ∀ r', excused r' → r'.id ≠ r.id) : ¬a.sameValue x = true := by
  intro hsame
  obtain ⟨text, htext, hr⟩ := Option.map_eq_some_iff.mp href
  have hatext := refText?_of_sameValue hsame ha.here.distinct htext
  cases hhandled with
  | plain unread =>
    rcases unread with hanonymous | hnone
    · exact hsite hanonymous
    · rw [hatext] at hnone
      cases hnone
  | @held _ _ r₂ visited reads stays =>
    obtain ⟨r₃, hreads, hid, herror⟩ := reads.of_sameValue (ha.mono Tidy.distinct)
      (hx.mono Tidy.distinct) hsame
    rw [hreads.ref] at hr
    subst hr
    have heq : (r₂.withComponent t.site.tag?).treatment o =
        (r₃.withComponent t.site.tag?).treatment o :=
      Reference.treatment_congr herror.symm rfl
    exact hother r₂ (stays (heq.trans htreat)) hid.symm

section Walks

variable (hsource : source.Supplies Tidy) (hnested : NestedTidy source original nested)
include hsource hnested

theorem clear_follows {d : Disposition Completion} {new : Json} {action : Action}
    (hx : x.Throughout Tidy) (hmachine : t.machine = s.dialect.machine)
    (hsite : t.site ≠ .anonymous) (hs : s.Tidied source original)
    (h : Ends (visit nested .load base x t) s (.ok d) s') (hd : d.settle x = (new, action)) :
    d.completion = none ∧ ClearFollows s.options (s'.Excused original) t x new action := by
  have read {r : Reference} (href : reference? s.options base x t = some r) :
      ∃ text, x.refText? = some text := by
    obtain ⟨text, htext, -⟩ := Option.map_eq_some_iff.mp href
    exact ⟨text, htext⟩
  -- a node that is adorned with a reference that is none to be put in place
  have adorning {r r' : Reference} {d : Disposition Completion} {s' : Session}
      (href : reference? s.options base x t = some r) (hcomponent : r'.component = r.component)
      (hnew : d.replacement = some (adorned x r')) (haction : d.action ≠ .revisit)
      (htreat : r'.treatment s.options ≠ .inlineNonconforming)
      (hd : d.settle x = (new, action)) :
      ClearFollows s.options (s'.Excused original) t x new action := by
    obtain ⟨text, htext⟩ := read href
    exact reads_adorned hx htext (hcomponent.trans (component_of_reference? href))
      (fun _ _ h => absurd h htreat) hnew haction hd
  have spoilt {r : Reference} {s' : Session} (e : ReferenceError)
      (href : reference? s.options base x t = some r)
      (hd : (Disposition.doneWith (adorned x (r.markInvalid e)) : Disposition Completion).settle x =
        (new, action)) : ClearFollows s.options (s'.Excused original) t x new action := by
    have htreat : (r.markInvalid e).treatment s.options ≠ .inlineNonconforming := by
      rw [Reference.treatment_markInvalid]
      intro h
      cases h
    have hcomponent : (r.markInvalid e).component = r.component := rfl
    exact adorning (d := .doneWith _) href hcomponent rfl (fun h => by cases h) htreat hd
  generalize hanswer : (Except.ok d : Except BundleError (Disposition Completion)) = answer at h
  cases load_ends hs.sound.wf h with
  | plain ref =>
    cases hanswer
    cases hd
    refine ⟨rfl, .plain ?_⟩
    cases htext : x.refText? with
    | none => rfl
    | some text => simp [reference?, htext] at ref
  | lost ref treatment =>
    cases hanswer
    exact ⟨rfl, adorning (d := .doneWith _) ref rfl rfl (fun h => by cases h)
      (by rw [treatment]; intro h; cases h) hd⟩
  | merged ref treatment =>
    cases hanswer
    exact ⟨rfl, adorning (d := .descendInto _) ref rfl rfl (fun h => by cases h)
      (by rw [treatment]; intro h; cases h) hd⟩
  | kept ref treatment =>
    cases hanswer
    refine ⟨rfl, adorning (d := .doneWith _) ref rfl rfl (fun h => by cases h) ?_ hd⟩
    rcases treatment with treatment | treatment | treatment <;>
      (rw [treatment]; intro h; cases h)
  | @spliced r answer s'' ref treatment splice =>
    obtain ⟨text, htext⟩ := read ref
    cases splice with
    | cycle active =>
      cases hanswer
      exact ⟨rfl, spoilt _ ref hd⟩
    | missing free look =>
      cases hanswer
      cases look
      exact ⟨rfl, spoilt _ ref hd⟩
    | failed free look scan => cases hanswer
    | @gone id s₁ s₂ free look scan =>
      cases hanswer
      obtain ⟨s₃, hends, rfl⟩ := scan
      obtain ⟨hnone, rfl⟩ := hnested.gone hends
      have hs₁ := (preserving_tidied hsource hnested).loads trivial hs look
      have hfree := (isActive_of_loads look r).trans free
      cases look with
      | @found _ c store look' grows content same valid body =>
        have hbehind := hs₁.sound.faithful.behind hs₁.sound.wf content body hnone
        rw [same] at hbehind
        refine ⟨rfl, reads_adorned hx htext (component_of_reference? ref)
          (fun r' hid _ => ⟨?_, ?_⟩) (d := .doneWith _) rfl (fun h => by cases h) hd⟩
        · unfold Session.isActive Session.leave
          rw [leave_enter hfree, hid]
          exact hfree
        · rw [hid]
          exact hbehind
    | @spliced id s₁ s₂ tree free look scan =>
      cases hanswer
      obtain ⟨s₃, hends, rfl⟩ := scan
      have hs₁ := (preserving_tidied hsource hnested).loads trivial hs look
      have hev₁ := evolves_of_loads hs.sound.wf look
      have henter : (s₁.enter r).Tidied source original := hs₁.alike ⟨rfl, rfl, rfl, rfl⟩
      obtain ⟨htidy, hhandled⟩ := hnested.handled henter hends
      have hev₃ := hnested.evolves hends henter.sound.wf
      rcases settle_cases rfl hd with ⟨rfl, rfl⟩ | ⟨-, hsame, -⟩
      · exact ⟨rfl, .spliced (volatile_of_refText? (by rw [htext]; rfl)) htidy⟩
      · have hdialect : (s₁.enter r).dialect = s.dialect := hev₁.dialect
        have hoptions : (s₁.enter r).options = s.options := hev₁.options
        rw [hdialect, hoptions, ← hmachine] at hhandled
        refine absurd hsame (not_sameValue_of_handled hx ref treatment hsite htidy hhandled
          fun r' hexcused hid => ?_)
        -- the nested scan ran while the reference was being resolved
        have hidle := hexcused.idle
        rw [hev₃.isActive] at hidle
        simp [Session.isActive, Session.enter, VisitSet.isActive, hid] at hidle

/-- What loading makes of a tidy node. -/
structure Cleared (original : Reference → Option Json) (o : Options) (t : Tracker Component)
    (s' : Session) (x y : Json) : Prop where
  tidy : y.Throughout Tidy
  handled : Handled t.machine o (s'.Excused original) t.current y
  kept : Kept x y

/-- What loading makes of the nodes of a walk, and of the state. -/
def ClearWalk (source : Source) (original : Reference → Option Json) (o : Options) (x : Json)
    (t : Tracker Component) (s : Session) (y : Json) (e : Option BundleError) (s' : Session) :
    Prop :=
  s.Tidied source original → x.Throughout Tidy → t.machine = s.dialect.machine → s.options = o →
    s'.Tidied source original ∧ s.Evolves s' ∧ (e = none → Cleared original o t s' x y)

omit hsource hnested in
theorem cleared_kids {o : Options} {kids : List (Segment × Json)} {ys : List Json}
    {e : Option BundleError}
    (h : Walk.Threaded (ClearWalk source original o) t kids s ys e s')
    (hs : s.Tidied source original) (hx : ∀ k ∈ kids, k.2.Throughout Tidy)
    (hmachine : t.machine = s.dialect.machine) (hoptions : s.options = o) :
    s'.Tidied source original ∧ s.Evolves s' ∧
      (e = none → ∀ k ∈ kids.zip ys, Cleared original o (t.move k.1.1) s' k.1.2 k.2) := by
  induction h with
  | nil => exact ⟨hs, .refl hs.sound.wf, fun _ k hk => by cases hk⟩
  | fail head =>
    obtain ⟨hs', hev, -⟩ := head hs (hx _ (List.mem_cons_self ..)) hmachine hoptions
    exact ⟨hs', hev, fun he => by cases he⟩
  | cons head _ ih =>
    obtain ⟨hs₁, hev₁, hhead⟩ := head hs (hx _ (List.mem_cons_self ..)) hmachine hoptions
    obtain ⟨hs', hev', hrest⟩ := ih hs₁ (fun k hk => hx k (List.mem_cons_of_mem _ hk))
      (hev₁.dialect ▸ hmachine) (hev₁.options.trans hoptions)
    refine ⟨hs', hev₁.trans hev', fun he k hk => ?_⟩
    rcases List.mem_cons.mp hk with rfl | hk
    · have hcleared := hhead rfl
      exact ⟨hcleared.tidy, hcleared.handled.mono fun r hr => hr.evolves hev', hcleared.kept⟩
    · exact hrest he k hk

omit hsource hnested in
theorem kept_of_cleared {o : Options} {ys : List Json}
    (h : ∀ k ∈ x.kids.zip ys, Cleared original o (t.move k.1.1) s' k.1.2 k.2) :
    ∀ k ∈ x.kids.zip ys, Kept k.1.2 k.2 ∧ k.2.Throughout Tidy :=
  fun k hk => ⟨(h k hk).kept, (h k hk).tidy⟩

omit hsource hnested in
/-- A node that holds no reference, or is not visited, with its children cleared. -/
theorem cleared_of_kids {o : Options} {ys : List Json} (hx : x.Throughout Tidy)
    (hlen : ys.length = x.kids.length)
    (h : ∀ k ∈ x.kids.zip ys, Cleared original o (t.move k.1.1) s' k.1.2 k.2)
    (hunread : t.site = .anonymous ∨ x.refText? = none) :
    Cleared original o t s' x (x.withKids ys) := by
  have hkept : Kept x (x.withKids ys) := .firm hlen fun k hk => (h k hk).kept
  refine ⟨tidy_withKids hx hlen (kept_of_cleared h), .plain ?_ fun k hk => ?_, hkept⟩
  · exact hunread.imp id (hkept.refText?_eq_none (literal_of_tidy hx))
  · rw [Kidwise.kids_withKids hlen] at hk
    obtain ⟨p, hp, rfl⟩ := List.mem_map.mp hk
    exact (h p hp).handled

/-- Loading a tidy tree clears it. -/
theorem cleared_of_node {bound : Nat} {y : Json} {e : Option BundleError}
    (hs : s.Tidied source original) (hx : x.Throughout Tidy)
    (hmachine : t.machine = s.dialect.machine)
    (h : Walk.node scope (visitor nested .load base) bound [] x t s = some ((y, e), s')) :
    s'.Tidied source original ∧ s.Evolves s' ∧
      (e = none → Cleared original s.options t s' x y) := by
  have visited {x : Json} {t : Tracker Component} {s s' : Session}
      {answer : Except BundleError (Disposition Completion)} (hs : s.Tidied source original)
      (hmachine : t.machine = s.dialect.machine)
      (hv : Ends (visit nested .load base x t) s answer s') :
      s'.Tidied source original ∧ s.Evolves s' :=
    ⟨(preserving_tidied hsource hnested).visit (fun _ _ => trivial) hs hv,
      evolves_of_visit hnested.evolves hs.sound.wf (tag_mem_components hmachine) hv⟩
  refine Walk.node_induction (motive := fun pending x t s' y e s'' => pending = [] →
      ClearWalk source original s.options x t s' y e s'')
    ?skip ?pass ?raise ?revisit ?broken ?descend ?done h rfl hs hx hmachine rfl
  case skip =>
    intro _ x t s hsite hoff _ hs hx hmachine _
    rw [isOffRoad_of_passed hsite] at hoff
    cases hoff
  case pass =>
    intro _ x t s ys e s' hsite _ hkids _ hs hx hmachine hoptions
    obtain ⟨hs', hev, hcleared⟩ := cleared_kids (hkids.mono fun h => h rfl) hs
      (fun k hk => hx.kid hk) hmachine hoptions
    exact ⟨hs', hev, fun he => cleared_of_kids hx hkids.length_eq (hcleared he)
      (.inl (eligible_eq_false.mp hsite))⟩
  case raise =>
    intro _ x t s e s' _ hv _ hs hx hmachine _
    obtain ⟨hs', hev⟩ := visited hs hmachine hv
    exact ⟨hs', hev, fun he => by cases he⟩
  case revisit =>
    intro _ x t s d s₁ new y e s' hsite hv hd ih hpending hs hx hmachine hoptions
    obtain ⟨hs₁, hev₁⟩ := visited hs hmachine hv
    obtain ⟨hnone, hfollows⟩ := clear_follows hsource hnested hx hmachine
      (eligible_iff.mp hsite) hs hv hd
    cases hfollows with
    | held read tidy reads stays stop => exact absurd rfl stop
    | spliced read tidy =>
      obtain ⟨hs', hev', hcleared⟩ := ih (by rw [hnone, hpending]; rfl) hs₁ tidy
        (hev₁.dialect ▸ hmachine) (hev₁.options.trans hoptions)
      exact ⟨hs', hev₁.trans hev', fun he => ⟨(hcleared he).tidy, (hcleared he).handled,
        .volatile read⟩⟩
  case broken =>
    intro _ x t s d s₁ new ys e s' hsite hv hd hkids _ hs hx hmachine hoptions
    obtain ⟨hs₁, hev₁⟩ := visited hs hmachine hv
    obtain ⟨-, hfollows⟩ := clear_follows hsource hnested hx hmachine
      (eligible_iff.mp hsite) hs hv hd
    have hnew := hfollows.tidy hx
    obtain ⟨hs', hev', -⟩ := cleared_kids (hkids.mono fun h => h rfl) hs₁
      (fun k hk => hnew.kid hk) (hev₁.dialect ▸ hmachine) (hev₁.options.trans hoptions)
    exact ⟨hs', hev₁.trans hev', fun he => by cases he⟩
  case descend =>
    intro _ x t s d s₁ new ys s₂ y e s' hsite hv hd hkids hfinish hpending hs hx hmachine hoptions
    obtain ⟨hs₁, hev₁⟩ := visited hs hmachine hv
    have hlen := hkids.length_eq
    obtain ⟨hnone, hfollows⟩ := clear_follows hsource hnested hx hmachine
      (eligible_iff.mp hsite) hs hv hd
    rw [hnone, hpending] at hfinish
    cases hfinish
    have hnew := hfollows.tidy hx
    obtain ⟨hs', hev', hcleared⟩ := cleared_kids (hkids.mono fun h => h rfl) hs₁
      (fun k hk => hnew.kid hk) (hev₁.dialect ▸ hmachine) (hev₁.options.trans hoptions)
    refine ⟨hs', hev₁.trans hev', fun _ => ?_⟩
    cases hfollows with
    | plain unread => exact cleared_of_kids hx hlen (hcleared rfl) (.inr unread)
    | held read tidy reads stays stop =>
      have hbelow := kept_of_cleared (hcleared rfl)
      refine ⟨tidy_withKids tidy hlen hbelow, ?_, .volatile read⟩
      refine .held (eligible_iff.mp hsite) (reads.withKids hlen fun k hk => (hbelow k hk).1)
        fun htreat => ?_
      rw [← hoptions] at htreat
      exact (stays htreat).evolves hev'
  case done =>
    intro _ x t s d s₁ new y e s' hsite hv hd hfinish hpending hs hx hmachine hoptions
    obtain ⟨hs₁, hev₁⟩ := visited hs hmachine hv
    obtain ⟨hnone, hfollows⟩ := clear_follows hsource hnested hx hmachine
      (eligible_iff.mp hsite) hs hv hd
    rw [hnone, hpending] at hfinish
    cases hfinish
    refine ⟨hs₁, hev₁, fun _ => ?_⟩
    cases hfollows with
    | held read tidy reads stays stop =>
      refine ⟨tidy, .held (eligible_iff.mp hsite) reads fun htreat => ?_, .volatile read⟩
      rw [← hoptions] at htreat
      exact stays htreat

end Walks

/-- All scans keep the documents tidy, and clear what they load. -/
theorem tidy_scanFrom (hsource : source.Supplies Tidy) (bound : Nat) :
    NestedTidy source original (scanFrom bound) := by
  induction bound with
  | zero =>
    exact ⟨evolves_scanFrom 0, (fun _ h => by cases h), (fun _ h => by cases h),
      fun h => by cases h⟩
  | succ bound ih =>
    have cleared {id : ContentId} {c : Content} {start : Option Nat} {tree y : Json}
        {e : Option BundleError} {s s₁ : Session} (hs : s.Tidied source original)
        (held : s.store.tree? id = some tree)
        (walk : Walks bound .load c.reference start tree s y e s₁) :=
      cleared_of_node hsource ih hs (hs.tidy.tree held) rfl walk
    refine ⟨evolves_scanFrom (bound + 1), fun {id phase start s result s'} hs h => ?_,
      fun {id start s y s'} hs h => ?_, fun {id phase start s s'} h => ?_⟩
    · have hsound := (sound_scanFrom (bound + 1) h hs.sound).1
      refine ⟨hsound, ?_⟩
      have walked {c : Content} {tree y : Json} {e : Option BundleError} {s₁ : Session}
          (walk : Walks bound phase c.reference start tree s y e s₁) :
          s₁.Tidied source original :=
        (preserving_tidied hsource ih).walk (fun _ => trivial) hs walk
      cases scanFrom_ends h with
      | empty nothing => exact hs.tidy
      | failed content held walk | read content held other walk
      | unwritten content held load walk write => exact (walked walk).tidy
      | @written c tree y s₁ store content held load walk write =>
        subst load
        obtain ⟨hs₁, hev, hcleared⟩ := cleared hs held walk
        have hw := writes_of_scan held hev y
        rw [write] at hw
        exact hs.tidy.write hs₁.tidy hev.store held (hcleared rfl).tidy (hcleared rfl).kept hw
    · generalize hresult : (Except.ok (some y) : Except BundleError (Option Json)) = result at h
      cases scanFrom_ends h with
      | empty | failed | unwritten => cases hresult
      | read content held other walk => exact absurd rfl other
      | @written c tree y s₁ store content held load walk write =>
        cases hresult
        obtain ⟨hs₁, hev, hcleared⟩ := cleared hs held walk
        have hw := writes_of_scan held hev y
        rw [write] at hw
        obtain ⟨hwf, hext⟩ := hw.wf hs₁.sound.wf
        exact ⟨(hcleared rfl).tidy, (hcleared rfl).handled.mono fun r hr =>
          hr.evolves (evolves_withStore hwf hext)⟩
    · generalize hresult : (Except.ok none : Except BundleError (Option Json)) = result at h
      cases scanFrom_ends h with
      | empty nothing => exact ⟨nothing, rfl⟩
      | failed | read | written | unwritten => cases hresult

/-! ## Loaded trees -/

end Scan

namespace Scan.Hop

open Scanning

/-- The URL of the document. -/
def home : Uri := ⟨"mem", some (.ofHost (some (.name "a"))), "/main.json", none, none⟩

/-- A document with a reference at a hop, and one that leads nowhere outside the dialect. -/
def homeTree : Json :=
  .object [("swagger", .string "2.0"), ("definitions", .object [("$ref", .string "#/x-types")]),
    ("x-types", .object [("A", .object [("type", .string "string")])]),
    ("x-lost", .object [("$ref", .string "#/nowhere")])]

/-- There are no other documents. -/
def nothing : Source := fun _ => .error "not found"

/-- The tree of the document before it is loaded. -/
def original (r : Reference) : Option Json :=
  if r.id = (Reference.forDocument home).id then some homeTree else none

/-- A run that has taken the document in. -/
def taken : Session :=
  (Session.start .swagger2 .default nothing).withStore
    (Store.empty.add ⟨Reference.forDocument home, .document homeTree, some Dialect.swagger2.model⟩)

/-- The tree after it was loaded. -/
def loadedTree : Json :=
  .object [("swagger", .string "2.0"), ("definitions", .object [("$ref", .string "#/x-types")]),
    ("x-types", .object [("A", .object [("type", .string "string")])]),
    ("x-lost", adorned (.object [("$ref", .string "#/nowhere")])
      ((Reference.resolve "#/nowhere" (some home) none).markInvalid .missingTarget))]

set_option maxRecDepth 10000

theorem ends_taken : ∃ s, Ends (scanFrom 10 0 .load (some Dialect.swagger2.model)) taken
    (.ok (some loadedTree)) s := by
  have h : ((scanFrom 10 0 .load (some Dialect.swagger2.model)).run.run taken).bind
      (fun p => p.1.toOption.join) = some loadedTree := by decide +kernel
  obtain ⟨⟨result, s⟩, hends, hresult⟩ := Option.bind_eq_some_iff.mp h
  have htree : result.toOption = some (some loadedTree) := Option.join_eq_some_iff.mp hresult
  cases result with
  | ok value =>
    cases htree
    exact ⟨s, hends⟩
  | error e => cases htree

theorem not_retrieved {url : Uri} {tree : Json} : Store.retrieve nothing url ≠ .ok tree := by
  intro h
  cases h

/-- A run that has taken in a tidy document, where there are no others. -/
theorem tidied_of_document {d : Dialect} {o : Options} {home : Uri} {tree : Json}
    {start : Option Nat} (hwhole : (Reference.forDocument home).fragment = none)
    (hvalid : (Reference.forDocument home).error = none) (htidy : tree.Throughout Tidy) :
    ((Session.start d o nothing).withStore (Store.empty.add
      ⟨Reference.forDocument home, .document tree, start⟩)).Tidied nothing
      fun r => if r.id = (Reference.forDocument home).id then some tree else none := by
  have only {id : ContentId} {c : Content} (hc : (Store.empty.add
      ⟨Reference.forDocument home, .document tree, start⟩).content? id = some c) :
      c = ⟨Reference.forDocument home, .document tree, start⟩ := by
    rw [Store.content?_add] at hc
    split at hc
    · exact (Option.some.inj hc).symm
    · simp [Store.empty, Store.content?] at hc
  refine ⟨⟨?_, rfl, ?_⟩, ⟨fun hc hb => ?_⟩⟩
  · exact Store.WF.empty.addContent rfl (fun _ => hwhole) (fun hb => by cases hb)
      (by simp [hvalid])
  · refine ⟨fun _ _ hread => absurd hread not_retrieved, fun hc hb => ?_, fun hc hb => ?_⟩
    · cases only hc
      cases hb
      exact ⟨tree, if_pos rfl, .refl tree⟩
    · cases only hc
      cases hb
  · cases only hc
    cases hb
    exact htidy

end Scan.Hop

namespace Scan

open Hop Scanning

set_option maxRecDepth 10000

end Scan

end ApiBundle
