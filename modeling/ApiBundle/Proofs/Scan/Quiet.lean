import ApiBundle.Proofs.Scan.Loading
import ApiBundle.Proofs.Scan.Stock

/-!
# What loading leaves to be done

A tree that was loaded from a state is *quiet* there: each reference node that a walk from that
state comes across is adorned, and is not one whose target takes its place while loading. Loading it
again from the same state therefore puts nothing in any place. `Scan.within_scanFrom` proves that
scans within a horizon keep the store within it, and that loading gives tame and quiet trees.
-/

namespace ApiBundle

open Json

namespace Reference

theorem member?_valid_adornment (r : Reference) :
    r.adornment.member? "valid" = some (.bool r.isValid) := by
  simp [adornment, member?, OrderedMap.find?]

end Reference

namespace Scan

variable {m : Machine Component} {o : Options} {q : Option Nat} {x y node : Json}

/-- No reference that a walk from a state comes across is put in its place while loading. -/
inductive Quiet (m : Machine Component) (o : Options) : Option Nat → Json → Prop where
  | held {q : Option Nat} {x : Json} {r : Reference} (visited : siteAt m q ≠ .anonymous)
      (ref : Reference.ofNode? x = some r)
      (stays : (r.withComponent (siteAt m q).tag?).treatment o ≠ .inlineNonconforming)
      (below : (r.withComponent (siteAt m q).tag?).treatment o = .merge →
        ∀ k ∈ x.kids, Quiet m o (q.bind (m.step · k.1)) k.2) : Quiet m o q x
  | plain {q : Option Nat} {x : Json} (unread : siteAt m q = .anonymous ∨ x.refText? = none)
      (below : ∀ k ∈ x.kids, Quiet m o (q.bind (m.step · k.1)) k.2) : Quiet m o q x

theorem quiet_of_bare (h : x.Throughout Bare) : Quiet m o q x := by
  induction h generalizing q with
  | @mk x here below ih =>
    have hmember : x.member? refKey = none := here
    exact .plain (.inr (by simp [refText?, hmember])) fun k hk => ih k hk

variable {H : Horizon} {r r' : Reference} {a out : Json} {t : Tracker Component}
  {base : Reference}

/-- An adornment keeps what decides on the treatment of a reference. -/
theorem treatment_kept (herror : r'.error = none ↔ r.error = none) {c : Option Component}
    (hcomponent : r.component = c) : (r'.kept.withComponent c).treatment o = r.treatment o :=
  Reference.treatment_congr (Reference.error_kept.trans herror) hcomponent.symm

/-- A node that has the value of an adorned one is adorned with as valid a reference. -/
theorem holds_of_sameValue (hx : H.Tame x) {text : String} (htext : x.refText? = some text)
    (ha : a.member? adornmentKey = some r'.adornment) (hsame : a.sameValue x = true) :
    ∃ r₀ : Reference, Holds x r₀ ∧ (r₀.error = none ↔ r'.error = none) := by
  obtain ⟨w, hw, hinfo⟩ := member?_of_sameValue hsame ha
  rcases hx.refs text htext with ⟨hnone, -⟩ | ⟨r₀, rfl, hr₀, -⟩
  · rw [hnone] at hw
    cases hw
  · rw [hr₀] at hw
    cases hw
    obtain ⟨b, hb, hbool⟩ := member?_of_sameValue hinfo r'.member?_valid_adornment
    rw [r₀.member?_valid_adornment] at hb
    cases hb
    simp only [sameValue, beq_iff_eq] at hbool
    refine ⟨r₀, ⟨htext, hr₀⟩, ?_⟩
    unfold Reference.isValid at hbool
    cases h : r₀.error <;> cases h' : r'.error <;> simp_all

/-- The node that a walk goes on with after it was adorned holds the reference. -/
theorem holds_adorned_or_same (hx : H.Tame x) {text : String} (htext : x.refText? = some text)
    (hcomponent : r.component = t.site.tag?)
    (hout : out = adorned x r ∨ (out = x ∧ (adorned x r).sameValue x = true)) :
    ∃ r₀, Holds out r₀ ∧ (r₀.kept.withComponent t.site.tag?).treatment o = r.treatment o := by
  rcases hout with rfl | ⟨rfl, hsame⟩
  · exact ⟨r, holds_adorned htext r, treatment_kept Iff.rfl hcomponent⟩
  · obtain ⟨r₀, href, herror⟩ := holds_of_sameValue hx htext (holds_adorned htext r).info hsame
    exact ⟨r₀, href, treatment_kept herror hcomponent⟩

/-- A quiet tree does not have the value of a node that is to be put in place. -/
theorem not_sameValue_of_quiet (hx : H.Tame x) (href : reference? o base x t = some r)
    (htreat : r.treatment o = .inlineNonconforming) (hsite : t.site ≠ .anonymous) (ha : H.Tame a)
    (hquiet : Quiet t.machine o t.current a) : ¬a.sameValue x = true := by
  intro hsame
  obtain ⟨text, htext, hr⟩ := Option.map_eq_some_iff.mp href
  have hatext := refText?_of_sameValue hsame ha.distinct htext
  cases hquiet with
  | plain unread =>
    rcases unread with hanonymous | hnone
    · exact hsite hanonymous
    · rw [hatext] at hnone
      cases hnone
  | held visited hnode stays =>
    obtain ⟨r₂, rfl, hholds, -⟩ := ha.ofNode? hnode
    obtain ⟨r₀, hx₀, herror⟩ := holds_of_sameValue hx htext hholds.info hsame
    rw [hx₀.ofNode?] at hr
    subst hr
    refine stays (Eq.trans ?_ htreat)
    exact Reference.treatment_congr (Reference.error_kept.trans
      (herror.symm.trans Reference.error_kept.symm)) rfl

end Scan

/-! ## Scans within a horizon -/

/-- Between two steps of a run within a horizon. -/
structure Session.Within (H : Horizon) (s : Session) : Prop where
  sound : s.Sound H.source H.original
  stocked : H.Stocked s.store
  dialect : s.dialect = H.dialect
  options : s.options = H.options

namespace Scan

open Scanning Session

variable {H : Horizon} {nested : NestedScan} {base : Reference} {x node : Json} {r : Reference}
  {t : Tracker Component} {state : Option Nat} {s s' : Session}

/-- Every scan of a kind keeps within a horizon, and gives loaded trees back that are quiet. -/
structure NestedWithin (H : Horizon) (nested : NestedScan) : Prop where
  within : ∀ {id phase start s result s'}, s.Within H → Ends (nested id phase start) s result s' →
    s'.Within H
  loaded : ∀ {id start s y s'}, s.Within H → Ends (nested id .load start) s (.ok (some y)) s' →
    y.Throughout H.Tame ∧ Quiet H.dialect.machine H.options start y
  some : ∀ {id phase start s s'}, s.Within H → ∀ c, s.store.content? id = some c →
    c.body ≠ .invalid → ¬Ends (nested id phase start) s (.ok none) s'

theorem within_of_loads (hclosed : H.Closed) {target : Except Reference ContentId}
    (hr : H.Admits r) (hs : s.Within H) (h : Loads r state s target s') : s'.Within H := by
  have hsound := sound_of_loads hs.sound h
  have hstocked (store : Store) {result : Except BundleError ContentId}
      (look : s.store.load s.source r state = (result, store)) : H.Stocked store := by
    have hload : H.Stocked (s.store.load H.source r state).2 :=
      hs.stocked.load hclosed hr.aimed
    rw [hs.sound.reads] at look
    rwa [look] at hload
  cases h with
  | found look => exact ⟨hsound, hstocked _ look, hs.dialect, hs.options⟩
  | lost look => exact ⟨hsound, hstocked _ look, hs.dialect, hs.options⟩

theorem preserving_within (hclosed : H.Closed) (hnested : NestedWithin H nested) :
    Preserving H.Admits (Session.Within H) nested where
  wf := fun hs => hs.sound.wf
  alike := fun hsame hs =>
    ⟨⟨hsame.store ▸ hs.sound.wf, hsame.source.trans hs.sound.reads,
        hsame.store ▸ hs.sound.faithful⟩,
      hsame.store ▸ hs.stocked, hsame.dialect.trans hs.dialect, hsame.options.trans hs.options⟩
  loads := fun hr hs => within_of_loads hclosed hr hs
  nested := fun hs => hnested.within hs

/-- What loading makes of a tame node, if it does not fail. -/
structure Loaded (H : Horizon) (t : Tracker Component) (x y : Json) : Prop where
  tame : y.Throughout H.Tame
  quiet : Quiet t.machine H.options t.current y
  kept : Kept x y

/-- What loading makes of the nodes of a walk, and of the state. -/
def LoadWalk (H : Horizon) (x : Json) (t : Tracker Component) (s : Session) (y : Json)
    (e : Option BundleError) (s' : Session) : Prop :=
  s.Within H → x.Throughout H.Tame → t.machine = H.dialect.machine →
    s'.Within H ∧ (e = none → Loaded H t x y)

theorem loaded_kids {kids : List (Segment × Json)} {ys : List Json} {e : Option BundleError}
    (h : Walk.Threaded (LoadWalk H) t kids s ys e s') (hs : s.Within H)
    (hx : ∀ k ∈ kids, k.2.Throughout H.Tame) (hmachine : t.machine = H.dialect.machine) :
    s'.Within H ∧ (e = none → ∀ k ∈ kids.zip ys, Loaded H (t.move k.1.1) k.1.2 k.2) := by
  induction h with
  | nil => exact ⟨hs, fun _ k hk => by cases hk⟩
  | fail head =>
    obtain ⟨hs', -⟩ := head hs (hx _ (List.mem_cons_self ..)) hmachine
    exact ⟨hs', nofun⟩
  | cons head _ ih =>
    obtain ⟨hs₁, hhead⟩ := head hs (hx _ (List.mem_cons_self ..)) hmachine
    obtain ⟨hs', hrest⟩ := ih hs₁ fun k hk => hx k (List.mem_cons_of_mem _ hk)
    refine ⟨hs', fun he k hk => ?_⟩
    rcases List.mem_cons.mp hk with rfl | hk
    · exact hhead rfl
    · exact hrest he k hk

theorem tame_of_loaded_kids {ys : List Json} (hx : x.Throughout H.Tame)
    (hlen : ys.length = x.kids.length)
    (h : ∀ k ∈ x.kids.zip ys, Loaded H (t.move k.1.1) k.1.2 k.2) :
    (x.withKids ys).Throughout H.Tame :=
  Horizon.tame_withKids hx hlen fun k hk => ⟨(h k hk).kept, (h k hk).tame⟩

theorem quiet_of_loaded_kids {ys : List Json} (hlen : ys.length = x.kids.length)
    (h : ∀ k ∈ x.kids.zip ys, Loaded H (t.move k.1.1) k.1.2 k.2) :
    ∀ k ∈ (x.withKids ys).kids,
      Quiet t.machine H.options (t.current.bind (t.machine.step · k.1)) k.2 := by
  intro k hk
  rw [Kidwise.kids_withKids hlen] at hk
  obtain ⟨p, hp, rfl⟩ := List.mem_map.mp hk
  exact (h p hp).quiet

/-- A node that holds no reference, with its children loaded. -/
theorem loaded_of_kids {ys : List Json} (hx : x.Throughout H.Tame)
    (hlen : ys.length = x.kids.length)
    (h : ∀ k ∈ x.kids.zip ys, Loaded H (t.move k.1.1) k.1.2 k.2)
    (hunread : t.site = .anonymous ∨ x.refText? = none) : Loaded H t x (x.withKids ys) where
  tame := tame_of_loaded_kids hx hlen h
  quiet := by
    refine .plain ?_ (quiet_of_loaded_kids hlen h)
    rcases hunread with hanonymous | hnone
    · exact .inl hanonymous
    · have hkept : Kept x (x.withKids ys) := .firm hlen fun k hk => (h k hk).kept
      exact .inr (hkept.refText?_eq_none (Horizon.literal_of_tame hx) hnone)
  kept := .firm hlen fun k hk => (h k hk).kept

section Walks

variable (hclosed : H.Closed) (hnested : NestedWithin H nested)
  (hbase : ∃ url ∈ H.urls, base.url = some url)
include hclosed hnested hbase

theorem within_of_visit (phase : Phase) {answer : Except BundleError (Disposition Completion)}
    (hx : H.Tame x) (hmachine : t.machine = H.dialect.machine) (hs : s.Within H)
    (h : Ends (visit nested phase base x t) s answer s') : s'.Within H :=
  (preserving_within hclosed hnested).visit
    (fun _ hr => hx.admits hclosed hbase (tag_mem_components hmachine) hr) hs h

/-- What can follow the visit of a tame node while loading. -/
inductive LoadFollows (H : Horizon) (base : Reference) (t : Tracker Component) (x : Json) :
    Json → Action → Prop where
  | plain (unread : x.refText? = none) : LoadFollows H base t x x .descend
  | held {new : Json} {r : Reference} (read : Volatile x) (tame : new.Throughout H.Tame)
      (holds : Holds new r)
      (stays : (r.kept.withComponent t.site.tag?).treatment H.options ≠ .inlineNonconforming)
      (settled : (r.kept.withComponent t.site.tag?).treatment H.options ≠ .merge) :
      LoadFollows H base t x new .done
  | merged {new : Json} {r r₀ : Reference} (read : Volatile x) (tame : new.Throughout H.Tame)
      (ref : reference? H.options base x t = some r) (treatment : r.treatment H.options = .merge)
      (holds : Holds new r₀)
      (merges : (r₀.kept.withComponent t.site.tag?).treatment H.options = .merge)
      (below : ∀ k ∈ new.kids, k ∈ x.kids ∨ k.2.Throughout Bare) :
      LoadFollows H base t x new .descend
  | spliced {new : Json} {r : Reference} (read : Volatile x) (tame : new.Throughout H.Tame)
      (ref : reference? H.options base x t = some r)
      (treatment : r.treatment H.options = .inlineNonconforming)
      (quiet : Quiet t.machine H.options t.current new) : LoadFollows H base t x new .revisit

theorem load_follows {d : Disposition Completion} {new : Json} {action : Action}
    (hx : x.Throughout H.Tame) (hmachine : t.machine = H.dialect.machine)
    (hsite : t.site ≠ .anonymous) (hs : s.Within H)
    (h : Ends (visit nested .load base x t) s (.ok d) s') (hd : d.settle x = (new, action)) :
    d.completion = none ∧ LoadFollows H base t x new action := by
  have hread {r : Reference} (href : reference? H.options base x t = some r) :
      ∃ text, x.refText? = some text ∧ Volatile x ∧ H.Admits r := by
    obtain ⟨text, htext, -⟩ := Option.map_eq_some_iff.mp href
    exact ⟨text, htext, volatile_of_refText? (by rw [htext]; rfl),
      hx.here.admits hclosed hbase (tag_mem_components hmachine) href⟩
  -- a node that is adorned, with the reference or a faulty copy of it
  have adorning {r r' : Reference} {d : Disposition Completion}
      (href : reference? H.options base x t = some r) (hr' : H.Admits r')
      (hcomponent : r'.component = r.component) (hnew : d.replacement = some (adorned x r'))
      (haction : d.action ≠ .revisit) (hd : d.settle x = (new, action)) :
      action = d.action ∧ new.Throughout H.Tame ∧
        (∀ k ∈ new.kids, k ∈ x.kids ∨ k.2.Throughout Bare) ∧ ∃ r₀, Holds new r₀ ∧
          (r₀.kept.withComponent t.site.tag?).treatment H.options = r'.treatment H.options := by
    obtain ⟨text, htext, -⟩ := hread href
    have hcases := settle_cases hnew hd
    have hfollow : action = d.action := by
      rcases hcases with ⟨-, heq⟩ | ⟨-, -, heq⟩
      · exact heq
      · rwa [if_neg haction] at heq
    refine ⟨hfollow, ?_, ?_, holds_adorned_or_same hx.here htext
      (hcomponent.trans (component_of_reference? href))
      (hcases.imp And.left fun h => ⟨h.1, h.2.1⟩)⟩
    · rcases hcases with ⟨rfl, -⟩ | ⟨rfl, -, -⟩
      · exact Horizon.tame_adorned hx htext hr'
      · exact hx
    · rcases hcases with ⟨rfl, -⟩ | ⟨rfl, -, -⟩
      · intro k hk
        rcases mem_kids_adorned htext hk with hk | rfl | rfl
        · exact .inl hk
        · exact .inr ((plain_string _).mono Plain.bare)
        · exact .inr ((plain_adornment r').mono Plain.bare)
      · exact fun k hk => .inl hk
  have held {r r' : Reference} (href : reference? H.options base x t = some r)
      (hr' : H.Admits r') (hcomponent : r'.component = r.component)
      (hstays : r'.treatment H.options ≠ .inlineNonconforming)
      (hsettled : r'.treatment H.options ≠ .merge)
      (hd : (Disposition.doneWith (adorned x r') : Disposition Completion).settle x =
        (new, action)) : LoadFollows H base t x new action := by
    obtain ⟨rfl, htame, -, r₀, hholds, htreat⟩ :=
      adorning (d := .doneWith _) href hr' hcomponent rfl (fun h => by cases h) hd
    obtain ⟨-, -, hv, -⟩ := hread href
    exact .held hv htame hholds (htreat ▸ hstays) (htreat ▸ hsettled)
  have spoilt {r : Reference} (href : reference? H.options base x t = some r)
      (e : ReferenceError)
      (hd : (Disposition.doneWith (adorned x (r.markInvalid e)) : Disposition Completion).settle x =
        (new, action)) : LoadFollows H base t x new action := by
    obtain ⟨-, -, -, hadmits⟩ := hread href
    exact held href (hadmits.markInvalid e) rfl (by simp [Reference.treatment_markInvalid])
      (by simp [Reference.treatment_markInvalid]) hd
  generalize hanswer : (Except.ok d : Except BundleError (Disposition Completion)) = answer at h
  cases load_ends hs.sound.wf h with
  | plain ref =>
    cases hanswer
    cases hd
    rw [hs.options] at ref
    refine ⟨rfl, .plain ?_⟩
    cases htext : x.refText? with
    | none => rfl
    | some text => simp [reference?, htext] at ref
  | lost ref treatment =>
    cases hanswer
    rw [hs.options] at ref treatment
    obtain ⟨-, -, -, hadmits⟩ := hread ref
    exact ⟨rfl, held ref hadmits rfl (by simp [treatment]) (by simp [treatment]) hd⟩
  | merged ref treatment =>
    cases hanswer
    rw [hs.options] at ref treatment
    obtain ⟨-, -, hv, hadmits⟩ := hread ref
    obtain ⟨rfl, htame, hbelow, r₀, hholds, htreat⟩ :=
      adorning (d := .descendInto _) ref hadmits rfl rfl (fun h => by cases h) hd
    exact ⟨rfl, .merged hv htame ref treatment hholds (htreat.trans treatment) hbelow⟩
  | kept ref treatment =>
    cases hanswer
    rw [hs.options] at ref treatment
    obtain ⟨-, -, -, hadmits⟩ := hread ref
    refine ⟨rfl, held ref hadmits rfl ?_ ?_ hd⟩ <;>
      rcases treatment with treatment | treatment | treatment <;> simp [treatment]
  | @spliced r answer s'' ref treatment splice =>
    rw [hs.options] at ref treatment
    obtain ⟨-, -, hv, hadmits⟩ := hread ref
    cases splice with
    | cycle active =>
      cases hanswer
      exact ⟨rfl, spoilt ref _ hd⟩
    | missing free look =>
      cases hanswer
      cases look
      exact ⟨rfl, spoilt ref _ hd⟩
    | failed free look scan => cases hanswer
    | @gone id s₁ s₂ free look scan =>
      obtain ⟨s₃, hends, -⟩ := scan
      have hs₁ := within_of_loads hclosed hadmits hs look
      cases look with
      | @found _ c store look' grows content same valid body =>
        exact absurd hends (hnested.some (s := (s.withStore store).enter r)
          ⟨⟨hs₁.sound.wf, hs₁.sound.reads, hs₁.sound.faithful⟩, hs₁.stocked, hs₁.dialect,
            hs₁.options⟩ c content body)
    | @spliced id s₁ s₂ tree free look scan =>
      cases hanswer
      obtain ⟨s₃, hends, -⟩ := scan
      have hs₁ := within_of_loads hclosed hadmits hs look
      obtain ⟨htame, hquiet⟩ := hnested.loaded (s := s₁.enter r)
        ⟨⟨hs₁.sound.wf, hs₁.sound.reads, hs₁.sound.faithful⟩, hs₁.stocked, hs₁.dialect,
          hs₁.options⟩ hends
      rw [← hmachine] at hquiet
      rcases settle_cases rfl hd with ⟨rfl, rfl⟩ | ⟨-, hsame, -⟩
      · exact ⟨rfl, .spliced hv htame ref treatment hquiet⟩
      · exact absurd hsame
          (not_sameValue_of_quiet hx.here ref treatment hsite htame.here hquiet)

/-- Loading a tree within a horizon makes it quiet. -/
theorem loaded_of_node {bound : Nat} {y : Json} {e : Option BundleError} (hs : s.Within H)
    (hx : x.Throughout H.Tame) (hmachine : t.machine = H.dialect.machine)
    (h : Walk.node scope (visitor nested .load base) bound [] x t s = some ((y, e), s')) :
    s'.Within H ∧ (e = none → Loaded H t x y) := by
  refine Walk.node_induction (motive := fun pending x t s y e s' => pending = [] →
      LoadWalk H x t s y e s') ?skip ?pass ?raise ?revisit ?broken ?descend ?done h rfl hs hx hmachine
  case skip =>
    intro _ x t s hsite hoff _ hs hx hmachine
    rw [isOffRoad_of_passed hsite] at hoff
    cases hoff
  case pass =>
    intro _ x t s ys e s' hsite _ hkids _ hs hx hmachine
    have hlen := hkids.length_eq
    obtain ⟨hs', hloaded⟩ := loaded_kids (hkids.mono fun h => h rfl) hs
      (fun k hk => hx.kid hk) hmachine
    exact ⟨hs', fun he => loaded_of_kids hx hlen (hloaded he) (.inl (eligible_eq_false.mp hsite))⟩
  case raise =>
    intro _ x t s e s' _ hv _ hs hx hmachine
    exact ⟨within_of_visit hclosed hnested hbase .load hx.here hmachine hs hv, nofun⟩
  case revisit =>
    intro _ x t s d s₁ new y e s' hsite hv hd ih hpending hs hx hmachine
    have hs₁ := within_of_visit hclosed hnested hbase .load hx.here hmachine hs hv
    obtain ⟨hnone, hfollows⟩ := load_follows hclosed hnested hbase hx hmachine
      (eligible_iff.mp hsite) hs hv hd
    cases hfollows with
    | spliced read tame ref treatment quiet =>
      obtain ⟨hs', hloaded⟩ := ih (by rw [hnone, hpending]; rfl) hs₁ tame hmachine
      exact ⟨hs', fun he => ⟨(hloaded he).tame, (hloaded he).quiet, .volatile read⟩⟩
  case broken =>
    intro _ x t s d s₁ new ys e s' hsite hv hd hkids _ hs hx hmachine
    have hs₁ := within_of_visit hclosed hnested hbase .load hx.here hmachine hs hv
    obtain ⟨-, hfollows⟩ := load_follows hclosed hnested hbase hx hmachine
      (eligible_iff.mp hsite) hs hv hd
    have hnew : new.Throughout H.Tame := by
      cases hfollows with
      | plain => exact hx
      | merged read tame => exact tame
    obtain ⟨hs', -⟩ := loaded_kids (hkids.mono fun h => h rfl) hs₁
      (fun k hk => hnew.kid hk) hmachine
    exact ⟨hs', nofun⟩
  case descend =>
    intro _ x t s d s₁ new ys s₂ y e s' hsite hv hd hkids hfinish hpending hs hx hmachine
    have hs₁ := within_of_visit hclosed hnested hbase .load hx.here hmachine hs hv
    have hlen := hkids.length_eq
    obtain ⟨hnone, hfollows⟩ := load_follows hclosed hnested hbase hx hmachine
      (eligible_iff.mp hsite) hs hv hd
    rw [hnone, hpending] at hfinish
    cases hfinish
    cases hfollows with
    | plain unread =>
      obtain ⟨hs', hloaded⟩ := loaded_kids (hkids.mono fun h => h rfl) hs₁
        (fun k hk => hx.kid hk) hmachine
      exact ⟨hs', fun _ => loaded_of_kids hx hlen (hloaded rfl) (.inr unread)⟩
    | merged read tame ref treatment holds merges below =>
      obtain ⟨hs', hloaded⟩ := loaded_kids (hkids.mono fun h => h rfl) hs₁
        (fun k hk => tame.kid hk) hmachine
      have hheld := holds.withKids hlen fun k hk => (hloaded rfl k hk).kept
      exact ⟨hs', fun _ => ⟨tame_of_loaded_kids tame hlen (hloaded rfl),
        .held (eligible_iff.mp hsite) hheld.ofNode? (by rw [← site_eq, merges]; nofun)
          (fun _ => quiet_of_loaded_kids hlen (hloaded rfl)), .volatile read⟩⟩
  case done =>
    intro _ x t s d s₁ new y e s' hsite hv hd hfinish hpending hs hx hmachine
    have hs₁ := within_of_visit hclosed hnested hbase .load hx.here hmachine hs hv
    obtain ⟨hnone, hfollows⟩ := load_follows hclosed hnested hbase hx hmachine
      (eligible_iff.mp hsite) hs hv hd
    rw [hnone, hpending] at hfinish
    cases hfinish
    cases hfollows with
    | held read tame holds stays settled =>
      exact ⟨hs₁, fun _ => ⟨tame, .held (eligible_iff.mp hsite) holds.ofNode? stays
        (fun hmerge => absurd hmerge settled), .volatile read⟩⟩

omit hclosed hnested hbase in
/-- In the other phases a walk goes on below the node that it visits, or below what it merges. -/
theorem follows_of_visit {phase : Phase} (hphase : phase ≠ .load) {d : Disposition Completion}
    {new : Json} {action : Action} (hwf : s.store.WF)
    (h : Ends (visit nested phase base x t) s (.ok d) s') (hd : d.settle x = (new, action))
    (haction : action ≠ .done) : (action = .descend ∧ new = x) ∨
      (action = .revisit ∧ new = x.withoutRef ∧ x.refText?.isSome) := by
  have same {d : Disposition Completion} (hnew : d.replacement = none)
      (hd : d.settle x = (new, action)) : (action = .descend ∧ new = x) ∨
        (action = .revisit ∧ new = x.withoutRef ∧ x.refText?.isSome) := by
    obtain ⟨heq, hne⟩ := settle_of_no_replacement x hnew
    rw [hd] at heq hne
    cases action with
    | descend => exact .inl ⟨rfl, heq⟩
    | revisit => exact absurd rfl hne
    | done => exact absurd rfl haction
  have settled {d : Disposition Completion} {y : Json} (hnew : d.replacement = some y)
      (hdone : d.action = .done) (hd : d.settle x = (new, action)) : False := by
    rcases settle_cases hnew hd with ⟨-, rfl⟩ | ⟨-, -, rfl⟩
    · exact absurd hdone haction
    · simp [hdone] at haction
  have completed {completion : Option Completion}
      {answer : Except BundleError (Disposition Completion)}
      (hanswer : .ok d = completing completion answer)
      (hdone : ∀ d', answer = .ok d' → (∃ y, d'.replacement = some y) ∧ d'.action = .done) :
      False := by
    cases answer with
    | error e => cases hanswer
    | ok d' =>
      cases hanswer
      obtain ⟨⟨y, hy⟩, hdone⟩ := hdone d' rfl
      exact settled (d := d'.andThen completion) hy hdone hd
  have localizes {r : Reference} {answer : Except BundleError (Disposition Completion)}
      {s' : Session} (h : Localizes nested x r t.current s answer s') :
      ∀ d', answer = .ok d' → (∃ y, d'.replacement = some y) ∧ d'.action = .done := by
    intro d' hd'
    cases h <;> cases hd' <;> exact ⟨⟨_, rfl⟩, rfl⟩
  generalize hanswer : (Except.ok d : Except BundleError (Disposition Completion)) = answer at h
  cases phase with
  | load => exact absurd rfl hphase
  | collect =>
    cases collect_ends h with
    | plain | collected =>
      cases hanswer
      exact same rfl hd
    | failed => cases hanswer
  | settle =>
    cases settle_ends hwf h with
    | plain ref =>
      cases hanswer
      exact same rfl hd
    | lost ref treatment | retained ref treatment =>
      cases hanswer
      exact (settled rfl rfl hd).elim
    | unmerged => cases hanswer
    | merged ref treatment found =>
      cases hanswer
      obtain ⟨text, htext, -⟩ := Option.map_eq_some_iff.mp ref
      rcases settle_cases rfl hd with ⟨rfl, rfl⟩ | ⟨rfl, -, rfl⟩
      · exact .inr ⟨rfl, rfl, by rw [htext]; rfl⟩
      · exact .inl ⟨rfl, rfl⟩
    | localized ref treatment localize => exact (completed hanswer (localizes localize)).elim
    | inlined ref treatment inline =>
      refine (completed hanswer ?_).elim
      cases inline with
      | hoisted active home localize => exact localizes localize
      | cycle | missing | failed | gone | inlined =>
        intro d' hd'
        cases hd' <;> exact ⟨⟨_, rfl⟩, rfl⟩

omit hclosed hnested hbase in
theorem tame_of_follows {phase : Phase} (hphase : phase ≠ .load) {d : Disposition Completion}
    {new : Json} {action : Action} (hx : x.Throughout H.Tame) (hs : s.Within H)
    (h : Ends (visit nested phase base x t) s (.ok d) s') (hd : d.settle x = (new, action))
    (haction : action ≠ .done) : new.Throughout H.Tame := by
  rcases follows_of_visit hphase hs.sound.wf h hd haction with ⟨-, rfl⟩ | ⟨-, rfl, -⟩
  · exact hx
  · exact Horizon.tame_withoutRef hx

omit hclosed hnested hbase in
theorem within_kids {kids : List (Segment × Json)} {ys : List Json} {e : Option BundleError}
    (h : Walk.Threaded (fun x t s _ _ s' => s.Within H → x.Throughout H.Tame →
      t.machine = H.dialect.machine → s'.Within H) t kids s ys e s') (hs : s.Within H)
    (hx : ∀ k ∈ kids, k.2.Throughout H.Tame) (hmachine : t.machine = H.dialect.machine) :
    s'.Within H := by
  induction h with
  | nil => exact hs
  | fail head => exact head hs (hx _ (List.mem_cons_self ..)) hmachine
  | cons head _ ih =>
    exact ih (head hs (hx _ (List.mem_cons_self ..)) hmachine)
      fun k hk => hx k (List.mem_cons_of_mem _ hk)

/-- Walking a tame tree in another phase keeps within the horizon. -/
theorem within_of_node {phase : Phase} (hphase : phase ≠ .load) {bound : Nat}
    {pending : List Completion} {y : Json} {e : Option BundleError} (hs : s.Within H)
    (hx : x.Throughout H.Tame) (hmachine : t.machine = H.dialect.machine)
    (h : Walk.node scope (visitor nested phase base) bound pending x t s = some ((y, e), s')) :
    s'.Within H := by
  refine Walk.node_induction (motive := fun _ x t s _ _ s' => s.Within H → x.Throughout H.Tame →
      t.machine = H.dialect.machine → s'.Within H)
    ?skip ?pass ?raise ?revisit ?broken ?descend ?done h hs hx hmachine
  case skip => exact fun _ _ hs _ _ => hs
  case pass =>
    exact fun _ _ hkids hs hx hmachine => within_kids hkids hs (fun k hk => hx.kid hk) hmachine
  case raise =>
    exact fun _ hv hs hx hmachine =>
      within_of_visit hclosed hnested hbase phase hx.here hmachine hs hv
  case revisit =>
    intro _ _ _ _ _ _ _ _ _ _ _ hv hd ih hs hx hmachine
    have hs₁ := within_of_visit hclosed hnested hbase phase hx.here hmachine hs hv
    exact ih hs₁ (tame_of_follows hphase hx hs hv hd nofun) hmachine
  case broken =>
    intro _ _ _ _ _ _ _ _ _ _ _ hv hd hkids hs hx hmachine
    have hs₁ := within_of_visit hclosed hnested hbase phase hx.here hmachine hs hv
    exact within_kids hkids hs₁
      (fun k hk => (tame_of_follows hphase hx hs hv hd nofun).kid hk) hmachine
  case descend =>
    intro _ _ _ _ _ _ _ _ _ _ _ _ _ hv hd hkids hfinish hs hx hmachine
    have hs₁ := within_of_visit hclosed hnested hbase phase hx.here hmachine hs hv
    exact (preserving_within hclosed hnested).finish (within_kids hkids hs₁
      (fun k hk => (tame_of_follows hphase hx hs hv hd nofun).kid hk) hmachine) hfinish
  case done =>
    intro _ _ _ _ _ _ _ _ _ _ _ hv _ hfinish hs hx hmachine
    have hs₁ := within_of_visit hclosed hnested hbase phase hx.here hmachine hs hv
    exact (preserving_within hclosed hnested).finish hs₁ hfinish

end Walks

/-- All scans keep within a horizon that is closed. -/
theorem within_scanFrom (hclosed : H.Closed) (bound : Nat) : NestedWithin H (scanFrom bound) := by
  induction bound with
  | zero =>
    exact ⟨(fun _ h => by cases h), (fun _ h => by cases h), (fun _ _ _ _ h => by cases h)⟩
  | succ bound ih =>
    have url {id : ContentId} {c : Content} {tree : Json} {s : Session} (hs : s.Within H)
        (hc : s.store.content? id = some c) (held : s.store.tree? id = some tree) :
        ∃ url ∈ H.urls, c.reference.url = some url := by
      obtain ⟨c', hc', hbody⟩ := content?_of_tree? held
      cases hc.symm.trans hc'
      exact hs.stocked.url hs.sound.wf hc hbody
    refine ⟨fun {id phase start s result s'} hs h => ?_, fun {id start s y s'} hs h => ?_,
      fun {id phase start s s'} hs c hc hbody h => ?_⟩
    · have hsound := (sound_scanFrom (bound + 1) h hs.sound).1
      have hev := evolves_scanFrom (bound + 1) h hs.sound.wf
      refine ⟨hsound, ?_, hev.dialect.trans hs.dialect, hev.options.trans hs.options⟩
      have walked {c : Content} {tree y : Json} {e : Option BundleError} {s₁ : Session}
          (hc : s.store.content? id = some c) (held : s.store.tree? id = some tree)
          (walk : Walks bound phase c.reference start tree s y e s₁) : s₁.Within H := by
        have hmachine : (Tracker.start s.dialect.machine start).machine = H.dialect.machine :=
          congrArg Dialect.machine hs.dialect
        by_cases hphase : phase = .load
        · subst hphase
          exact (loaded_of_node hclosed ih (url hs hc held) hs (hs.stocked.tree held) hmachine
            walk).1
        · exact within_of_node hclosed ih (url hs hc held) hphase hs (hs.stocked.tree held)
            hmachine walk
      cases scanFrom_ends h with
      | empty nothing => exact hs.stocked
      | failed content held walk => exact (walked content held walk).stocked
      | read content held other walk => exact (walked content held walk).stocked
      | unwritten content held load walk write => exact (walked content held walk).stocked
      | @written c tree y s₁ store content held load walk write =>
        have hs₁ := walked content held walk
        subst load
        have hloaded := (loaded_of_node hclosed ih (url hs content held) hs
          (hs.stocked.tree held) (congrArg Dialect.machine hs.dialect) walk).2 rfl
        have hev₁ := evolves_of_node (evolves_scanFrom bound) hs.sound.wf rfl walk
        have hw := writes_of_scan held hev₁ y
        rw [write] at hw
        exact hs.stocked.write hs₁.stocked hclosed hs.sound.wf hs.sound.faithful
          hs₁.sound.faithful hev₁.store held hloaded.tame
          (fun o ho => kept_of_node walk (fun _ hc => by cases hc) ho) hw
    · generalize hresult : (Except.ok (some y) : Except BundleError (Option Json)) = result at h
      cases scanFrom_ends h with
      | empty | failed | unwritten => cases hresult
      | read content held other walk => exact absurd rfl other
      | written content held load walk write =>
        cases hresult
        have hloaded := (loaded_of_node hclosed ih (url hs content held) hs
          (hs.stocked.tree held) (congrArg Dialect.machine hs.dialect) walk).2 rfl
        refine ⟨hloaded.tame, ?_⟩
        have hquiet := hloaded.quiet
        rwa [show (Tracker.start s.dialect.machine start).machine = H.dialect.machine from
          congrArg Dialect.machine hs.dialect] at hquiet
    · generalize hresult : (Except.ok none : Except BundleError (Option Json)) = result at h
      cases scanFrom_ends h with
      | empty nothing =>
        have hsome := hs.stocked.tree?_isSome hclosed hs.sound.wf hs.sound.faithful hc hbody
        rw [nothing] at hsome
        cases hsome
      | failed | read | written | unwritten => cases hresult

end Scan

end ApiBundle
