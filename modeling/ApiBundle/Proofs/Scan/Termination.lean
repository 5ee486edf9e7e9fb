import ApiBundle.Proofs.Scan.Halting
import ApiBundle.Proofs.Scan.Quiet

/-!
# Scans within a horizon come to an end

Scans nest only while a reference is resolved that was not being resolved before, and within a
horizon there are finitely many of these. A single walk comes to an end as well: what a loading
walk puts in place of a reference is quiet, so that it puts nothing in place below it, and what the
other phases visit again is smaller. The rank of a node for a loading walk is therefore a pair: how
much may be put in place at and below the node, and its size.
-/

namespace ApiBundle

open Json

namespace Session

variable {H : Horizon} {s s' : Session} {r : Reference}

/-- The number of references within the horizon that are not being resolved. -/
def room (H : Horizon) (s : Session) : Nat :=
  (H.ids.filter fun i => !s.resolving.isActive i).length

theorem length_filter_lt {α : Type} {p q : α → Bool} (hpq : ∀ a, q a = true → p a = true)
    {as : List α} {a : α} (ha : a ∈ as) (hp : p a = true) (hq : q a = false) :
    (as.filter q).length < (as.filter p).length := by
  have hle : ∀ as : List α, (as.filter q).length ≤ (as.filter p).length := by
    intro as
    rw [← List.countP_eq_length_filter, ← List.countP_eq_length_filter]
    exact List.countP_mono_left fun a _ => hpq a
  induction as with
  | nil => cases ha
  | cons b as ih =>
    rcases List.mem_cons.mp ha with rfl | ha
    · have := hle as
      simp [hp, hq]
      omega
    · have := ih ha
      cases hqb : q b with
      | true => simpa [hqb, hpq b hqb] using this
      | false => cases hpb : p b <;> simp [hqb, hpb] <;> omega

/-- Resolving a reference leaves less room. -/
theorem room_enter (hr : r.id ∈ H.ids) (hfree : s.isActive r = false) :
    (s.enter r).room H < s.room H := by
  refine length_filter_lt (fun i hi => ?_) hr (by simpa [isActive] using hfree) ?_
  · simp only [enter, VisitSet.isActive, List.contains_eq_mem, List.mem_append, not_or,
      Bool.not_eq_true', decide_eq_false_iff_not] at hi ⊢
    exact hi.1
  · simp [enter, VisitSet.isActive]

theorem room_of_resolving (h : s'.resolving = s.resolving) : s'.room H = s.room H := by
  unfold room
  rw [h]

end Session

namespace Scan

open Scanning Session

variable {H : Horizon} {base : Reference} {x : Json} {t : Tracker Component} {s s' : Session}

/-! ## Ranks -/

open Classical in
/-- How much a loading walk may put in place at a node and below it: nothing, as there are no
references; nothing, as the references are settled; or something. -/
noncomputable def unrest (o : Options) (x : Json) (t : Tracker Component) : Nat :=
  if x.Throughout Bare then 0 else if Quiet t.machine o t.current x then 1 else 2

theorem unrest_eq_zero {o : Options} (h : x.Throughout Bare) : unrest o x t = 0 := if_pos h

theorem unrest_le_one {o : Options} (h : Quiet t.machine o t.current x) : unrest o x t ≤ 1 := by
  unfold unrest
  split
  · omega
  · exact Nat.le_refl 1

/-- There is no more below a node than at it. -/
theorem unrest_kid {o : Options} {k : Segment × Json} (hk : k ∈ x.kids)
    (hquiet : Quiet t.machine o t.current x →
      Quiet t.machine o (t.current.bind (t.machine.step · k.1)) k.2) :
    unrest o k.2 (t.move k.1) ≤ unrest o x t := by
  by_cases hbare : x.Throughout Bare
  · rw [unrest_eq_zero (hbare.kid hk)]
    exact Nat.zero_le _
  · by_cases hx : Quiet t.machine o t.current x
    · have hone : unrest o x t = 1 := by
        unfold unrest
        rw [if_neg hbare, if_pos hx]
      rw [hone]
      exact unrest_le_one (hquiet hx)
    · have htwo : unrest o x t = 2 := by
        unfold unrest
        rw [if_neg hbare, if_neg hx]
      rw [htwo]
      unfold unrest
      split
      · omega
      · split <;> omega

/-- The rank of a node for a loading walk. -/
noncomputable def loadRank (o : Options) (x : Json) (t : Tracker Component) : Nat × Nat :=
  (unrest o x t, sizeOf x)

theorem lex_of_le_of_lt {a b : Nat × Nat} (h₁ : a.1 ≤ b.1) (h₂ : a.2 < b.2) :
    WellFoundedRelation.rel a b := by
  obtain ⟨a₁, a₂⟩ := a
  obtain ⟨b₁, b₂⟩ := b
  rcases Nat.lt_or_eq_of_le h₁ with hlt | heq
  · exact .left _ _ hlt
  · cases heq
    exact .right _ h₂

theorem lex_of_lt {a b : Nat × Nat} (h : a.1 < b.1) : WellFoundedRelation.rel a b := by
  obtain ⟨a₁, a₂⟩ := a
  obtain ⟨b₁, b₂⟩ := b
  exact .left _ _ h

theorem sizeOf_filter_le {α : Type} [SizeOf α] (p : α → Bool) (as : List α) :
    sizeOf (as.filter p) ≤ sizeOf as := by
  induction as with
  | nil => exact Nat.le_refl _
  | cons a as ih =>
    by_cases h : p a = true
    · simpa [h] using ih
    · simp [h]
      omega

/-- What is left of a reference node without its special members is smaller. -/
theorem sizeOf_withoutRef (h : x.refText?.isSome) : sizeOf x.withoutRef < sizeOf x := by
  obtain ⟨text, htext⟩ := Option.isSome_iff_exists.mp h
  obtain ⟨ms, rfl, hfind⟩ := object_of_refText? htext
  have key : ∀ ms : List (String × Json), (refKey, Json.string text) ∈ ms →
      sizeOf (ms.filter fun m => m.1 ≠ refKey && m.1 ≠ adornmentKey) < sizeOf ms := by
    intro ms hmem
    induction ms with
    | nil => cases hmem
    | cons m ms ih =>
      rcases List.mem_cons.mp hmem with rfl | hmem
      · have := sizeOf_filter_le (fun m : String × Json => m.1 ≠ refKey && m.1 ≠ adornmentKey) ms
        simp at this ⊢
        omega
      · have := ih hmem
        by_cases hm : (m.1 ≠ refKey && m.1 ≠ adornmentKey) = true
        · rw [List.filter_cons, if_pos hm, List.cons.sizeOf_spec, List.cons.sizeOf_spec]
          omega
        · rw [List.filter_cons, if_neg hm, List.cons.sizeOf_spec]
          omega
  have := key ms (OrderedMap.mem_of_find? hfind)
  simpa [withoutRef] using this

/-! ## Walks -/

/-- All scans come to an end while less than so much room is left. -/
def Halting (H : Horizon) (n : Nat) : Prop :=
  ∀ {s : Session}, s.Within H → s.room H < n → ∀ id phase start,
    Halts (fun b => scanFrom b id phase start) s

/-- What walks within a horizon go through. -/
structure Roaming (H : Horizon) (n : Nat) (x : Json) (t : Tracker Component) (s : Session) :
    Prop where
  within : s.Within H
  room : s.room H ≤ n
  tame : x.Throughout H.Tame
  machine : t.machine = H.dialect.machine

theorem Roaming.kid {n : Nat} (h : Roaming H n x t s) {k : Segment × Json} (hk : k ∈ x.kids) :
    Roaming H n k.2 (t.move k.1) s :=
  ⟨h.within, h.room, h.tame.kid hk, h.machine⟩

theorem Within.enter (h : s.Within H) (r : Reference) : (s.enter r).Within H :=
  ⟨⟨h.sound.wf, h.sound.reads, h.sound.faithful⟩, h.stocked, h.dialect, h.options⟩

section Steps

variable (hclosed : H.Closed) (hbase : ∃ url ∈ H.urls, base.url = some url)
include hclosed hbase

/-- What other walks do to the state does not matter. -/
theorem Roaming.stable {n : Nat} {phase : Phase} {x' : Json} {t' : Tracker Component}
    (h : Roaming H n x t s) (h' : Roaming H n x' t' s)
    (hleads : Walk.Leads scope (fun b => visitor (scanFrom b) phase base) x' t' s s') :
    Roaming H n x t s' := by
  obtain ⟨b, m, ⟨y, e⟩, hwalk⟩ := hleads
  have hmachine : t'.machine = s.dialect.machine := by rw [h'.machine, h'.within.dialect]
  have hev := evolves_of_node (evolves_scanFrom b) h'.within.sound.wf hmachine hwalk
  refine ⟨?_, by rw [room_of_resolving hev.resolving]; exact h.room, h.tame, h.machine⟩
  by_cases hphase : phase = .load
  · subst hphase
    exact (loaded_of_node hclosed (within_scanFrom hclosed b) hbase h'.within h'.tame h'.machine
      hwalk).1
  · exact within_of_node hclosed (within_scanFrom hclosed b) hbase hphase h'.within h'.tame
      h'.machine hwalk

theorem Roaming.admits {n : Nat} (h : Roaming H n x t s) {r : Reference}
    (hr : reference? s.options base x t = some r) : H.Admits r :=
  h.tame.here.admits hclosed hbase (tag_mem_components h.machine) hr

/-- While a reference is resolved that was not being resolved before, less room is left. -/
theorem Roaming.entered {n : Nat} (h : Roaming H n x t s) {r : Reference}
    {state : Option Nat} {id : ContentId} {s₁ : Session}
    (hr : reference? s.options base x t = some r) (hfree : s.isActive r = false)
    (look : Loads r state s (.ok id) s₁) (g : Registry) :
    ((s₁.withRegistry g).enter r).Within H ∧ ((s₁.withRegistry g).enter r).room H < n := by
  have hadmits := h.admits hclosed hbase hr
  have hs₁ := within_of_loads hclosed hadmits h.within look
  have hev := evolves_of_loads h.within.sound.wf look
  have hs₂ : (s₁.withRegistry g).Within H :=
    ⟨⟨hs₁.sound.wf, hs₁.sound.reads, hs₁.sound.faithful⟩, hs₁.stocked, hs₁.dialect, hs₁.options⟩
  refine ⟨Within.enter hs₂ r, ?_⟩
  have hfree' : (s₁.withRegistry g).isActive r = false := (hev.isActive r).trans hfree
  have hlt := room_enter hadmits.id hfree'
  have heq : (s₁.withRegistry g).room H = s.room H := room_of_resolving hev.resolving
  have := h.room
  omega

/-- A loading walk comes to an end if the scans do that it asks for. -/
theorem load_comes {n : Nat} (hhalts : Halting H n) (h : Roaming H n x t s) :
    ∃ out s', Walk.Comes scope (fun b => visitor (scanFrom b) .load base) [] x t s out s' := by
  refine Walk.node_comes (loadRank H.options) (I := Roaming H n)
    (fun h h' => h.stable hclosed hbase h') ?pass ?visit complete_comes h []
  case pass =>
    intro x t s h hsite k hk
    refine ⟨h.kid hk, lex_of_le_of_lt (unrest_kid hk fun hquiet => ?_) (kids_lt hk)⟩
    cases hquiet with
    | held visited => exact absurd (eligible_eq_false.mp hsite) visited
    | plain unread below => exact below k hk
  case visit =>
    intro x t s h hsite
    have hsite := eligible_iff.mp hsite
    obtain ⟨r, s₁, hcomes⟩ : Halts (fun b => load (scanFrom b) base x t) s :=
      halts_load h.within.sound.wf fun r id s₁ hr _ hfree look => by
        obtain ⟨hwithin, hroom⟩ := h.entered hclosed hbase hr hfree look s₁.registry
        exact hhalts hwithin hroom id .load t.current
    refine ⟨r, s₁, hcomes, fun d hd => ?_⟩
    subst hd
    obtain ⟨b, hends⟩ := hcomes.ends
    have hwithin := within_of_visit hclosed (within_scanFrom hclosed b) hbase .load h.tame.here
      h.machine h.within hends
    have hvisit : Ends (visit (scanFrom b) .load base x t) s (.ok d) s₁ := hends
    have hev := evolves_of_visit (evolves_scanFrom b) h.within.sound.wf
      (h.within.dialect ▸ tag_mem_components h.machine) hvisit
    have hroom : s₁.room H ≤ n := by
      rw [room_of_resolving hev.resolving]
      exact h.room
    rcases hsettle : d.settle x with ⟨new, action⟩
    obtain ⟨-, hfollows⟩ := load_follows hclosed (within_scanFrom hclosed b) hbase h.tame
      h.machine hsite h.within hends hsettle
    simp only
    cases hfollows with
    | plain unread =>
      refine ⟨nofun, fun _ k hk => ⟨⟨hwithin, hroom, h.tame.kid hk, h.machine⟩,
        lex_of_le_of_lt (unrest_kid hk fun hquiet => ?_) (kids_lt hk)⟩⟩
      cases hquiet with
      | plain unread below => exact below k hk
      | held visited hnode =>
        obtain ⟨r₀, rfl, hholds, -⟩ := h.tame.here.ofNode? hnode
        rw [hholds.text] at unread
        cases unread
    | held => exact ⟨nofun, nofun⟩
    | @merged _ r _ read tame ref treatment holds merges below =>
      refine ⟨nofun, fun _ k hk => ⟨⟨hwithin, hroom, tame.kid hk, h.machine⟩, ?_⟩⟩
      obtain ⟨text, htext, hr⟩ := Option.map_eq_some_iff.mp ref
      rcases below k hk with hk | hbare
      · refine lex_of_le_of_lt (unrest_kid hk fun hquiet => ?_) (kids_lt hk)
        cases hquiet with
        | plain unread =>
          rcases unread with hanonymous | hnone
          · exact absurd hanonymous hsite
          · rw [htext] at hnone
            cases hnone
        | held visited hnode stays below =>
          simp only [hnode] at hr
          subst hr
          exact below treatment k hk
      · refine lex_of_lt ?_
        show unrest H.options k.2 (t.move k.1) < unrest H.options x t
        rw [unrest_eq_zero hbare]
        have hnot : ¬x.Throughout Bare := fun hx => by
          have hmember : x.member? refKey = none := hx.here
          rw [refText?_of_member?.mp htext] at hmember
          cases hmember
        unfold unrest
        rw [if_neg hnot]
        split <;> omega
    | spliced read tame ref treatment quiet =>
      refine ⟨fun _ => ⟨⟨hwithin, hroom, tame, h.machine⟩, lex_of_lt ?_⟩, nofun⟩
      obtain ⟨text, htext, hr⟩ := Option.map_eq_some_iff.mp ref
      have hnot : ¬Quiet t.machine H.options t.current x := by
        intro hquiet
        cases hquiet with
        | plain unread =>
          rcases unread with hanonymous | hnone
          · exact hsite hanonymous
          · rw [htext] at hnone
            cases hnone
        | held visited hnode stays =>
          simp only [hnode] at hr
          subst hr
          exact stays treatment
      have hbare : ¬x.Throughout Bare := fun hx => hnot (quiet_of_bare hx)
      have htwo : unrest H.options x t = 2 := by
        unfold unrest
        rw [if_neg hbare, if_neg hnot]
      show unrest H.options _ t < unrest H.options x t
      have := unrest_le_one quiet
      omega

/-- So does a walk in another phase. -/
theorem other_comes {n : Nat} (hhalts : Halting H n) {phase : Phase} (hphase : phase ≠ .load)
    (h : Roaming H n x t s) (pending : List Completion) :
    ∃ out s', Walk.Comes scope (fun b => visitor (scanFrom b) phase base) pending x t s out s' := by
  refine Walk.node_comes (fun x _ => sizeOf x) (I := Roaming H n)
    (fun h h' => h.stable hclosed hbase h') ?pass ?visit complete_comes h pending
  case pass => exact fun h _ k hk => ⟨h.kid hk, kids_lt hk⟩
  case visit =>
    intro x t s h hsite
    have hhalts : Halts (fun b => visit (scanFrom b) phase base x t) s := by
      cases phase with
      | load => exact absurd rfl hphase
      | collect => exact halts_collect
      | settle =>
        refine halts_settle h.within.sound.wf fun r id s₁ g hr hfree look => ?_
        obtain ⟨hwithin, hroom⟩ := h.entered hclosed hbase hr hfree look g
        refine halts_rescan (hhalts hwithin hroom id .load t.current) fun y s₂ hcomes => ?_
        obtain ⟨b, hends⟩ := hcomes.ends
        have hev := evolves_scanFrom b hends hwithin.sound.wf
        refine hhalts ((within_scanFrom hclosed b).within hwithin hends) ?_ id .settle t.current
        rwa [room_of_resolving hev.resolving]
    obtain ⟨r, s₁, hcomes⟩ := hhalts
    refine ⟨r, s₁, hcomes, fun d hd => ?_⟩
    subst hd
    obtain ⟨b, hends⟩ := hcomes.ends
    have hwithin := within_of_visit hclosed (within_scanFrom hclosed b) hbase phase h.tame.here
      h.machine h.within hends
    have hev := evolves_of_visit (evolves_scanFrom b) h.within.sound.wf
      (h.within.dialect ▸ tag_mem_components h.machine) hends
    have hroom : s₁.room H ≤ n := by
      rw [room_of_resolving hev.resolving]
      exact h.room
    rcases hsettle : d.settle x with ⟨new, action⟩
    refine ⟨fun hrevisit => ?_, fun hdescend k hk => ?_⟩
    · simp only at hrevisit
      subst hrevisit
      rcases follows_of_visit hphase h.within.sound.wf hends hsettle nofun with
        ⟨heq, -⟩ | ⟨-, rfl, hsome⟩
      · cases heq
      · exact ⟨⟨hwithin, hroom, Horizon.tame_withoutRef h.tame, h.machine⟩,
          sizeOf_withoutRef hsome⟩
    · simp only at hdescend
      subst hdescend
      rcases follows_of_visit hphase h.within.sound.wf hends hsettle nofun with
        ⟨-, rfl⟩ | ⟨heq, -⟩
      · exact ⟨⟨hwithin, hroom, h.tame.kid hk, h.machine⟩, kids_lt hk⟩
      · cases heq

end Steps

/-- Scans within a closed horizon come to an end; by induction on the room that is left. -/
theorem halting (hclosed : H.Closed) (n : Nat) : Halting H n := by
  induction n with
  | zero => exact fun _ hroom => absurd hroom (Nat.not_lt_zero _)
  | succ n ih =>
    intro s hs hroom id phase start
    refine halts_scanFrom fun c tree hc held => ?_
    obtain ⟨c', hc', hbody⟩ := content?_of_tree? held
    cases hc.symm.trans hc'
    have hroaming : Roaming H n tree (.start s.dialect.machine start) s :=
      ⟨hs, Nat.lt_succ_iff.mp hroom, hs.stocked.tree held, congrArg Dialect.machine hs.dialect⟩
    have hbase := hs.stocked.url hs.sound.wf hc hbody
    by_cases hphase : phase = .load
    · subst hphase
      exact load_comes hclosed hbase ih hroaming
    · exact other_comes hclosed hbase ih hphase hroaming []

end Scan

end ApiBundle
