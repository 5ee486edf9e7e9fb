import ApiBundle.Proofs.Dialect.Conditions
import ApiBundle.Proofs.Ending
import ApiBundle.Proofs.OrderedMap
import ApiBundle.Proofs.Registry.Assembly
import ApiBundle.Proofs.Registry.Naming
import ApiBundle.Proofs.Tree.Insert

/-!
# The ways to definitions

A state at which a component is defined is entered from one hop only, by a name; that hop is reached
from the whole description by the names of the component's container and in no other way. So content
is defined exactly at the direct members of containers (`Dialect.place_of_definition`). Names of
definitions consist of name characters, which makes the name that a definition would like to have in
its container the one that it has.
-/

namespace ApiBundle

namespace Label

theorem isNameChar_of_namesOnly {s : CharSet} {c : Char} (h : namesOnly s = true)
    (hc : s.mem c = true) : isNameChar c := by
  obtain ⟨hascii, hnames⟩ := Bool.and_eq_true_iff.mp h
  obtain ⟨range, hrange, hle⟩ := CharSet.exists_of_contains hc
  have hlt : c.toNat < 128 := by
    have hbound : range.2 < 128 := by simpa using List.all_eq_true.mp hascii range hrange
    omega
  have hname := List.all_eq_true.mp hnames c.toNat (List.mem_range.mpr hlt)
  rw [show s.ranges.contains c.toNat = true from hc] at hname
  simpa using hname

/-- The names that such a label allows are made of name characters. -/
theorem isName_of_isForNames {label : Label} {name : String} (h : label.isForNames = true)
    (ha : label.allows name = true) : IsName name := by
  unfold isForNames at h
  split at h
  · intro c hc
    have hspans := Pattern.spans_of_occursIn_anchored ha
    obtain ⟨s, hs, hmem⟩ := hspans.exists_mem_sets c hc
    exact isNameChar_of_namesOnly (List.all_eq_true.mp h s hs) hmem
  · cases h

end Label

namespace Machine

variable {τ : Type} {m : Machine τ} {start q q' : Nat} {path : List Segment} {segment : Segment}

/-- A step is made along an edge that takes it. -/
theorem exists_edge_of_step (h : m.step q segment = some q') :
    ∃ e, (q, e) ∈ m.edges ∧ e.target = q' ∧ e.label.takes segment = true := by
  have key : ∀ s : StateRecord τ, m.states[q]? = some s → ∀ e ∈ s.edges, (q, e) ∈ m.edges := by
    intro s hs e he
    refine List.mem_flatMap.mpr ⟨(s, q), ?_, List.mem_map.mpr ⟨e, he, rfl⟩⟩
    rw [List.mem_zipIdx_iff_getElem?]
    simpa using hs
  cases segment with
  | key name =>
    obtain ⟨s, hs, hkey⟩ := Option.bind_eq_some_iff.mp h
    unfold StateRecord.onKey at hkey
    cases hexact : OrderedMap.find? s.exact name with
    | some target =>
      rw [hexact] at hkey
      cases hkey
      refine ⟨⟨name, .exact name, q'⟩, key s hs _ ?_, rfl, by simp [Label.takes, Label.allows]⟩
      refine List.mem_append_left _ (List.mem_map.mpr ⟨(name, q'), ?_, rfl⟩)
      exact OrderedMap.mem_of_find? hexact
    | none =>
      rw [hexact] at hkey
      obtain ⟨e, he, rfl⟩ := Option.map_eq_some_iff.mp hkey
      have hallows := List.find?_some he
      exact ⟨e, key s hs e (List.mem_append_right _ (List.mem_of_find?_eq_some he)), rfl, hallows⟩
  | index i =>
    obtain ⟨s, hs, hindex⟩ := Option.bind_eq_some_iff.mp h
    obtain ⟨e, he, rfl⟩ := Option.map_eq_some_iff.mp hindex
    have hany := List.find?_some he
    exact ⟨e, key s hs e (List.mem_append_right _ (List.mem_of_find?_eq_some he)), rfl, hany⟩

theorem run_append (m : Machine τ) (state : Option Nat) (path rest : List Segment) :
    m.run state (path ++ rest) = m.run (m.run state path) rest :=
  List.foldl_append

/-- The last edge of a way to a state that is not where ways start. -/
theorem exists_last_edge (hne : q ≠ start) (h : m.run (some start) path = some q) :
    ∃ front segment p e, path = front ++ [segment] ∧ m.run (some start) front = some p ∧
      (p, e) ∈ m.edges ∧ e.target = q ∧ e.label.takes segment = true := by
  rcases List.eq_nil_or_concat path with rfl | ⟨front, segment, rfl⟩
  · exact absurd (Option.some.inj h).symm hne
  · rw [List.concat_eq_append, run_append] at h
    obtain ⟨p, hp, hstep⟩ := Option.bind_eq_some_iff.mp
      (show (m.run (some start) front).bind (m.step · segment) = some q from h)
    obtain ⟨e, he, htarget, htakes⟩ := exists_edge_of_step hstep
    exact ⟨front, segment, p, e, List.concat_eq_append, hp, he, htarget, htakes⟩

/-- Whoever is at the end of an only way that goes on from another one has come along both. -/
theorem eq_of_onlyWay? {front : List Segment} {names : List String} {target : Nat}
    (hback : ∀ p e, (p, e) ∈ m.edges → e.target ≠ start)
    (hfront : ∀ path, m.run (some start) path = some q → path = front)
    (h : m.onlyWay? q names = some target) (hpath : m.run (some start) path = some target) :
    path = front ++ names.map Segment.key := by
  induction names generalizing q front with
  | nil =>
    cases h
    rw [List.map_nil, List.append_nil]
    exact hfront path hpath
  | cons name rest ih =>
    unfold onlyWay? at h
    split at h
    · cases h
    · next q₁ hstep =>
      split at h
      · next hentered =>
        have hnext : ∀ path, m.run (some start) path = some q₁ → path = front ++ [.key name] := by
          intro path hpath
          have hne : q₁ ≠ start := by
            rintro rfl
            obtain ⟨e, he, htarget, -⟩ := exists_edge_of_step hstep
            exact hback q e he htarget
          obtain ⟨before, segment, p, e, rfl, hp, he, htarget, htakes⟩ := exists_last_edge hne hpath
          have hedge := List.all_eq_true.mp hentered (p, e) he
          simp only [htarget, ne_eq, not_true, decide_false, Bool.false_or, Bool.and_eq_true,
            decide_eq_true_eq] at hedge
          obtain ⟨rfl, hlabel⟩ := hedge
          rw [hlabel] at htakes
          have hsegment : segment = .key name := by
            cases segment with
            | key other => simpa [Label.takes, Label.allows, eq_comm] using htakes
            | index i => simp [Label.takes] at htakes
          rw [hfront before hp, hsegment]
        exact (ih hnext h).trans (by simp)
      · cases h

end Machine

namespace Dialect

open Machine

variable {d : Dialect} {c : Component} {q : Nat} {home : Pointer} {path : List Segment}

theorem lt_of_tag (h : d.machine.tag q = some c) : q < d.machine.size := by
  obtain ⟨s, hs, -⟩ := Option.bind_eq_some_iff.mp h
  exact (Array.getElem?_eq_some_iff.mp hs).1

/-- The states of a dialect's components come first, in the order of their kinds. -/
theorem tag_eq (d : Dialect) (q : Nat) : d.machine.tag q = d.kinds[q]?.map (Component.mk d) := by
  obtain ⟨hsize, htags⟩ := Bool.and_eq_true_iff.mp d.isRouted.kinds
  by_cases hq : q < d.machine.size
  · simpa using List.all_eq_true.mp htags q (List.mem_range.mpr hq)
  · have hnone : d.kinds[q]? = none :=
      List.getElem?_eq_none (Nat.le_trans (of_decide_eq_true hsize) (Nat.le_of_not_lt hq))
    rw [hnone]
    cases htag : d.machine.tag q with
    | none => rfl
    | some c => exact absurd (lt_of_tag htag) hq

/-- The states of a dialect's machine are for components of the dialect. -/
theorem tag_mem_components (h : d.machine.tag q = some c) : c ∈ d.components := by
  rw [tag_eq] at h
  obtain ⟨kind, hkind, rfl⟩ := Option.map_eq_some_iff.mp h
  exact List.mem_map.mpr ⟨kind, List.mem_of_getElem? hkind, rfl⟩

/-- What a component of a dialect defines is a component of the dialect. -/
theorem mem_components_of_defined? {c' : Component} (hc : c ∈ d.components)
    (h : c.defined? = some c') : c' ∈ d.components := by
  have hd : c.dialect = d := by
    obtain ⟨kind, -, rfl⟩ := List.mem_map.mp hc
    rfl
  subst hd
  obtain ⟨d, k⟩ := c
  cases d <;> cases k <;> cases h <;> decide

theorem mem_components_of_definedAt? (hc : d.definedAt? q = some c) : c ∈ d.components := by
  obtain ⟨tag, htag, hdefined⟩ := Option.bind_eq_some_iff.mp hc
  exact mem_components_of_defined? (tag_mem_components htag) hdefined

theorem mem_homes (hc : c ∈ d.components) (hhome : c.container? = some home) : home ∈ d.homes :=
  List.mem_filterMap.mpr ⟨c, hc, hhome⟩

/-- Whether names are those in a container. -/
def namesIn (home : Pointer) : Naming → Bool
  | .none => false
  | .pathKey => true
  | .container texts => texts.any fun text => (Pointer.parse text).toOption = some home

/-- A direct member of its container would like to keep its name. -/
theorem preferredName_push {name : String} (hc : c ∈ d.components)
    (hhome : c.container? = some home) (hname : c.info.naming = .pathKey ∨ IsName name)
    (location : Option Uri) : c.preferredName (home.push name) location = name := by
  have key : ∀ d ∈ [swagger2, openApi3], ∀ c ∈ d.components,
      c.container?.all (namesIn · c.info.naming) = true := by decide +kernel
  have hnames := key d (by cases d <;> simp) c hc
  have hlast : (home.push name).last? = some name := List.getLast?_concat
  rw [hhome, Option.all_some] at hnames
  unfold Component.preferredName
  cases hnaming : c.info.naming with
  | none =>
    rw [hnaming] at hnames
    cases hnames
  | pathKey => simp [hlast]
  | container texts =>
    rw [hnaming] at hnames hname
    have hname : IsName name := hname.resolve_left nofun
    obtain ⟨text, htext, hparse⟩ := List.any_eq_true.mp hnames
    have hok : Pointer.parse text = .ok home := ok_of_toOption (by simpa using hparse)
    have hmember : Component.isMemberOf (home.push name) text = true := by
      unfold Component.isMemberOf
      rw [hok]
      simp [Pointer.startsWith, Pointer.push]
    obtain ⟨found, hfound⟩ := Option.isSome_iff_exists.mp
      (List.find?_isSome.mpr ⟨text, htext, hmember⟩)
    simp only [hfound, Option.bind_some, hlast]
    exact fixName_eq hname

/-- Content is defined at the direct members of containers, under the names that they have there. -/
theorem place_of_definition (hrun : d.machine.run (some d.model) path = some q)
    (hc : d.definedAt? q = some c) : ∃ home name, c.container? = some home ∧
      path = home.keys ++ [.key name] ∧
      ∀ location, c.preferredName (home.push name) location = name := by
  have hcheck := d.isRouted.inContainers
  unfold definesInContainers at hcheck
  obtain ⟨hmodel, hedges⟩ := Bool.and_eq_true_iff.mp hcheck
  have hback : ∀ p e, (p, e) ∈ d.machine.edges → e.target ≠ d.model := fun p e he => by
    have := List.all_eq_true.mp hedges (p, e) he
    simp only [Bool.and_eq_true, decide_eq_true_eq] at this
    exact this.1
  have hne : q ≠ d.model := by
    rintro rfl
    rw [hc] at hmodel
    simp at hmodel
  obtain ⟨front, segment, p, e, rfl, hp, he, rfl, htakes⟩ := exists_last_edge hne hrun
  have hfor : d.isFor p e = true :=
    (Bool.and_eq_true_iff.mp (List.all_eq_true.mp hedges (p, e) he)).2
  unfold isFor at hfor
  rw [hc] at hfor
  simp only at hfor
  cases hhome : c.container? with
  | none => simp [hhome] at hfor
  | some home =>
    simp only [hhome, Bool.and_eq_true, Bool.or_eq_true, decide_eq_true_eq] at hfor
    obtain ⟨⟨hway, hindex⟩, hlabel⟩ := hfor
    have hfront : front = [] ++ home.tokens.map Segment.key := by
      refine eq_of_onlyWay? hback (fun path hpath => ?_) hway hp
      rcases List.eq_nil_or_concat path with rfl | ⟨before, last, rfl⟩
      · rfl
      · rw [List.concat_eq_append, run_append] at hpath
        obtain ⟨p', -, hstep⟩ := Option.bind_eq_some_iff.mp
          (show (d.machine.run (some d.model) before).bind (d.machine.step · last) = _ from hpath)
        obtain ⟨e', he', htarget, -⟩ := exists_edge_of_step hstep
        exact absurd htarget (hback p' e' he')
    have hmem := mem_components_of_definedAt? hc
    cases segment with
    | index i => exact absurd (by simpa [Label.takes] using htakes) hindex
    | key name =>
      refine ⟨home, name, rfl, by rw [hfront]; rfl, preferredName_push hmem hhome ?_⟩
      exact hlabel.imp_right fun hnames => Label.isName_of_isForNames hnames htakes

/-- The state of a component is the one with its tag. -/
theorem state?_eq_some_iff : d.state? c = some q ↔ d.machine.tag q = some c := by
  have key : ∀ d ∈ [swagger2, openApi3], d.kinds.Nodup := by decide
  have hnodup : d.kinds.Nodup := key d (by cases d <;> simp)
  obtain ⟨d', kind⟩ := c
  rw [tag_eq, Option.map_eq_some_iff]
  simp only [state?, stateOf, Component.mk.injEq]
  constructor
  · intro h
    split at h
    · next hc =>
      obtain ⟨rfl, hkind⟩ := hc
      cases h
      exact ⟨kind, List.getElem?_idxOf hkind, rfl, rfl⟩
    · cases h
  · rintro ⟨_, hget, rfl, rfl⟩
    obtain ⟨hlt, rfl⟩ := List.getElem?_eq_some_iff.mp hget
    rw [if_pos ⟨rfl, List.getElem_mem hlt⟩, hnodup.idxOf_getElem]

theorem step_eq_of_edgesAt {q' : Nat} (h : d.edgesAt q = d.edgesAt q') :
    d.machine.step q = d.machine.step q' := by
  unfold edgesAt at h
  funext segment
  unfold Machine.step Machine.stepKey Machine.stepIndex
  cases hs : d.machine.states[q]? with
  | none =>
    cases hs' : d.machine.states[q']? with
    | none => rfl
    | some s' => simp [hs, hs'] at h
  | some s =>
    cases hs' : d.machine.states[q']? with
    | none => simp [hs, hs'] at h
    | some s' =>
      simp only [hs, hs', Option.map_some, Option.some.injEq, Prod.mk.injEq] at h
      cases segment <;> simp [StateRecord.onKey, StateRecord.onIndex, h.1, h.2]

/-- A step from where content is defined leads where it leads from where content is referred to. -/
theorem step_eq_of_definition {site : Nat} (hsite : d.machine.tag site = some c)
    (hc : d.definedAt? q = some c) : d.machine.step site = d.machine.step q := by
  obtain ⟨tag, htag, -⟩ := Option.bind_eq_some_iff.mp hc
  have hpair := d.isRouted.likeSites
  have hpair := List.all_eq_true.mp hpair site (List.mem_range.mpr (lt_of_tag hsite))
  have hpair := List.all_eq_true.mp hpair q (List.mem_range.mpr (lt_of_tag htag))
  rw [hsite, hc] at hpair
  exact step_eq_of_edgesAt (by simpa using hpair)

/-- No definition has the name that makes a reference node. -/
theorem ne_refKey_of_definition {front : List Segment} {name : String}
    (hrun : d.machine.run (some d.model) (front ++ [.key name]) = some q)
    (hc : d.definedAt? q = some c) : name ≠ refKey := by
  rintro rfl
  rw [run_append] at hrun
  obtain ⟨p, -, hstep⟩ := Option.bind_eq_some_iff.mp
    (show (d.machine.run (some d.model) front).bind (d.machine.step · _) = some q from hrun)
  obtain ⟨e, he, rfl, htakes⟩ := exists_edge_of_step hstep
  have hbeside := List.all_eq_true.mp d.isRouted.besideReferences (p, e) he
  rw [hc, htakes] at hbeside
  cases hbeside

/-- A reference on the way to a container merges with what is beside it. -/
theorem merge_of_prefix (hhome : home ∈ d.homes) (hpath : path <+: home.keys)
    (htag : (d.machine.run (some d.model) path).bind d.machine.tag = some c)
    (hconforming : c.info.conforming = true) : c.info.merge = true := by
  have hway := List.all_eq_true.mp d.isRouted.merges home hhome
  have hway := List.all_eq_true.mp hway path.length
    (List.mem_range.mpr (Nat.lt_succ_of_le hpath.length_le))
  rw [← List.prefix_iff_eq_take.mp hpath, htag, Option.all_some, hconforming] at hway
  simpa using hway

end Dialect

end ApiBundle
