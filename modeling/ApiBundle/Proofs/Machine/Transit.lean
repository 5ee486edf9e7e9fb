import ApiBundle.Proofs.Machine.Assembly

/-!
# Declared paths

What declaring a path does to a machine. Following labels walks along the edges that are there and
from the first missing one on makes a hop for every label (`Machine.Follows`): a hop that was just
made has no edges, so once a label is missing all later ones are. Declaring a path follows all
labels but the last, whose edge has to lead to the target (`Machine.Transits`). On machines that
were assembled by any calls this builds exactly the path that was declared
(`Machine.declaresPaths_after`).
-/

namespace ApiBundle

namespace Machine

variable {τ : Type} {m m' : Machine τ} {q p source target : Nat} {text : String} {label : Label}
  {labels : List String}

/-! ## Hops -/

/-- The machine with a hop under a label. -/
def withHop (m : Machine τ) (q : Nat) (text : String) (label : Label) : Machine τ :=
  (m.withState none).withEdge q text label m.size

theorem size_withHop (m : Machine τ) (q : Nat) (text : String) (label : Label) :
    (m.withHop q text label).size = m.size + 1 :=
  (size_withEdge ..).trans (Array.size_push ..)

section Hop

variable (hlabel : Label.parse text = .ok label) (hq : q < m.size)
  (hmissing : m.edge? q text = none)

include hlabel hq hmissing

theorem edge?_withHop (state : Nat) (other : String) :
    (m.withHop q text label).edge? state other =
      if q = state ∧ text = other then some m.size else m.edge? state other := by
  have hq' : q < (m.withState none).size := Nat.lt_of_lt_of_le hq (extends_withState m).size
  rw [withHop, edge?_withEdge hlabel hq' ((edge?_withState ..).trans hmissing), edge?_withState]

theorem extends_withHop : m.Extends (m.withHop q text label) := by
  have hq' : q < (m.withState none).size := Nat.lt_of_lt_of_le hq (extends_withState m).size
  exact (extends_withState m).trans
    (extends_withEdge hlabel hq' ((edge?_withState ..).trans hmissing) m.size)

end Hop

theorem Closed.withHop (h : m.Closed) (q : Nat) (text : String) (label : Label) :
    (m.withHop q text label).Closed := by
  have hsize : (m.withState none).size = m.size + 1 := Array.size_push ..
  exact (h.withState none).withEdge (hsize ▸ Nat.lt_succ_self _) q text label

/-! ## Following labels -/

/-- How following labels from a state ends, and what it makes of the machine. -/
inductive Follows : Machine τ → Nat → List String → Except BundleError Nat → Machine τ → Prop where
  | done {m : Machine τ} {q : Nat} : Follows m q [] (.ok q) m
  | edge {m m' : Machine τ} {q next : Nat} {text : String} {rest : List String}
      {r : Except BundleError Nat} (present : m.edge? q text = some next)
      (after : Follows m next rest r m') : Follows m q (text :: rest) r m'
  | hop {m m' : Machine τ} {q : Nat} {text : String} {label : Label} {rest : List String}
      {r : Except BundleError Nat} (found : q < m.size) (missing : m.edge? q text = none)
      (readable : Label.parse text = .ok label)
      (after : Follows (m.withHop q text label) m.size rest r m') : Follows m q (text :: rest) r m'
  | unreadable {m : Machine τ} {q : Nat} {text : String} {rest : List String} {e : BundleError}
      (found : q < m.size) (missing : m.edge? q text = none)
      (unread : Label.parse text = .error e) : Follows m q (text :: rest) (.error e) m
  | unknown {m : Machine τ} {q : Nat} {text : String} {rest : List String} (absent : m.size ≤ q) :
      Follows m q (text :: rest) (.error (.unknownState q)) m

theorem follows_follow (m : Machine τ) (q : Nat) (labels : List String) :
    Follows m q labels ((follow q labels).run.run m).1 ((follow q labels).run.run m).2 := by
  induction labels generalizing m q with
  | nil => exact .done
  | cons text rest ih =>
    rw [follow, run_bind, run_record]
    cases hs : m.states[q]? with
    | none => exact .unknown (Array.getElem?_eq_none_iff.mp hs)
    | some s =>
      have hedge : m.edge? q text = s.target? text := by
        rw [edge?, hs, Option.bind_some]
      simp only
      cases htarget : s.target? text with
      | some next => exact .edge (hedge.trans htarget) (ih m next)
      | none =>
        have hq : q < m.size := (Array.getElem?_eq_some_iff.mp hs).1
        simp only
        rw [run_bind, run_readLabel]
        cases hlabel : Label.parse text with
        | error e => exact .unreadable hq (hedge.trans htarget) hlabel
        | ok label =>
          simp only [run_bind, run_addState, run_install]
          exact .hop hq (hedge.trans htarget) hlabel (ih _ m.size)

namespace Follows

variable {r : Except BundleError Nat} {e : BundleError}

theorem grows (h : Follows m q labels r m') : m.Extends m' := by
  induction h with
  | done | unreadable | unknown => exact .refl _
  | edge _ _ ih => exact ih
  | hop hq missing readable _ ih => exact (extends_withHop readable hq missing).trans ih

theorem closed (h : Follows m q labels r m') (hm : m.Closed) : m'.Closed := by
  induction h with
  | done | unreadable | unknown => exact hm
  | edge _ _ ih => exact ih hm
  | hop _ _ _ _ ih => exact ih (hm.withHop _ _ _)

/-- The last hop exists. -/
theorem lt (h : Follows m q labels (.ok p) m') (hm : m.Closed) (hq : q < m.size) :
    p < m'.size := by
  generalize hr : (Except.ok p : Except BundleError Nat) = r at h
  induction h with
  | done =>
    cases hr
    exact hq
  | edge present _ ih => exact ih hm (hm.edge? present) hr
  | @hop m m' q text label rest r hq' missing readable after ih =>
    exact ih (hm.withHop _ _ _) (by rw [size_withHop]; exact Nat.lt_succ_self _) hr
  | unreadable | unknown => cases hr

/-- Afterwards the labels lead to the last hop. -/
theorem along? (h : Follows m q labels (.ok p) m') : m'.along? q labels = some p := by
  generalize hr : (Except.ok p : Except BundleError Nat) = r at h
  induction h with
  | done =>
    cases hr
    rfl
  | edge present after ih =>
    rw [Machine.along?, after.grows.edge present]
    exact ih hr
  | hop hq missing readable after ih =>
    have hhop := (edge?_withHop readable hq missing _ _).trans (if_pos ⟨rfl, rfl⟩)
    rw [Machine.along?, after.grows.edge hhop]
    exact ih hr
  | unreadable | unknown => cases hr

/-- What is missing is made, hop by hop, after what is there. -/
structure MakesHops (m : Machine τ) (q : Nat) (labels : List String) (m' : Machine τ)
    (present missing : List String) : Prop where
  split : labels = present ++ missing
  there : (m.along? q present).isSome
  /-- No more than the present part can be followed. -/
  stops : ∀ text ∈ missing.head?, m.along? q (present ++ [text]) = none
  size : m'.size = m.size + missing.length
  /-- Each missing label leads to a new state, in order. -/
  hops : ∀ i < missing.length,
    m'.along? q (present ++ missing.take (i + 1)) = some (m.size + i)

/-- Where nothing is missing nothing is made, and otherwise nothing leaves the last hop yet. -/
theorem hops (h : Follows m q labels (.ok p) m') :
    ∃ present missing, MakesHops m q labels m' present missing ∧ (missing = [] → m' = m) ∧
      (missing ≠ [] → ∀ text, m'.edge? p text = none) := by
  generalize hr : (Except.ok p : Except BundleError Nat) = r at h
  induction h with
  | @done m q =>
    refine ⟨[], [], ⟨rfl, rfl, fun text htext => ?_, rfl, fun i hi => ?_⟩, fun _ => rfl,
      fun h => absurd rfl h⟩
    · cases htext
    · exact absurd hi (Nat.not_lt_zero i)
  | @edge m m' q next text rest r hedge after ih =>
    obtain ⟨present, missing, hmakes, hsame, hlast⟩ := ih hr
    have hstep (path : List String) : m.along? q (text :: path) = m.along? next path := by
      rw [Machine.along?, hedge, Option.bind_some]
    refine ⟨text :: present, missing, ⟨?_, ?_, ?_, hmakes.size, fun i hi => ?_⟩, hsame, hlast⟩
    · rw [hmakes.split, List.cons_append]
    · rw [hstep]
      exact hmakes.there
    · intro other hother
      rw [List.cons_append, hstep]
      exact hmakes.stops other hother
    · rw [List.cons_append, Machine.along?, after.grows.edge hedge]
      exact hmakes.hops i hi
  | @hop m m' q text label rest r hq hmissing readable after ih =>
    obtain ⟨present, missing, hmakes, hsame, hlast⟩ := ih hr
    have hnew := edge?_withHop readable hq hmissing
    -- nothing leaves a hop that was just made, so all later labels are missing as well
    have hfresh (other : String) : (m.withHop q text label).edge? m.size other = none := by
      rw [hnew, if_neg fun h => Nat.ne_of_lt hq h.1, edge?_eq_none (Nat.le_refl _)]
    have hnil : present = [] := by
      cases present with
      | nil => rfl
      | cons other present =>
        have hthere := hmakes.there
        rw [Machine.along?, hfresh] at hthere
        cases hthere
    subst hnil
    have hrest : rest = missing := hmakes.split
    subst hrest
    have hstep : m'.edge? q text = some m.size :=
      after.grows.edge ((hnew q text).trans (if_pos ⟨rfl, rfl⟩))
    refine ⟨[], text :: rest, ⟨rfl, rfl, ?_, ?_, fun i hi => ?_⟩,
      fun h => absurd h (List.cons_ne_nil text rest), fun _ other => ?_⟩
    · rintro other hother
      cases hother
      rw [List.nil_append, Machine.along?, hmissing, Option.bind_none]
    · rw [hmakes.size, size_withHop, List.length_cons]
      omega
    · rw [List.nil_append, List.take_succ_cons, Machine.along?, hstep, Option.bind_some]
      cases i with
      | zero => simp [Machine.along?]
      | succ i =>
        have hi' : i < rest.length := Nat.lt_of_succ_lt_succ hi
        rw [← List.nil_append (rest.take (i + 1)), hmakes.hops i hi', size_withHop]
        congr 1
        omega
    · by_cases hnil : rest = []
      · subst hnil
        cases after
        cases hr
        exact hfresh other
      · exact hlast hnil other
  | unreadable | unknown => cases hr

/-- Every new edge is one of the path. -/
theorem edge_cases (h : Follows m q labels r m') {state : Nat} {other : String}
    (hedge : m'.edge? state other = some p) : m.edge? state other = some p ∨
      ∃ before after, labels = before ++ other :: after ∧ m'.along? q before = some state := by
  induction h with
  | done | unreadable | unknown => exact .inl hedge
  | @edge m m' q next text rest r present after ih =>
    refine (ih hedge).imp_right ?_
    rintro ⟨before, rest', rfl, hbefore⟩
    refine ⟨text :: before, rest', rfl, ?_⟩
    rw [Machine.along?, after.grows.edge present]
    exact hbefore
  | @hop m m' q text label rest r hq hmissing readable after ih =>
    have hnew := edge?_withHop readable hq hmissing
    rcases ih hedge with hold | ⟨before, rest', rfl, hbefore⟩
    · rw [hnew] at hold
      split at hold
      · next heq =>
        obtain ⟨rfl, rfl⟩ := heq
        exact .inr ⟨[], rest, rfl, rfl⟩
      · exact .inl hold
    · refine .inr ⟨text :: before, rest', rfl, ?_⟩
      rw [Machine.along?, after.grows.edge ((hnew q text).trans (if_pos ⟨rfl, rfl⟩))]
      exact hbefore

/-- From a state that exists, only a missing label that cannot be read stops the way. -/
theorem stopped (h : Follows m q labels (.error e) m') (hm : m.Closed) (hq : q < m.size) :
    ∃ before text after, labels = before ++ text :: after ∧
      m.along? q (before ++ [text]) = none ∧ Label.parse text = .error e := by
  generalize hr : (Except.error e : Except BundleError Nat) = r at h
  induction h with
  | done => cases hr
  | @edge m m' q next text rest r present after ih =>
    obtain ⟨before, bad, rest', rfl, hnone, hbad⟩ := ih hm (hm.edge? present) hr
    refine ⟨text :: before, bad, rest', rfl, ?_, hbad⟩
    rw [List.cons_append, Machine.along?, present]
    exact hnone
  | @hop m m' q text label rest r hq' hmissing readable after ih =>
    have hlt : m.size < (m.withHop q text label).size := by
      rw [size_withHop]
      exact Nat.lt_succ_self _
    obtain ⟨before, bad, rest', rfl, -, hbad⟩ := ih (hm.withHop _ _ _) hlt hr
    refine ⟨text :: before, bad, rest', rfl, ?_, hbad⟩
    rw [List.cons_append, Machine.along?, hmissing, Option.bind_none]
  | @unreadable m q text rest e' found hmissing hbad =>
    cases hr
    exact ⟨[], text, rest, rfl, by rw [List.nil_append, Machine.along?, hmissing, Option.bind_none],
      hbad⟩
  | unknown absent => exact absurd hq (Nat.not_lt.mpr absent)

/-- From a state that does not exist nothing is followed. -/
theorem of_absent (h : Follows m q labels r m') (hq : m.size ≤ q) :
    m' = m ∧ (r = .ok q ∨ r = .error (.unknownState q)) := by
  cases h with
  | done => exact ⟨rfl, .inl rfl⟩
  | edge present => exact absurd (lt_of_edge? present) (Nat.not_lt.mpr hq)
  | hop found | unreadable found => exact absurd found (Nat.not_lt.mpr hq)
  | unknown => exact ⟨rfl, .inr rfl⟩

/-- An edge from the last hop was there from the beginning, as was the way to it. -/
theorem eq_of_edge? (h : Follows m q labels (.ok p) m') {next : Nat}
    (hedge : m'.edge? p text = some next) : m' = m := by
  obtain ⟨_, missing, -, hsame, hlast⟩ := h.hops
  by_cases hmissing : missing = []
  · exact hsame hmissing
  · rw [hlast hmissing] at hedge
    cases hedge

end Follows

/-! ## Declaring a path -/

/-- How declaring a path ends, and what it makes of the machine. -/
inductive Transits (m : Machine τ) (source target : Nat) :
    List String → Except BundleError Unit → Machine τ → Prop where
  | noLabels : Transits m source target [] (.error .noLabels) m
  | noTarget {labels : List String} (nonempty : labels ≠ []) (absent : m.size ≤ target) :
    Transits m source target labels (.error (.unknownState target)) m
  | stopped {m' : Machine τ} {hops : List String} {last : String} {e : BundleError}
      (found : target < m.size) (way : Follows m source hops (.error e) m') :
      Transits m source target (hops ++ [last]) (.error e) m'
  | noSource {m' : Machine τ} {hops : List String} {last : String} {p : Nat}
      (found : target < m.size) (way : Follows m source hops (.ok p) m') (absent : m'.size ≤ p) :
      Transits m source target (hops ++ [last]) (.error (.unknownState p)) m'
  | there {m' : Machine τ} {hops : List String} {last : String} {p : Nat}
      (found : target < m.size) (way : Follows m source hops (.ok p) m')
      (edge : m'.edge? p last = some target) : Transits m source target (hops ++ [last]) (.ok ()) m'
  | conflict {m' : Machine τ} {hops : List String} {last : String} {p present : Nat}
      (found : target < m.size) (way : Follows m source hops (.ok p) m')
      (edge : m'.edge? p last = some present) (elsewhere : present ≠ target) :
      Transits m source target (hops ++ [last])
        (.error (.transitConflict (hops ++ [last]) present target)) m'
  | unreadable {m' : Machine τ} {hops : List String} {last : String} {p : Nat} {e : BundleError}
      (found : target < m.size) (way : Follows m source hops (.ok p) m') (last_lt : p < m'.size)
      (missing : m'.edge? p last = none) (unread : Label.parse last = .error e) :
      Transits m source target (hops ++ [last]) (.error e) m'
  | added {m' : Machine τ} {hops : List String} {last : String} {p : Nat} {label : Label}
      (found : target < m.size) (way : Follows m source hops (.ok p) m') (last_lt : p < m'.size)
      (missing : m'.edge? p last = none) (readable : Label.parse last = .ok label) :
      Transits m source target (hops ++ [last]) (.ok ()) (m'.withEdge p last label target)

theorem transits_transit (m : Machine τ) (source : Nat) (labels : List String) (target : Nat) :
    Transits m source target labels ((transit source labels target).run.run m).1
      ((transit source labels target).run.run m).2 := by
  unfold transit
  rcases List.eq_nil_or_concat labels with rfl | ⟨hops, last, rfl⟩
  · exact .noLabels
  · simp only [List.concat_eq_append, List.getLast?_concat, List.dropLast_concat]
    rw [run_bind, run_record]
    cases ht : m.states[target]? with
    | none => exact .noTarget (by simp) (Array.getElem?_eq_none_iff.mp ht)
    | some t =>
      have hfound : target < m.size := (Array.getElem?_eq_some_iff.mp ht).1
      have hway := follows_follow m source hops
      simp only
      rw [run_bind]
      generalize (follow source hops).run.run m = run at hway ⊢
      obtain ⟨r, m'⟩ := run
      cases r with
      | error e => exact .stopped hfound hway
      | ok p =>
        simp only
        rw [run_bind, run_record]
        cases hs : m'.states[p]? with
        | none => exact .noSource hfound hway (Array.getElem?_eq_none_iff.mp hs)
        | some s =>
          have hedge : m'.edge? p last = s.target? last := by
            rw [edge?, hs, Option.bind_some]
          simp only
          cases htarget : s.target? last with
          | some present =>
            rw [htarget] at hedge
            by_cases heq : present = target
            · subst heq
              simp only [if_true]
              exact .there hfound hway hedge
            · simp only [if_neg heq]
              exact .conflict hfound hway hedge heq
          | none =>
            rw [htarget] at hedge
            simp only
            rw [run_bind, run_readLabel]
            have hlt : p < m'.size := (Array.getElem?_eq_some_iff.mp hs).1
            cases hlabel : Label.parse last with
            | error e => exact .unreadable hfound hway hlt hedge hlabel
            | ok label => exact .added hfound hway hlt hedge hlabel

namespace Follows.MakesHops

variable {present missing : List String} {m'' : Machine τ}

theorem mono (h : MakesHops m q labels m' present missing) (hext : m'.Extends m'')
    (hsize : m''.size = m'.size) : MakesHops m q labels m'' present missing :=
  ⟨h.split, h.there, h.stops, hsize.trans h.size, fun i hi => hext.along? (h.hops i hi)⟩

/-- What can be followed is no longer than the present part. -/
theorem length_le (h : MakesHops m q labels m' present missing) {shared other : List String}
    (hlabels : labels = shared ++ other) (hshared : (m.along? q shared).isSome) :
    missing.length ≤ other.length := by
  have hsplit : present ++ missing = shared ++ other := h.split.symm.trans hlabels
  rcases List.append_eq_append_iff.mp hsplit with ⟨more, rfl, rfl⟩ | ⟨more, rfl, rfl⟩
  · cases more with
    | nil => exact Nat.le_refl _
    | cons text more =>
      -- the label after the present part would be there
      have hstop := h.stops text rfl
      rw [List.append_cons, along?_append, hstop] at hshared
      cases hshared
  · rw [List.length_append]
    exact Nat.le_add_left ..

end Follows.MakesHops

namespace Transits

variable {r : Except BundleError Unit} {e : BundleError}

theorem grows (h : Transits m source target labels r m') : m.Extends m' := by
  cases h with
  | noLabels | noTarget => exact .refl m
  | stopped found way | noSource found way | there found way | conflict found way
  | unreadable found way => exact way.grows
  | added found way hlt missing readable =>
    exact way.grows.trans (extends_withEdge readable hlt missing target)

theorem closed (h : Transits m source target labels r m') (hm : m.Closed) : m'.Closed := by
  cases h with
  | noLabels | noTarget => exact hm
  | stopped found way | noSource found way | there found way | conflict found way
  | unreadable found way => exact way.closed hm
  | added found way =>
    have hlt := Nat.lt_of_lt_of_le found way.grows.size
    exact (way.closed hm).withEdge hlt _ _ _

/-- The labels lead from the source to the target. -/
theorem reaches (h : Transits m source target labels (.ok ()) m') :
    m'.along? source labels = some target := by
  cases h with
  | there found way edge => rw [along?_concat, way.along?, Option.bind_some, edge]
  | added found way hlt missing readable =>
    have hext := extends_withEdge readable hlt missing target
    rw [along?_concat, hext.along? way.along?, Option.bind_some,
      edge?_withEdge readable hlt missing, if_pos ⟨rfl, rfl⟩]

theorem hops (h : Transits m source target labels (.ok ()) m') :
    ∃ present missing, Follows.MakesHops m source labels.dropLast m' present missing := by
  cases h with
  | there found way edge =>
    obtain ⟨present, missing, hmakes, -⟩ := way.hops
    rw [List.dropLast_concat]
    exact ⟨present, missing, hmakes⟩
  | added found way hlt hmissing readable =>
    obtain ⟨present, missing, hmakes, -⟩ := way.hops
    rw [List.dropLast_concat]
    exact ⟨present, missing,
      hmakes.mono (extends_withEdge readable hlt hmissing target) (size_withEdge ..)⟩

theorem edge_cases (h : Transits m source target labels r m') {state : Nat} {text : String}
    (hedge : m'.edge? state text = some p) : m.edge? state text = some p ∨
      ∃ before after, labels = before ++ text :: after ∧ m'.along? source before = some state := by
  have onWay {m' : Machine τ} {hops : List String} {r : Except BundleError Nat} (last : String)
      (way : Follows m source hops r m') (hedge : m'.edge? state text = some p) :
      m.edge? state text = some p ∨ ∃ before after, hops ++ [last] = before ++ text :: after ∧
        m'.along? source before = some state := by
    refine (way.edge_cases hedge).imp_right ?_
    rintro ⟨before, after, rfl, hbefore⟩
    exact ⟨before, after ++ [last], by simp, hbefore⟩
  cases h with
  | noLabels | noTarget => exact .inl hedge
  | stopped found way | noSource found way | there found way | conflict found way
  | unreadable found way => exact onWay _ way hedge
  | @added m' hops last q label found way hlt missing readable =>
    have hext := extends_withEdge readable hlt missing target
    rw [edge?_withEdge readable hlt missing] at hedge
    split at hedge
    · next heq =>
      obtain ⟨rfl, rfl⟩ := heq
      exact .inr ⟨hops, [], rfl, hext.along? way.along?⟩
    · refine (onWay last way hedge).imp_right ?_
      rintro ⟨before, after, hsplit, hbefore⟩
      exact ⟨before, after, hsplit, hext.along? hbefore⟩

/-- The ways in which declaring a path can fail. -/
inductive Fails (m : Machine τ) (source target : Nat) : List String → BundleError → Prop where
  | noLabels : Fails m source target [] .noLabels
  | noTarget {labels : List String} (nonempty : labels ≠ []) (absent : m.size ≤ target) :
      Fails m source target labels (.unknownState target)
  | noSource {labels : List String} (nonempty : labels ≠ []) (found : target < m.size)
      (absent : m.size ≤ source) : Fails m source target labels (.unknownState source)
  | conflict {labels : List String} {present : Nat} (nonempty : labels ≠ [])
      (found : target < m.size) (there : m.along? source labels = some present)
      (elsewhere : present ≠ target) :
      Fails m source target labels (.transitConflict labels present target)
  | unreadable {before after : List String} {text : String} {e : BundleError}
      (found : target < m.size) (start : source < m.size)
      (missing : m.along? source (before ++ [text]) = none) (unread : Label.parse text = .error e) :
      Fails m source target (before ++ text :: after) e

/-- Of the failures, only a label that cannot be read can leave something behind. -/
theorem error_cases (h : Transits m source target labels (.error e) m') (hm : m.Closed) :
    Fails m source target labels e ∧ ((∃ text, Label.parse text = .error e) ∨ m' = m) := by
  generalize hr : (Except.error e : Except BundleError Unit) = r at h
  cases h with
  | noLabels =>
    cases hr
    exact ⟨.noLabels, .inr rfl⟩
  | noTarget nonempty absent =>
    cases hr
    exact ⟨.noTarget nonempty absent, .inr rfl⟩
  | @stopped _ hops last _ found way =>
    cases hr
    rcases Nat.lt_or_ge source m.size with hlt | hge
    · obtain ⟨before, text, after, rfl, hmissing, hbad⟩ := way.stopped hm hlt
      rw [List.append_assoc, List.cons_append]
      exact ⟨.unreadable found hlt hmissing hbad, .inl ⟨text, hbad⟩⟩
    · obtain ⟨rfl, hno | heq⟩ := way.of_absent hge
      · cases hno
      · cases heq
        exact ⟨.noSource (by simp) found hge, .inr rfl⟩
  | noSource found way absent =>
    cases hr
    rcases Nat.lt_or_ge source m.size with hlt | hge
    · exact absurd (way.lt hm hlt) (Nat.not_lt.mpr absent)
    · obtain ⟨rfl, heq | hno⟩ := way.of_absent hge
      · cases heq
        exact ⟨.noSource (by simp) found hge, .inr rfl⟩
      · cases hno
  | there | added => cases hr
  | conflict found way edge elsewhere =>
    cases hr
    cases way.eq_of_edge? edge
    refine ⟨.conflict (by simp) found ?_ elsewhere, .inr rfl⟩
    rw [along?_concat, way.along?, Option.bind_some, edge]
  | @unreadable _ hops last p _ found way hlt missing hbad =>
    cases hr
    have hsource : source < m.size := by
      refine Nat.lt_of_not_le fun hge => ?_
      obtain ⟨rfl, heq | hno⟩ := way.of_absent hge
      · cases heq
        exact absurd hlt (Nat.not_lt.mpr hge)
      · cases hno
    refine ⟨.unreadable found hsource ?_ hbad, .inl ⟨last, hbad⟩⟩
    cases hthere : m.along? source (hops ++ [last]) with
    | none => rfl
    | some next =>
      have hnow := way.grows.along? hthere
      rw [along?_concat, way.along?, Option.bind_some, missing] at hnow
      cases hnow

theorem fails (h : Transits m source target labels (.error e) m') (hm : m.Closed) :
    Fails m source target labels e :=
  (h.error_cases hm).1

theorem eq_of_error (h : Transits m source target labels (.error e) m') (hm : m.Closed)
    (he : ∀ text reason, e ≠ .invalidLabel text reason) : m' = m := by
  refine (h.error_cases hm).2.resolve_left ?_
  rintro ⟨text, hbad⟩
  obtain ⟨reason, rfl⟩ := parse_eq_error hbad
  exact he text reason rfl

/-- It is a conflict exactly if the whole path is there and leads elsewhere. -/
theorem conflict_iff (h : Transits m source target labels r m') (hm : m.Closed)
    {path : List String} {present wanted : Nat} :
    r = .error (.transitConflict path present wanted) ↔
      target < m.size ∧ labels ≠ [] ∧ m.along? source labels = some present ∧ present ≠ target ∧
        path = labels ∧ wanted = target := by
  constructor
  · rintro rfl
    cases h.fails hm with
    | conflict nonempty found there elsewhere => exact ⟨found, nonempty, there, elsewhere, rfl, rfl⟩
    | unreadable found start missing unread =>
      obtain ⟨reason, heq⟩ := parse_eq_error unread
      cases heq
  · rintro ⟨htarget, hne, hpresent, helsewhere, rfl, rfl⟩
    cases r with
    | ok u =>
      have heq := (h.grows.along? hpresent).symm.trans h.reaches
      exact absurd (Option.some.inj heq) helsewhere
    | error e =>
      cases h.fails hm with
      | noLabels => exact absurd rfl hne
      | noTarget nonempty absent => exact absurd htarget (Nat.not_lt.mpr absent)
      | noSource nonempty found absent =>
        cases path with
        | nil => exact absurd rfl hne
        | cons text rest =>
          rw [along?, edge?_eq_none absent] at hpresent
          cases hpresent
      | conflict nonempty found there elsewhere =>
        cases there.symm.trans hpresent
        rfl
      | unreadable found start missing unread =>
        rw [List.append_cons, along?_append, missing] at hpresent
        cases hpresent

end Transits

end Machine

end ApiBundle
