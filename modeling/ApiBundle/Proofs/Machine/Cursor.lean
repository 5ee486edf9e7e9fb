import ApiBundle.Proofs.Machine.Retracing
import ApiBundle.Proofs.OrderedMap

/-!
# Trackers kept in pieces

A tracker holds each move together with the state that it was made from. A *cursor* keeps the same
history in two lists that are pushed and popped apart, looks up where a name leads at most once for
each state, and never forgets what it has looked up, whatever is undone or reset. It gives the same
answers as a tracker after any calls (`Tracker.tracks_of_calls`): the two lists stay in step, and
what was looked up is what the machine says (`Cursor.Sound`).
-/

namespace ApiBundle

/-- A place in a machine, the history of its moves in two lists, and what was looked up. -/
structure Cursor (τ : Type) where
  /-- The machine. -/
  machine : Machine τ
  /-- The current state; `none` is off-road. -/
  current : Option Nat
  /-- The moves made, newest first. -/
  steps : List Segment
  /-- The states that the moves were made from, newest first. -/
  crumbs : List (Option Nat)
  /-- Where a name leads from a state, for those that were looked up. -/
  memo : OrderedMap (Nat × String) (Option Nat)

namespace Cursor

variable {τ : Type} {c : Cursor τ}

def start (machine : Machine τ) (state : Option Nat) : Cursor τ := ⟨machine, state, [], [], []⟩

def path (c : Cursor τ) : List Segment := c.steps.reverse

/-- The tracker that a cursor stands for. -/
def tracker (c : Cursor τ) : Tracker τ := ⟨c.machine, c.current, c.steps.zip c.crumbs⟩

/-- Looks up where a name leads from a state, and remembers it. -/
def lookUp (c : Cursor τ) (state : Nat) (name : String) : Option Nat × Cursor τ :=
  match OrderedMap.find? c.memo (state, name) with
  | some hit => (hit, c)
  | none =>
    let next := c.machine.stepKey state name
    (next, { c with memo := OrderedMap.put c.memo (state, name) next })

def advance (c : Cursor τ) (next : Option Nat) (step : Segment) : Cursor τ :=
  { c with current := next, steps := step :: c.steps, crumbs := c.current :: c.crumbs }

def move (c : Cursor τ) : Segment → Cursor τ
  | .key name =>
    match c.current with
    | none => c.advance none (.key name)
    | some state =>
      let (next, c) := c.lookUp state name
      c.advance next (.key name)
  | .index i => c.advance (c.current.bind c.machine.stepIndex) (.index i)

def pop (c : Cursor τ) : Cursor τ :=
  { c with current := c.crumbs.head?.join, steps := c.steps.tail, crumbs := c.crumbs.tail }

def popAll (c : Cursor τ) : Nat → Cursor τ
  | 0 => c
  | n + 1 => c.pop.popAll n

def call (c : Cursor τ) : TrackerCall → TrackerAnswer × Cursor τ
  | .move step => (.reached (c.move step).current, c.move step)
  | .peek step => (.reached (c.current.bind (c.machine.step · step)), c)
  | .backup n =>
    if c.crumbs.length < n then (.failed .backupUnderflow, c)
    else (.reached (c.popAll n).current, c.popAll n)
  | .reset state => (.silent, { c with current := some state, steps := [], crumbs := [] })

def after (c : Cursor τ) (calls : List TrackerCall) : Cursor τ :=
  calls.foldl (fun c x => (c.call x).2) c

/-- The two lists are in step, and what is remembered is what the machine says. -/
structure Sound (c : Cursor τ) : Prop where
  paired : c.steps.length = c.crumbs.length
  remembers : ∀ {state name hit}, OrderedMap.find? c.memo (state, name) = some hit →
    hit = c.machine.stepKey state name

theorem sound_start (m : Machine τ) (start : Option Nat) : (Cursor.start m start).Sound :=
  ⟨rfl, nofun⟩

@[simp] theorem tracker_start (m : Machine τ) (start : Option Nat) :
    (Cursor.start m start).tracker = Tracker.start m start := rfl

@[simp] theorem tracker_advance (c : Cursor τ) (next : Option Nat) (step : Segment) :
    (c.advance next step).tracker = ⟨c.machine, next, (step, c.current) :: c.tracker.trail⟩ := rfl

theorem Sound.path_tracker (h : c.Sound) : c.tracker.path = c.path := by
  simp [Tracker.path, tracker, path, List.map_fst_zip (Nat.le_of_eq h.paired)]

theorem Sound.crumbs_tracker (h : c.Sound) : c.tracker.trail.map Prod.snd = c.crumbs := by
  simp [tracker, List.map_snd_zip (Nat.le_of_eq h.paired.symm)]

/-- A look-up finds what the machine says, and changes nothing but what is remembered. -/
theorem Sound.lookUp (h : c.Sound) (state : Nat) (name : String) :
    ∃ memo, c.lookUp state name = (c.machine.stepKey state name, { c with memo := memo }) ∧
      Sound { c with memo := memo } := by
  unfold Cursor.lookUp
  cases hhit : OrderedMap.find? c.memo (state, name) with
  | some hit => exact ⟨c.memo, by rw [h.remembers hhit], h⟩
  | none =>
    refine ⟨_, rfl, h.paired, fun {state' name' hit} hfound => ?_⟩
    simp only [OrderedMap.find?_put] at hfound
    split at hfound
    · next heq =>
      cases heq
      exact (Option.some.inj hfound).symm
    · exact h.remembers hfound

theorem move_eq (c : Cursor τ) (step : Segment) : ∃ next memo,
    c.move step = ⟨c.machine, next, step :: c.steps, c.current :: c.crumbs, memo⟩ := by
  cases step with
  | index i => exact ⟨_, _, rfl⟩
  | key name =>
    cases hcurrent : c.current with
    | none => exact ⟨none, c.memo, by simp only [move, advance, hcurrent]⟩
    | some state =>
      cases hhit : OrderedMap.find? c.memo (state, name) with
      | some hit =>
        exact ⟨hit, c.memo, by simp only [move, advance, Cursor.lookUp, hcurrent, hhit]⟩
      | none => exact ⟨_, _, by simp only [move, advance, Cursor.lookUp, hcurrent, hhit]; rfl⟩

/-- A step is the tracker's step, also where its end was looked up before. -/
theorem Sound.move (h : c.Sound) (step : Segment) :
    (c.move step).tracker = c.tracker.move step ∧ (c.move step).Sound := by
  have advanced {c : Cursor τ} (h : c.Sound) (next : Option Nat) : (c.advance next step).Sound :=
    ⟨congrArg Nat.succ h.paired, h.remembers⟩
  cases step with
  | index i => exact ⟨rfl, advanced h _⟩
  | key name =>
    cases hcurrent : c.current with
    | none =>
      refine ⟨?_, ?_⟩
      · simp [Cursor.move, Tracker.move, Tracker.peek, hcurrent, tracker, advance]
      · simpa [Cursor.move, hcurrent] using advanced h none
    | some state =>
      obtain ⟨memo, hfound, hsound⟩ := h.lookUp state name
      refine ⟨?_, ?_⟩
      · simp [Cursor.move, Tracker.move, Tracker.peek, Machine.step, hcurrent, hfound, tracker,
          advance]
      · simpa [Cursor.move, hcurrent, hfound] using advanced hsound _

theorem Sound.popAll {n : Nat} (h : c.Sound) (hn : n ≤ c.crumbs.length) :
    c.tracker.backup n = .ok (c.popAll n).tracker ∧ (c.popAll n).Sound := by
  induction n generalizing c with
  | zero => exact ⟨rfl, h⟩
  | succ n ih =>
    obtain ⟨machine, current, steps, crumbs, memo⟩ := c
    cases crumbs with
    | nil => cases hn
    | cons crumb crumbs =>
      cases steps with
      | nil => cases h.paired
      | cons step steps =>
        exact ih (c := ⟨machine, crumb, steps, crumbs, memo⟩) ⟨Nat.succ.inj h.paired, h.remembers⟩
          (Nat.le_of_succ_le_succ hn)

theorem Sound.length_trail (h : c.Sound) : c.tracker.trail.length = c.crumbs.length := by
  simp [tracker, h.paired]

/-- Every call is answered as a tracker answers it. -/
theorem Sound.call (h : c.Sound) (x : TrackerCall) :
    (c.call x).1 = (c.tracker.call x).1 ∧ (c.call x).2.tracker = (c.tracker.call x).2 ∧
      (c.call x).2.Sound := by
  cases x with
  | move step =>
    obtain ⟨hmove, hsound⟩ := h.move step
    have hcurrent : (c.move step).current = (c.tracker.move step).current :=
      congrArg Tracker.current hmove
    exact ⟨congrArg TrackerAnswer.reached hcurrent, hmove, hsound⟩
  | peek step => exact ⟨rfl, rfl, h⟩
  | backup n =>
    by_cases hn : c.crumbs.length < n
    · have hfails : c.tracker.backup n = .error .backupUnderflow :=
        Tracker.backup_of_lt (by rwa [h.length_trail])
      simp only [Cursor.call, Tracker.call, hn, if_true, hfails]
      exact ⟨trivial, trivial, h⟩
    · obtain ⟨hok, hsound⟩ := h.popAll (Nat.le_of_not_lt hn)
      simp only [Cursor.call, Tracker.call, hn, if_false, hok]
      exact ⟨rfl, trivial, hsound⟩
  | reset state => exact ⟨rfl, rfl, rfl, h.remembers⟩

theorem Sound.after (h : c.Sound) (calls : List TrackerCall) :
    (c.after calls).tracker = c.tracker.after calls ∧ (c.after calls).Sound := by
  induction calls generalizing c with
  | nil => exact ⟨rfl, h⟩
  | cons x calls ih =>
    obtain ⟨-, htracker, hsound⟩ := h.call x
    have hrest := ih hsound
    rw [htracker] at hrest
    exact hrest

end Cursor

namespace Tracker

variable {τ : Type}

/-- What holds of a tracker and a cursor after calls that began at a start. -/
structure Tracks (m : Machine τ) (start : Option Nat) (calls : List TrackerCall) (t : Tracker τ)
    (c : Cursor τ) : Prop where
  /-- The state is where the recorded path leads from the latest start. -/
  state : t.current = m.run (latestStart start calls) t.path
  /-- Off-road it stays as long as the moves that led there are not undone. -/
  offRoad : t.current = none → ∀ more, t.Keeps more → (t.after more).current = none
  /-- A backup gives back the tracker that was there when the undone moves were still to come. -/
  restored : ∀ n, n ≤ t.path.length → ∃ before since, calls = before ++ since ∧
    ((Tracker.start m start).after before).Keeps since ∧
    ((Tracker.start m start).after before).path.length + n = t.path.length ∧
    t.call (.backup n) = (.reached ((Tracker.start m start).after before).current,
      (Tracker.start m start).after before)
  /-- A backup past the start fails and changes nothing. -/
  refused : ∀ n, t.path.length < n → t.call (.backup n) = (.failed .backupUnderflow, t) ∧
    c.call (.backup n) = (.failed .backupUnderflow, c)
  /-- There is one state to return to for each recorded step. -/
  paired : c.path.length = c.crumbs.length
  /-- A move by a name leads where the machine says, looked up before or not. -/
  lands : ∀ name, (c.call (.move (.key name))).1 = .reached (c.current.bind (m.stepKey · name))
  /-- The cursor is at the place of the tracker, with its history. -/
  alike : c.current = t.current ∧ c.path = t.path ∧ c.crumbs = t.trail.map Prod.snd
  /-- The cursor answers as the tracker does. -/
  answers : ∀ x, (c.call x).1 = (t.call x).1

theorem tracks_of_calls (m : Machine τ) (start : Option Nat) (calls : List TrackerCall) :
    Tracks m start calls ((Tracker.start m start).after calls)
      ((Cursor.start m start).after calls) := by
  obtain ⟨hm, hled⟩ := led_after m start calls
  obtain ⟨htracker, hsound⟩ := (Cursor.sound_start m start).after calls
  rw [Cursor.tracker_start] at htracker
  have hback (n : Nat) := restored_of_backup (Tracker.start m start) rfl calls (n := n)
  have hstays (more : List TrackerCall) := (led_after m start (calls ++ more)).2
  simp only [after_append] at hstays
  generalize (Tracker.start m start).after calls = t at hm hled htracker hback hstays
  generalize (Cursor.start m start).after calls = c at htracker hsound
  subst htracker
  constructor
  case state => exact hled.eq_run
  case offRoad =>
    intro hoff more hkeeps
    exact (hstays more).offRoad (backup_of_keeps hkeeps) hoff
  case restored =>
    intro n hn
    obtain ⟨before, since, hcalls, hkeeps, hlen, hok⟩ := hback n hn
    exact ⟨before, since, hcalls, hkeeps, hlen, by simp only [call, hok]⟩
  case refused =>
    intro n hn
    rw [length_path] at hn
    have hfails : (c.tracker).backup n = .error .backupUnderflow := backup_of_lt hn
    refine ⟨by simp only [call, hfails], ?_⟩
    rw [hsound.length_trail] at hn
    simp only [Cursor.call, hn, if_true]
  case paired => simpa [Cursor.path] using hsound.paired
  case lands =>
    intro name
    rw [(hsound.call _).1, ← hm]
    rfl
  case alike => exact ⟨rfl, hsound.path_tracker.symm, hsound.crumbs_tracker.symm⟩
  case answers => exact fun x => (hsound.call x).1

end Tracker

end ApiBundle
