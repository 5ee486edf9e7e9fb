import ApiBundle.Machine.Tracker
import Mathlib.Data.List.Induction

/-!
# Trackers that are called again and again

Moves, looks ahead, backups and resets can follow each other in any order. Whatever was called, the
state of a tracker is the one that its recorded path leads to from the latest start, because every
entry of its trail holds the state that the moves before it lead to (`Tracker.Led`). A backup gives
back the tracker as it was, moves and all, at the last time when that many moves were still to come
(`Tracker.restored_of_backup`); as long as the tracker is not taken back before a place, that place
can be returned to (`Tracker.backup_of_keeps`).
-/

namespace ApiBundle

/-- A call on a tracker. -/
inductive TrackerCall where
  /-- A step. -/
  | move (step : Segment)
  /-- A look at where a step would lead. -/
  | peek (step : Segment)
  /-- Undoing a number of moves. -/
  | backup (n : Nat)
  /-- A new start from a state. -/
  | reset (state : Nat)
  deriving DecidableEq, Repr

/-- What a call on a tracker gives back. -/
inductive TrackerAnswer where
  /-- The state that is, or would be, reached; `none` is off-road. -/
  | reached (state : Option Nat)
  /-- A failure; nothing has happened. -/
  | failed (e : BundleError)
  | silent

def latestStart (start : Option Nat) (calls : List TrackerCall) : Option Nat :=
  calls.foldl (fun q call => match call with
    | .reset state => some state
    | _ => q) start

theorem latestStart_concat (start : Option Nat) (calls : List TrackerCall) (call : TrackerCall) :
    latestStart start (calls ++ [call]) = match call with
      | .reset state => some state
      | _ => latestStart start calls := by
  simp [latestStart]

namespace Tracker

variable {τ : Type} {m : Machine τ} {start : Option Nat} {t t' : Tracker τ}

/-- Carries out a call. A backup that fails leaves the tracker as it is. -/
def call (t : Tracker τ) : TrackerCall → TrackerAnswer × Tracker τ
  | .move step => (.reached (t.move step).current, t.move step)
  | .peek step => (.reached (t.peek step), t)
  | .backup n =>
    match t.backup n with
    | .ok t' => (.reached t'.current, t')
    | .error e => (.failed e, t)
  | .reset state => (.silent, t.reset state)

def after (t : Tracker τ) (calls : List TrackerCall) : Tracker τ :=
  calls.foldl (fun t c => (t.call c).2) t

@[simp] theorem after_nil (t : Tracker τ) : t.after [] = t := rfl

@[simp] theorem after_append (t : Tracker τ) (calls more : List TrackerCall) :
    t.after (calls ++ more) = (t.after calls).after more :=
  List.foldl_append

@[simp] theorem after_singleton (t : Tracker τ) (c : TrackerCall) : t.after [c] = (t.call c).2 :=
  rfl

@[simp] theorem length_path (t : Tracker τ) : t.path.length = t.trail.length := by simp [path]

@[simp] theorem path_move (t : Tracker τ) (step : Segment) :
    (t.move step).path = t.path ++ [step] := by
  simp [path, move]

/-! ## Moving along a path -/

@[simp] theorem machine_moves (t : Tracker τ) (path : List Segment) :
    (path.foldl move t).machine = t.machine := by
  induction path generalizing t with
  | nil => rfl
  | cons step path ih => exact ih (t.move step)

/-- Moves lead where the machine leads from the place of the tracker. -/
theorem current_moves (t : Tracker τ) (path : List Segment) :
    (path.foldl move t).current = t.machine.run t.current path := by
  induction path generalizing t with
  | nil => rfl
  | cons step path ih => exact ih (t.move step)

/-! ## Undoing moves -/

theorem backup_move (t : Tracker τ) (step : Segment) (n : Nat) :
    (t.move step).backup (n + 1) = t.backup n := rfl

/-- Backing up fails exactly where there are not enough moves. -/
theorem backup_of_lt {n : Nat} (h : t.trail.length < n) : t.backup n = .error .backupUnderflow := by
  induction n generalizing t with
  | zero => cases h
  | succ n ih =>
    obtain ⟨machine, current, trail⟩ := t
    cases trail with
    | nil => rfl
    | cons entry rest => exact ih (Nat.lt_of_succ_lt_succ h)

theorem backup_of_le {n : Nat} (h : n ≤ t.trail.length) :
    ∃ t', t.backup n = .ok t' ∧ t'.machine = t.machine ∧ t'.trail = t.trail.drop n := by
  induction n generalizing t with
  | zero => exact ⟨t, rfl, rfl, rfl⟩
  | succ n ih =>
    obtain ⟨machine, current, trail⟩ := t
    cases trail with
    | nil => cases h
    | cons entry rest => exact ih (t := ⟨machine, entry.2, rest⟩) (Nat.le_of_succ_le_succ h)

theorem backup_eq_ok {n : Nat} (h : t.backup n = .ok t') :
    n ≤ t.trail.length ∧ t'.machine = t.machine ∧ t'.trail = t.trail.drop n := by
  by_cases hle : n ≤ t.trail.length
  · obtain ⟨t₁, hok, hmachine, htrail⟩ := backup_of_le hle
    rw [hok] at h
    cases h
    exact ⟨hle, hmachine, htrail⟩
  · rw [backup_of_lt (Nat.lt_of_not_le hle)] at h
    cases h

theorem backup_add {k : Nat} (n : Nat) (h : t.backup k = .ok t') :
    t'.backup n = t.backup (k + n) := by
  induction k generalizing t with
  | zero =>
    cases h
    rw [Nat.zero_add]
  | succ k ih =>
    obtain ⟨machine, current, trail⟩ := t
    cases trail with
    | nil => cases h
    | cons entry rest =>
      rw [Nat.succ_add]
      exact ih (t := ⟨machine, entry.2, rest⟩) h

theorem call_cases (t : Tracker τ) (c : TrackerCall) :
    (∃ step, c = .move step ∧ (t.call c).2 = t.move step) ∨
    (∃ n t', c = .backup n ∧ t.backup n = .ok t' ∧ (t.call c).2 = t') ∨
    (∃ state, c = .reset state ∧ (t.call c).2 = t.reset state) ∨
    ((∀ state, c ≠ .reset state) ∧ (t.call c).2 = t) := by
  cases c with
  | move step => exact .inl ⟨step, rfl, rfl⟩
  | peek step => exact .inr (.inr (.inr ⟨nofun, rfl⟩))
  | backup n =>
    cases h : t.backup n with
    | ok t' => exact .inr (.inl ⟨n, t', rfl, h, by simp [call, h]⟩)
    | error e => exact .inr (.inr (.inr ⟨nofun, by simp [call, h]⟩))
  | reset state => exact .inr (.inr (.inl ⟨state, rfl, rfl⟩))

/-! ## States and paths -/

/-- Each move of a trail was made from the state that the moves before it lead to. -/
def Led (m : Machine τ) (start : Option Nat) : List (Segment × Option Nat) → Option Nat → Prop
  | [], q => q = start
  | (step, p) :: rest, q => q = p.bind (m.step · step) ∧ Led m start rest p

/-- The state at the end of a trail is where its path leads. -/
theorem Led.eq_run {trail : List (Segment × Option Nat)} {q : Option Nat}
    (h : Led m start trail q) : q = m.run start (trail.map Prod.fst).reverse := by
  induction trail generalizing q with
  | nil => exact h
  | cons entry rest ih =>
    obtain ⟨step, p⟩ := entry
    obtain ⟨rfl, hrest⟩ := h
    simp [Machine.run, ih hrest]

theorem Led.backup {n : Nat} (h : Led m start t.trail t.current) (hn : t.backup n = .ok t') :
    Led m start t'.trail t'.current := by
  induction n generalizing t with
  | zero =>
    cases hn
    exact h
  | succ n ih =>
    obtain ⟨machine, current, trail⟩ := t
    cases trail with
    | nil => cases hn
    | cons entry rest => exact ih (t := ⟨machine, entry.2, rest⟩) h.2 hn

/-- No move comes back from off-road. -/
theorem Led.offRoad {n : Nat} (h : Led m start t.trail t.current) (hn : t.backup n = .ok t')
    (hoff : t'.current = none) : t.current = none := by
  induction n generalizing t with
  | zero =>
    cases hn
    exact hoff
  | succ n ih =>
    obtain ⟨machine, current, trail⟩ := t
    cases trail with
    | nil => cases hn
    | cons entry rest =>
      obtain ⟨hcurrent, hrest⟩ := h
      have hp : entry.2 = none := ih (t := ⟨machine, entry.2, rest⟩) hrest hn
      rw [hp] at hcurrent
      exact hcurrent

/-- Calls on a new tracker leave one whose trail leads to its state from the latest start. -/
theorem led_after (m : Machine τ) (start : Option Nat) (calls : List TrackerCall) :
    ((Tracker.start m start).after calls).machine = m ∧
      Led m (latestStart start calls) ((Tracker.start m start).after calls).trail
        ((Tracker.start m start).after calls).current := by
  -- the latest call comes last, and only a reset moves the start
  induction calls using List.reverseRecOn with
  | nil => exact ⟨rfl, rfl⟩
  | append_singleton calls c ih =>
    obtain ⟨hm, hled⟩ := ih
    rw [after_append, after_singleton, latestStart_concat]
    generalize (Tracker.start m start).after calls = t at hm hled
    rcases call_cases t c with ⟨step, rfl, hcall⟩ | ⟨n, t', rfl, hn, hcall⟩ |
      ⟨state, rfl, hcall⟩ | ⟨hno, hcall⟩
    · rw [hcall]
      exact ⟨hm, by rw [← hm]; rfl, hled⟩
    · rw [hcall]
      exact ⟨(backup_eq_ok hn).2.1.trans hm, hled.backup hn⟩
    · rw [hcall]
      exact ⟨hm, rfl⟩
    · rw [hcall]
      cases c with
      | reset state => exact absurd rfl (hno state)
      | _ => exact ⟨hm, hled⟩

/-! ## Places that can be returned to -/

/-- Calls that never take a tracker back before the moves it has made. -/
structure Keeps (t : Tracker τ) (calls : List TrackerCall) : Prop where
  noReset : ∀ state, .reset state ∉ calls
  within : ∀ front, front <+: calls → t.path.length ≤ (t.after front).path.length

theorem Keeps.nil (t : Tracker τ) : t.Keeps [] :=
  ⟨nofun, fun front h => by rw [List.prefix_nil.mp h]; exact Nat.le_refl _⟩

theorem keeps_concat {calls : List TrackerCall} {c : TrackerCall} : t.Keeps (calls ++ [c]) ↔
    t.Keeps calls ∧ (∀ state, c ≠ .reset state) ∧
      t.path.length ≤ ((t.after calls).call c).2.path.length := by
  constructor
  · rintro ⟨hreset, hwithin⟩
    refine ⟨⟨fun state h => hreset state (List.mem_append_left _ h), fun front h =>
      hwithin front (h.trans (List.prefix_append ..))⟩, fun state h =>
      hreset state (List.mem_append_right _ (by rw [h]; exact List.mem_singleton_self _)), ?_⟩
    simpa using hwithin _ (List.prefix_refl _)
  · rintro ⟨⟨hreset, hwithin⟩, hc, hlast⟩
    refine ⟨fun state h => ?_, fun front h => ?_⟩
    · rcases List.mem_append.mp h with h | h
      · exact hreset state h
      · exact hc state (List.mem_singleton.mp h).symm
    · rcases List.prefix_concat_iff.mp h with rfl | h
      · simpa using hlast
      · exact hwithin front h

/-- Undoing what was moved since leads back to a place that was kept. -/
theorem backup_of_keeps {calls : List TrackerCall} (h : t.Keeps calls) :
    (t.after calls).backup ((t.after calls).path.length - t.path.length) = .ok t := by
  induction calls using List.reverseRecOn with
  | nil => simp [backup]
  | append_singleton calls c ih =>
    obtain ⟨hkeeps, hno, hlast⟩ := keeps_concat.mp h
    have hdepth := hkeeps.within calls (List.prefix_refl _)
    specialize ih hkeeps
    rw [after_append, after_singleton]
    generalize t.after calls = u at ih hdepth hlast
    rcases call_cases u c with ⟨step, rfl, hcall⟩ | ⟨n, u', rfl, hn, hcall⟩ |
      ⟨state, rfl, hcall⟩ | ⟨-, hcall⟩
    · have hlen : (u.move step).path.length - t.path.length =
          u.path.length - t.path.length + 1 := by
        rw [path_move, List.length_append, List.length_singleton]
        omega
      rw [hcall, hlen, backup_move, ih]
    · rw [hcall] at hlast ⊢
      obtain ⟨hle, -, htrail⟩ := backup_eq_ok hn
      have hlen : n + (u'.path.length - t.path.length) = u.path.length - t.path.length := by
        simp only [length_path, htrail, List.length_drop] at hlast hdepth ⊢
        omega
      rw [backup_add _ hn, hlen, ih]
    · exact absurd rfl (hno state)
    · rw [hcall, ih]

/--
A backup gives the tracker as it was after some of the calls: since then it has not been taken back
before that place, and has made as many moves as are undone.
-/
theorem restored_of_backup (t₀ : Tracker τ) (hnew : t₀.trail = []) (calls : List TrackerCall)
    {n : Nat} (h : n ≤ (t₀.after calls).path.length) :
    ∃ before since, calls = before ++ since ∧ (t₀.after before).Keeps since ∧
      (t₀.after before).path.length + n = (t₀.after calls).path.length ∧
      (t₀.after calls).backup n = .ok (t₀.after before) := by
  -- the last calls of all lead nowhere else
  have here {calls : List TrackerCall} : ∃ before since, calls = before ++ since ∧
      (t₀.after before).Keeps since ∧
      (t₀.after before).path.length + 0 = (t₀.after calls).path.length ∧
      (t₀.after calls).backup 0 = .ok (t₀.after before) :=
    ⟨calls, [], (List.append_nil _).symm, .nil _, rfl, rfl⟩
  induction calls using List.reverseRecOn generalizing n with
  | nil =>
    have hzero : n = 0 := by simpa [hnew] using h
    subst hzero
    exact here
  | append_singleton calls c ih =>
    cases n with
    | zero => exact here
    | succ n =>
    -- one more call after a place that is kept
    have extend {k : Nat} (hk : k ≤ (t₀.after calls).path.length)
        (hlen : (t₀.after calls).path.length + (n + 1) =
          ((t₀.after calls).call c).2.path.length + k)
        (hno : ∀ state, c ≠ .reset state)
        (hback : ((t₀.after calls).call c).2.backup (n + 1) = (t₀.after calls).backup k) :
        ∃ before since, calls ++ [c] = before ++ since ∧ (t₀.after before).Keeps since ∧
          (t₀.after before).path.length + (n + 1) = (t₀.after (calls ++ [c])).path.length ∧
          (t₀.after (calls ++ [c])).backup (n + 1) = .ok (t₀.after before) := by
      obtain ⟨before, since, rfl, hkeeps, hbefore, hok⟩ := ih hk
      rw [after_append t₀ before since] at hback hlen hbefore hok
      refine ⟨before, since ++ [c], List.append_assoc .., ?_, ?_, ?_⟩
      · exact keeps_concat.mpr ⟨hkeeps, hno, by omega⟩
      · rw [after_append, after_singleton, after_append]
        omega
      · rw [after_append, after_singleton, after_append, hback, hok]
    rw [after_append, after_singleton] at h
    rcases call_cases (t₀.after calls) c with ⟨step, rfl, hcall⟩ | ⟨k, t', rfl, hk, hcall⟩ |
      ⟨state, rfl, hcall⟩ | ⟨hno, hcall⟩
    · rw [hcall, path_move, List.length_append, List.length_singleton] at h
      exact extend (k := n) (by omega) (by rw [hcall]; simp; omega) nofun
        (by rw [hcall, backup_move])
    · obtain ⟨hle, -, htrail⟩ := backup_eq_ok hk
      rw [hcall] at h
      simp only [length_path, htrail, List.length_drop] at h
      refine extend (k := k + (n + 1)) ?_ ?_ nofun (by rw [hcall, backup_add _ hk])
      · rw [length_path]
        omega
      · rw [hcall]
        simp only [length_path, htrail, List.length_drop]
        omega
    · rw [hcall] at h
      simp [Tracker.reset] at h
    · rw [hcall] at h
      exact extend h (by rw [hcall]) hno (by rw [hcall])

end Tracker

end ApiBundle
