import ApiBundle.Proofs.Walk.Events

/-!
# Logs with brackets

In the log of a walk the calls at and below a place stand together: first the visits there, each of
which but the last brings about the next one, then whatever happens below, then the completions that
these visits came with, last first. No later sibling has been reached before that
(`WalkEvent.Brackets`). A log *carries* one node into another if each call got the node to which its
path leads in the tree that the calls before it left, and the last call left the other node
(`WalkEvent.Carries`).
-/

namespace ApiBundle

namespace WalkEvent

open Json (Surrounds)

variable {κ : Type}

/-! ## Calls that fit a tree -/

/-- Each call got the node to which its path leads in the tree that the calls before it left. -/
def Fits : Json → List (WalkEvent κ) → Prop
  | _, [] => True
  | whole, e :: log => whole.follow? e.path = some e.node ∧ Fits (whole.putAt e.path e.outcome) log

theorem fits_append {whole : Json} {log log' : List (WalkEvent κ)} :
    Fits whole (log ++ log') ↔ Fits whole log ∧ Fits (replay whole log) log' := by
  induction log generalizing whole with
  | nil => simp [Fits]
  | cons e log ih => simp [Fits, ih, and_assoc]

/--
A log leads from a node to another one, within surroundings that stay. Whatever stands there in
between has a property.
-/
structure Carries (P : Json → Prop) (around : Json → Json) (x : Json) (log : List (WalkEvent κ))
    (y : Json) : Prop where
  fits : Fits (around x) log
  replayed : replay (around x) log = around y
  between : ∀ {before after}, log = before ++ after → ∃ z, P z ∧ replay (around x) before = around z

namespace Carries

variable {P Q : Json → Prop} {around around' : Json → Json} {x y z : Json}
  {log log' : List (WalkEvent κ)}

theorem nil (h : P x) : Carries P around x ([] : List (WalkEvent κ)) x where
  fits := trivial
  replayed := rfl
  between hsplit := ⟨x, h, by rw [(List.append_eq_nil_iff.mp hsplit.symm).1]; rfl⟩

theorem single {e : WalkEvent κ} (hplace : Surrounds around e.path) (hx : P e.node)
    (hy : P e.outcome) : Carries P around e.node [e] e.outcome where
  fits := ⟨hplace.finds _, trivial⟩
  replayed := hplace.puts _ _
  between {before after} hsplit := by
    rcases List.cons_eq_append_iff.mp hsplit with ⟨rfl, -⟩ | ⟨rest, rfl, hrest⟩
    · exact ⟨_, hx, rfl⟩
    · rw [(List.append_eq_nil_iff.mp hrest.symm).1]
      exact ⟨_, hy, hplace.puts _ _⟩

theorem append (h : Carries P around x log y) (h' : Carries P around y log' z) :
    Carries P around x (log ++ log') z where
  fits := fits_append.mpr ⟨h.fits, h.replayed ▸ h'.fits⟩
  replayed := by rw [replay_append, h.replayed, h'.replayed]
  between {before after} hsplit := by
    rcases List.append_eq_append_iff.mp hsplit with ⟨rest, rfl, hrest⟩ | ⟨rest, rfl, -⟩
    · obtain ⟨w, hw, hreplay⟩ := h'.between hrest
      exact ⟨w, hw, by rw [replay_append, h.replayed, hreplay]⟩
    · exact h.between rfl

theorem map (h : Carries P around x log y) {f : Json → Json} (hP : ∀ z, P z → Q (f z))
    (hf : ∀ z, around z = around' (f z)) : Carries Q around' (f x) log (f y) where
  fits := hf x ▸ h.fits
  replayed := by rw [← hf, ← hf, h.replayed]
  between hsplit := by
    obtain ⟨z, hz, hreplay⟩ := h.between hsplit
    exact ⟨f z, hP z hz, by rw [← hf, ← hf, hreplay]⟩

theorem mono (h : Carries P around x log y) (hP : ∀ z, P z → Q z) : Carries Q around x log y :=
  h.map (f := id) hP fun _ => rfl

end Carries

/-! ## Brackets -/

/-- No call was made at a place or below it. -/
def Away (path : List Segment) (log : List (WalkEvent κ)) : Prop :=
  ∀ e ∈ log, ¬path <+: e.path

theorem away_nil {path : List Segment} : Away path ([] : List (WalkEvent κ)) := nofun

/-- Visits at one place, each but the last of which brings about the next one. -/
inductive RevisitChain (path : List Segment) : Json → List (WalkEvent κ) → Prop where
  | last {x : Json} {d : Disposition κ} (h : (d.settle x).2 ≠ .revisit) :
      RevisitChain path x [.visited path x d]
  | revisit {x new : Json} {d : Disposition κ} {rest : List (WalkEvent κ)}
      (h : d.settle x = (new, .revisit)) (next : RevisitChain path new rest) :
      RevisitChain path x (.visited path x d :: rest)

/-- What happens at a place itself, apart from the calls below it. -/
structure Framed (path : List Segment) (pending : List κ)
    (visits below deliveries : List (WalkEvent κ)) : Prop where
  chained : visits = [] ∨ ∃ x, RevisitChain path x visits
  below : ∀ e ∈ below, path <+: e.path ∧ e.path ≠ path
  delivered : ∀ e ∈ deliveries, e.path = path
  reversed : deliveries.map WalkEvent.delivered =
    ((visits.filterMap attached).reverse ++ pending).map some

/-- The calls at and below a place stand together in a log, before those of later siblings. -/
structure Brackets (whole : Json) (path : List Segment) (log before visits below deliveries after :
    List (WalkEvent κ)) : Prop where
  split : log = before ++ (visits ++ below ++ deliveries) ++ after
  outside : Away path before ∧ Away path after
  framed : Framed path [] visits below deliveries
  siblings : ∀ {parent step x later}, path = parent ++ [step] →
    (replay whole before).follow? parent = some x → [step, later].Sublist (x.kids.map Prod.fst) →
    Away (parent ++ [later]) before

/-- A log has brackets at a place. -/
def Bracketed (whole : Json) (path : List Segment) (log : List (WalkEvent κ)) : Prop :=
  ∃ before visits below deliveries after,
    Brackets whole path log before visits below deliveries after

variable {whole whole' : Json} {path : List Segment} {pre log post : List (WalkEvent κ)}

theorem away_append : Away path (log ++ post) ↔ Away path log ∧ Away path post :=
  List.forall_mem_append

/-- Calls below one step are not below another one. -/
theorem not_prefix_of_fork {step step' : Segment} {rest below : List Segment} (hne : step ≠ step')
    (h : path ++ [step] <+: below) : ¬path ++ step' :: rest <+: below := by
  intro hpath
  have hstep' : path ++ [step'] <+: below := by
    refine List.IsPrefix.trans ⟨rest, ?_⟩ hpath
    rw [List.append_assoc, List.singleton_append]
  have hsame := List.prefix_of_prefix_length_le h hstep' (by simp)
  exact hne (by simpa using (List.prefix_append_right_inj path).mp hsame)

theorem away_of_fork {step step' : Segment} {rest : List Segment} (hne : step ≠ step')
    (h : ∀ e ∈ log, path ++ [step] <+: e.path) : Away (path ++ step' :: rest) log :=
  fun e he => not_prefix_of_fork hne (h e he)

/-- Calls at shorter paths are not below a place. -/
theorem away_of_length (h : ∀ e ∈ log, e.path.length < path.length) : Away path log :=
  fun e he hpath => Nat.not_le.mpr (h e he) hpath.length_le

theorem bracketed_of_away (h : Away path log) : Bracketed whole path log :=
  ⟨[], [], [], [], log, ⟨rfl, ⟨nofun, h⟩, ⟨.inl rfl, nofun, nofun, rfl⟩, fun _ _ _ => nofun⟩⟩

theorem Brackets.widen {before visits below deliveries after : List (WalkEvent κ)}
    (h : Brackets whole path log before visits below deliveries after)
    (hreplay : replay whole' pre = whole) (hpre : Away path pre) (hpost : Away path post)
    (hsiblings : ∀ {parent step x later}, path = parent ++ [step] →
      (replay whole before).follow? parent = some x →
      [step, later].Sublist (x.kids.map Prod.fst) → Away (parent ++ [later]) pre) :
    Brackets whole' path (pre ++ log ++ post) (pre ++ before) visits below deliveries
      (after ++ post) where
  split := by simp [h.split]
  outside := ⟨away_append.mpr ⟨hpre, h.outside.1⟩, away_append.mpr ⟨h.outside.2, hpost⟩⟩
  framed := h.framed
  siblings hpath hx hlater := by
    rw [replay_append, hreplay] at hx
    exact away_append.mpr ⟨hsiblings hpath hx hlater, h.siblings hpath hx hlater⟩

/-- Brackets stay when calls at shorter paths come before and after. -/
theorem Bracketed.widen (h : Bracketed whole path log) (hreplay : replay whole' pre = whole)
    (hpre : ∀ e ∈ pre, e.path.length < path.length)
    (hpost : ∀ e ∈ post, e.path.length < path.length) :
    Bracketed whole' path (pre ++ log ++ post) := by
  obtain ⟨_, _, _, _, _, hbrackets⟩ := h
  refine ⟨_, _, _, _, _, hbrackets.widen hreplay (away_of_length hpre) (away_of_length hpost) ?_⟩
  intro parent step x later hpath _ _
  refine away_of_length fun e he => ?_
  have := hpre e he
  rw [hpath, List.length_append] at this
  rwa [List.length_append]

/-! ## The log of one node -/

section Nodes

variable {around : Json → Json} {x y z new : Json} {seen : Bool} {pending : List κ}
  {d : Disposition κ} {mid deliveries : List (WalkEvent κ)}

/-- A log of calls below a place. -/
structure Below (around : Json → Json) (path : List Segment) (x : Json) (log : List (WalkEvent κ))
    (y : Json) : Prop where
  carries : Carries (fun _ => True) around x log y
  below : ∀ e ∈ log, path <+: e.path ∧ e.path ≠ path
  nested : ∀ step rest, Bracketed (around x) (path ++ step :: rest) log

/-- A log of completions that are handed back at a place. -/
structure Delivers (around : Json → Json) (path : List Segment) (pending : List κ) (x : Json)
    (log : List (WalkEvent κ)) (y : Json) : Prop where
  carries : Carries (fun _ => True) around x log y
  here : ∀ e ∈ log, e.path = path
  inOrder : log.map WalkEvent.delivered = pending.map some

/-- The log of a walk of a node, which was visited itself or not. -/
structure Told (around : Json → Json) (path : List Segment) (seen : Bool) (pending : List κ)
    (x : Json) (log : List (WalkEvent κ)) (y : Json) : Prop where
  carries : Carries (fun _ => True) around x log y
  within : ∀ e ∈ log, path <+: e.path
  framed : ∃ visits below deliveries, log = visits ++ below ++ deliveries ∧
    Framed path pending visits below deliveries ∧ (seen = true → RevisitChain path x visits)
  nested : ∀ step rest, Bracketed (around x) (path ++ step :: rest) log

theorem Below.nil : Below around path x ([] : List (WalkEvent κ)) x :=
  ⟨.nil trivial, nofun, fun _ _ => bracketed_of_away nofun⟩

theorem Delivers.nil : Delivers around path ([] : List κ) x [] x := ⟨.nil trivial, nofun, rfl⟩

theorem Delivers.cons {c : κ} (hplace : Surrounds around path)
    (h : Delivers around path pending y log z) :
    Delivers around path (c :: pending) x (.completed path c x y :: log) z where
  carries := (Carries.single (e := .completed path c x y) hplace trivial trivial).append h.carries
  here := List.forall_mem_cons.mpr ⟨rfl, h.here⟩
  inOrder := by simp [h.inOrder, WalkEvent.delivered]

theorem Below.told (h : Below around path x log y) : Told around path false ([] : List κ) x log y where
  carries := h.carries
  within e he := (h.below e he).1
  framed := ⟨[], log, [], by simp, ⟨.inl rfl, h.below, nofun, rfl⟩, nofun⟩
  nested := h.nested

theorem Below.visited (h : Below around path new mid z) (hplace : Surrounds around path)
    (hsettle : (d.settle x).1 = new) (hlast : (d.settle x).2 ≠ .revisit)
    (hdeliveries : Delivers around path (d.completion.toList ++ pending) z deliveries y) :
    Told around path true pending x (.visited path x d :: (mid ++ deliveries)) y := by
  subst hsettle
  have hvisit : Carries (fun _ => True) around x [.visited path x d] (d.settle x).1 :=
    .single (e := .visited path x d) hplace trivial trivial
  have hshort {e : WalkEvent κ} (he : e.path = path) (step : Segment) (rest : List Segment) :
      e.path.length < (path ++ step :: rest).length := by
    simp [he]
  refine ⟨hvisit.append (h.carries.append hdeliveries.carries), fun e he => ?_,
    ⟨[.visited path x d], mid, deliveries, rfl,
      ⟨.inr ⟨x, .last hlast⟩, h.below, hdeliveries.here, ?_⟩, fun _ => .last hlast⟩,
    fun step rest => ?_⟩
  · rcases List.mem_cons.mp he with rfl | he
    · exact List.prefix_refl path
    · rcases List.mem_append.mp he with he | he
      · exact (h.below e he).1
      · exact hdeliveries.here e he ▸ List.prefix_refl _
  · rw [hdeliveries.inOrder]
    cases hc : d.completion <;> simp [attached, hc]
  · have hwide := (h.nested step rest).widen hvisit.replayed
      (List.forall_mem_singleton.mpr (hshort rfl step rest))
      fun e he => hshort (hdeliveries.here e he) step rest
    simpa using hwide

theorem Told.revisit (h : Told around path true (d.completion.toList ++ pending) new log y)
    (hplace : Surrounds around path) (hsettle : d.settle x = (new, .revisit)) :
    Told around path true pending x (.visited path x d :: log) y := by
  have hvisit : Carries (fun _ => True) around x [.visited path x d] new := by
    have hsingle := Carries.single (e := .visited path x d) (P := fun _ => True) hplace trivial trivial
    rwa [show outcome (.visited path x d) = new from congrArg Prod.fst hsettle] at hsingle
  obtain ⟨visits, below, deliveries, rfl, hframed, hchain⟩ := h.framed
  have hvisits : RevisitChain path x (.visited path x d :: visits) := .revisit hsettle (hchain rfl)
  refine ⟨hvisit.append h.carries, List.forall_mem_cons.mpr ⟨List.prefix_refl path, h.within⟩,
    ⟨.visited path x d :: visits, below, deliveries, rfl,
      ⟨.inr ⟨x, hvisits⟩, hframed.below, hframed.delivered, ?_⟩, fun _ => hvisits⟩,
    fun step rest => ?_⟩
  · rw [hframed.reversed]
    cases hc : d.completion <;> simp [attached, hc]
  · have hwide := (h.nested step rest).widen hvisit.replayed
      (List.forall_mem_singleton.mpr (by simp [WalkEvent.path])) (List.forall_mem_nil _)
    simpa using hwide

/-- There are brackets at the place itself, and at every place below it. -/
theorem Told.bracketed (h : Told around path seen ([] : List κ) x log y) (rest : List Segment) :
    Bracketed (around x) (path ++ rest) log := by
  cases rest with
  | cons step rest => exact h.nested step rest
  | nil =>
    obtain ⟨visits, below, deliveries, rfl, hframed, -⟩ := h.framed
    rw [List.append_nil]
    exact ⟨[], visits, below, deliveries, [], by simp, ⟨nofun, nofun⟩, hframed,
      fun _ _ _ => nofun⟩

end Nodes

end WalkEvent

end ApiBundle
