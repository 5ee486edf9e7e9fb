import ApiBundle.Proofs.Walk.Brackets
import ApiBundle.Proofs.Walk.Position

/-!
# Completions are handed back once, in their place

The log of a walk without a failure has brackets at every place, so every completion that came with
a visit is handed back exactly once and at that place: after everything below it, before any later
sibling, last first, and with the node as the calls before it left it (`Walk.tells_node`).
By induction along the walk; the children of a node contribute one log each, in their order
(`Walk.InTurn`). A visit that asks for another one without a real replacement may as well ask for a
descent (`Visitor.degraded_standsFor`).
-/

namespace ApiBundle

/-- No list without repetitions has two entries in both orders. -/
theorem not_sublist_swap {α : Type} {xs : List α} (hxs : xs.Nodup) {a b : α}
    (h : [a, b].Sublist xs) : ¬[b, a].Sublist xs := by
  induction xs with
  | nil => cases h
  | cons x xs ih =>
    obtain ⟨hx, hrest⟩ := List.nodup_cons.mp hxs
    intro hswap
    cases h with
    | cons _ h =>
      cases hswap with
      | cons _ hswap => exact ih hrest h hswap
      | cons_cons _ _ => exact hx (h.subset (by simp))
    | cons_cons _ h =>
      cases hswap with
      | cons _ hswap => exact hx (hswap.subset (by simp))
      | cons_cons _ _ => exact hx (List.singleton_sublist.mp h)

namespace Walk

open Json (Surrounds)
open WalkEvent

variable {τ σ ε κ : Type} {scope : WalkScope} {v : Visitor τ σ ε κ} {m : Machine τ}
  {start : Option Nat} {t : Tracker τ} {x y : Json} {path : List Segment} {around : Json → Json}

/-! ## Children -/

/-- The log of a walk of the children that are left, when those before them have become `ys`. -/
structure InTurn (around : Json → Json) (path : List Segment) (x : Json) (ys : List Json)
    (todo : List (Segment × Json)) (log : List (WalkEvent κ)) (zs : List Json) : Prop where
  carries : Carries (fun z => z.kids.map Prod.fst = x.kids.map Prod.fst) around
    (x.withKids (ys ++ todo.map Prod.snd)) log (x.withKids (ys ++ zs))
  within : ∀ e ∈ log, ∃ k ∈ todo, path ++ [k.1] <+: e.path
  nested : ∀ k ∈ todo, ∀ rest,
    Bracketed (around (x.withKids (ys ++ todo.map Prod.snd))) (path ++ k.1 :: rest) log

section Children

variable {front todo : List (Segment × Json)} {k : Segment × Json} {ys zs : List Json} {seen : Bool}
  {log log' : List (WalkEvent κ)}

theorem InTurn.nil (hlen : ys.length = x.kids.length) :
    InTurn around path x ys [] ([] : List (WalkEvent κ)) [] where
  carries := .nil (Json.map_fst_kids_withKids (by simpa using hlen))
  within := nofun
  nested := nofun

/-- Calls below a child are not below a later sibling of a place at or below a later child. -/
theorem away_of_sibling {k' : Segment × Json} {rest parent : List Segment} {step later : Segment}
    {z : Json} (hnodup : (x.kids.map Prod.fst).Nodup)
    (hordered : [k.1, k'.1].Sublist (x.kids.map Prod.fst))
    (hwithin : ∀ e ∈ log, path ++ [k.1] <+: e.path) (hne : k.1 ≠ k'.1)
    (hparent : path ++ k'.1 :: rest = parent ++ [step])
    (hsteps : parent = path → z.kids.map Prod.fst = x.kids.map Prod.fst)
    (hlater : [step, later].Sublist (z.kids.map Prod.fst)) : Away (parent ++ [later]) log := by
  rcases List.eq_nil_or_concat' rest with rfl | ⟨init, last, rfl⟩
  · -- the siblings of the place are the children themselves
    obtain ⟨rfl, hstep⟩ := List.append_inj' hparent rfl
    cases hstep
    rw [hsteps rfl] at hlater
    have hother : k.1 ≠ later := by
      rintro rfl
      exact not_sublist_swap hnodup hordered hlater
    exact away_of_fork hother hwithin
  · have hparent' : (path ++ k'.1 :: init) ++ [last] = parent ++ [step] := by
      rw [← hparent, List.append_assoc, List.cons_append]
    rw [← (List.append_inj' hparent' rfl).1, List.append_assoc, List.cons_append]
    exact away_of_fork hne hwithin

/-- The log of the first child comes before those of the others. -/
theorem InTurn.cons (hx : x.Distinct) (hplace : Surrounds around path)
    (hkids : x.kids = front ++ k :: todo) (hlen : ys.length = front.length)
    (hfirst : Told (fun c => around (x.withKids (ys ++ c :: todo.map Prod.snd))) (path ++ [k.1])
      seen [] k.2 log y)
    (hrest : InTurn around path x (ys ++ [y]) todo log' zs) :
    InTurn around path x ys (k :: todo) (log ++ log') (y :: zs) := by
  have hsteps (c : Json) :
      (x.withKids (ys ++ c :: todo.map Prod.snd)).kids.map Prod.fst = x.kids.map Prod.fst :=
    Json.map_fst_kids_withKids (by simp [hkids, hlen])
  have hcarries : Carries (fun z => z.kids.map Prod.fst = x.kids.map Prod.fst) around
      (x.withKids (ys ++ k.2 :: todo.map Prod.snd)) log
      (x.withKids (ys ++ y :: todo.map Prod.snd)) :=
    hfirst.carries.map (f := fun c => x.withKids (ys ++ c :: todo.map Prod.snd))
      (fun c _ => hsteps c) fun _ => rfl
  have htail := hrest.carries
  simp only [List.append_assoc, List.singleton_append] at htail
  have hnodup : (x.kids.map Prod.fst).Nodup := Json.nodup_steps hx
  have hother {k' : Segment × Json} (hk' : k' ∈ todo) : k.1 ≠ k'.1 := by
    simpa using hnodup.sublist (Json.sublist_steps hkids hk')
  refine ⟨hcarries.append htail, fun e he => ?_, fun k' hk' rest => ?_⟩
  · rcases List.mem_append.mp he with he | he
    · exact ⟨k, List.mem_cons_self .., hfirst.within e he⟩
    · obtain ⟨k', hk', hpath⟩ := hrest.within e he
      exact ⟨k', List.mem_cons_of_mem _ hk', hpath⟩
  · rcases List.mem_cons.mp hk' with rfl | hk'
    · -- the calls of the other children come after the brackets
      obtain ⟨_, _, _, _, _, hbrackets⟩ := hfirst.bracketed rest
      rw [← List.append_cons] at hbrackets
      have hafter : Away (path ++ k'.1 :: rest) log' := by
        intro e he
        obtain ⟨k'', hk'', hpath⟩ := hrest.within e he
        exact not_prefix_of_fork (hother hk'').symm hpath
      have hwide := hbrackets.widen (replay_nil _) away_nil hafter fun _ _ _ => nofun
      exact ⟨_, _, _, _, _, hwide⟩
    · -- the calls of the first child come before the brackets
      obtain ⟨before, _, _, _, _, hbrackets⟩ := hrest.nested k' hk' rest
      simp only [List.append_assoc, List.singleton_append] at hbrackets
      have haway : Away (path ++ k'.1 :: rest) log := away_of_fork (hother hk') hfirst.within
      have hwide := hbrackets.widen hcarries.replayed haway away_nil
        fun {parent step z later} hparent hz hlater =>
          away_of_sibling hnodup (Json.sublist_steps hkids hk') hfirst.within (hother hk') hparent
            (fun hhere => by
              obtain ⟨z', hz', hreplay⟩ := htail.between
                (hbrackets.split.trans (List.append_assoc ..))
              rw [hreplay, hhere, hplace.finds] at hz
              exact Option.some.inj hz ▸ hz') hlater
      simp only [List.append_nil] at hwide
      exact ⟨_, _, _, _, _, hwide⟩

theorem InTurn.below {log : List (WalkEvent κ)} (h : InTurn around path x [] x.kids log zs) :
    Below around path x log (x.withKids zs) := by
  have hcarries := h.carries
  have hnested := h.nested
  simp only [List.nil_append, Json.withKids_self] at hcarries hnested
  refine ⟨hcarries.mono fun _ _ => trivial, fun e he => ?_, fun step rest => ?_⟩
  · obtain ⟨k, -, hpath⟩ := h.within e he
    refine ⟨(List.prefix_append path _).trans hpath, fun heq => ?_⟩
    have := hpath.length_le
    rw [heq, List.length_append, List.length_singleton] at this
    omega
  · by_cases hstep : ∃ k ∈ x.kids, k.1 = step
    · obtain ⟨k, hk, rfl⟩ := hstep
      exact hnested k hk rest
    · refine bracketed_of_away fun e he => ?_
      obtain ⟨k, hk, hpath⟩ := h.within e he
      have hne : k.1 ≠ step := fun heq => hstep ⟨k, hk, heq⟩
      exact not_prefix_of_fork hne hpath

end Children

/-! ## Nodes -/

/-- What the notes of a walk of a node tell, if it did not fail. -/
def Tells (scope : WalkScope) (pending : List κ) (x : Json) (t : Tracker τ)
    (p : σ × List (WalkEvent κ)) (y : Json) (e : Option ε) (p' : σ × List (WalkEvent κ)) : Prop :=
  e = none → x.WellFormed → eligible scope t.site = true ∨ pending = [] →
    ∃ log, p'.2 = p.2 ++ log ∧ ∀ {around}, Surrounds around t.path →
      Told around t.path (eligible scope t.site) pending x log y

variable {p p' : σ × List (WalkEvent κ)} {e : Option ε} {pending : List κ}

theorem delivers_finish (h : finish v.recorded t pending x p = some ((y, none), p')) :
    ∃ log, p'.2 = p.2 ++ log ∧ ∀ {around}, Surrounds around t.path →
      Delivers around t.path pending x log y := by
  induction pending generalizing x p with
  | nil =>
    cases h
    exact ⟨[], (List.append_nil _).symm, fun _ => .nil⟩
  | cons c rest ih =>
    obtain ⟨⟨z, failed⟩, p₁, hcall, hrest⟩ := Bounded.bind_eq_some.mp h
    cases failed with
    | some e => cases hrest
    | none =>
      obtain ⟨log, hlog, hdelivers⟩ := ih hrest
      refine ⟨.completed t.path c x z :: log, ?_, fun hplace => (hdelivers hplace).cons hplace⟩
      rw [hlog, Visitor.of_recorded_complete hcall, List.append_assoc, List.singleton_append]

theorem inTurn_of_threaded (hx : x.WellFormed) {todo front : List (Segment × Json)}
    {ys zs : List Json} (hkids : x.kids = front ++ todo) (hlen : ys.length = front.length)
    (h : Threaded (Tells scope []) t todo p zs e p') (he : e = none) :
    ∃ log, p'.2 = p.2 ++ log ∧ ∀ {around}, Surrounds around t.path →
      InTurn around t.path x ys todo log zs := by
  induction h generalizing front ys with
  | nil =>
    exact ⟨[], (List.append_nil _).symm, fun _ => .nil (by simpa [hkids] using hlen)⟩
  | fail => cases he
  | @cons step k y rest p p₁ p' zs e head tail ih =>
    have hmem : (step, k) ∈ x.kids := hkids ▸ by simp
    obtain ⟨log, hlog, htold⟩ := head rfl (hx.step? (hx.step?_of_mem_kids hmem)) (.inr rfl)
    have hlen' : (ys ++ [y]).length = (front ++ [(step, k)]).length := by simp [hlen]
    obtain ⟨log', hlog', hinTurn⟩ := ih (hkids.trans (List.append_cons front _ rest)) hlen' he
    have hdistinct := (Json.throughout_distinct hx).here
    refine ⟨log ++ log', by rw [hlog', hlog, List.append_assoc], fun {around} hplace => ?_⟩
    have hkid := hplace.kid hdistinct hkids hlen
    rw [← Tracker.path_move] at hkid
    exact .cons hdistinct hplace hkids hlen (Tracker.path_move t step ▸ htold hkid)
      (hinTurn hplace)

theorem below_of_threaded (hx : x.WellFormed) {zs : List Json}
    (h : Threaded (Tells scope []) t x.kids p zs e p') (he : e = none) :
    ∃ log, p'.2 = p.2 ++ log ∧ ∀ {around}, Surrounds around t.path →
      Below around t.path x log (x.withKids zs) := by
  obtain ⟨log, hlog, hinTurn⟩ :=
    inTurn_of_threaded hx (List.nil_append x.kids).symm (show ([] : List Json).length = 0 from rfl)
      h he
  exact ⟨log, hlog, fun hplace => (hinTurn hplace).below⟩

/-- A walk tells its whole story; by induction along the walk. -/
theorem tells_node (hv : v.KeepsForm) {bound : Nat}
    (h : node scope v.recorded bound pending x t p = some ((y, e), p')) :
    Tells scope pending x t p y e p' := by
  refine node_induction (motive := Tells scope) ?skip ?pass ?raise ?revisit ?broken ?descend ?done h
  case skip =>
    intro pending x t p hel _ _ _ hpending
    obtain rfl := hpending.resolve_left (by simp [hel])
    exact ⟨[], (List.append_nil _).symm, fun _ => hel ▸ Below.nil.told⟩
  case pass =>
    intro pending x t p zs e p' hel _ hkids he hx hpending
    obtain rfl := hpending.resolve_left (by simp [hel])
    obtain ⟨log, hlog, hbelow⟩ := below_of_threaded hx hkids he
    exact ⟨log, hlog, fun hplace => hel ▸ (hbelow hplace).told⟩
  case raise => exact fun _ _ he => nomatch he
  case broken => exact fun _ _ _ _ he => nomatch he
  case revisit =>
    intro pending x t p d p₁ new y e p' hel hvisit hsettle ih he hx _
    obtain ⟨hvisit, hnote⟩ := Visitor.of_recorded_visit hvisit
    have hnew := hv.settle hx hvisit
    rw [hsettle] at hnew
    obtain ⟨log, hlog, htold⟩ := ih he hnew (.inl hel)
    refine ⟨.visited t.path x d :: log, ?_, fun hplace => ?_⟩
    · rw [hlog, hnote, List.append_assoc, List.singleton_append]
    · rw [hel] at htold ⊢
      exact (htold hplace).revisit hplace hsettle
  case descend =>
    intro pending x t p d p₁ new zs p₂ y e p' hel hvisit hsettle hkids hfinish he hx _
    subst he
    obtain ⟨hvisit, hnote⟩ := Visitor.of_recorded_visit hvisit
    have hnew := hv.settle hx hvisit
    rw [hsettle] at hnew
    obtain ⟨mid, hmid, hbelow⟩ := below_of_threaded hnew hkids rfl
    obtain ⟨deliveries, hdeliveries, hdelivers⟩ := delivers_finish hfinish
    refine ⟨.visited t.path x d :: (mid ++ deliveries), ?_, fun hplace => hel ▸ ?_⟩
    · rw [hdeliveries, hmid, hnote]
      simp
    · exact (hbelow hplace).visited hplace (congrArg Prod.fst hsettle)
        (by simp [hsettle]) (hdelivers hplace)
  case done =>
    intro pending x t p d p₁ new y e p' hel hvisit hsettle hfinish he hx _
    subst he
    obtain ⟨hvisit, hnote⟩ := Visitor.of_recorded_visit hvisit
    obtain ⟨deliveries, hdeliveries, hdelivers⟩ := delivers_finish hfinish
    refine ⟨.visited t.path x d :: deliveries, ?_, fun hplace => hel ▸ ?_⟩
    · rw [hdeliveries, hnote]
      simp
    · exact Below.nil.visited hplace (congrArg Prod.fst hsettle) (by simp [hsettle])
        (hdelivers hplace)

end Walk

/-! ## Revisits without a replacement -/

namespace Disposition

variable {κ : Type}

/-- A revisit without a real replacement as a descent. -/
def degraded (d : Disposition κ) (node : Json) : Disposition κ :=
  if d.action = .revisit ∧ ∀ new ∈ d.replacement, new.sameValue node = true then
    { d with action := .descend }
  else d

theorem settled_degraded (d : Disposition κ) (node : Json) :
    (d.degraded node).settled node = d.settled node := by
  obtain ⟨action, replacement, completion⟩ := d
  unfold degraded
  split
  · next h =>
    obtain ⟨rfl, hsame⟩ := h
    cases replacement with
    | none => rfl
    | some new => simp [settled, settle, hsame new rfl]
  · rfl

end Disposition

namespace Visitor

variable {τ σ ε κ : Type}

/-- A visitor that asks for a descent where a revisit would be one. -/
def degraded (v : Visitor τ σ ε κ) : Visitor τ σ ε κ where
  visit x t s := (v.visit x t s).map fun out => (out.1.map (·.degraded x), out.2)
  complete := v.complete

theorem degraded_standsFor (v : Visitor τ σ ε κ) : v.degraded.StandsFor v id where
  visit x t s := by
    simp only [degraded, Option.map_map, id]
    congr 1
    funext ⟨answer, s'⟩
    cases answer with
    | error e => rfl
    | ok d => simp [Except.map, Disposition.settled_degraded]
  complete _ _ _ _ := Option.map_id'

end Visitor

namespace Walk

variable {τ σ ε κ : Type} {v : Visitor τ σ ε κ}

/-- A log accounts for what a walk has made of a document. -/
structure Accounts (doc : Json) (log : List (WalkEvent κ)) (y : Json) : Prop where
  /-- Each call got the node at its path, in the tree that the calls before it left. -/
  fits : WalkEvent.Fits doc log
  /-- What the calls left is what the walk gives. -/
  replayed : WalkEvent.replay doc log = y
  /-- Every place has brackets, with the completions of its visits handed back last first. -/
  bracketed : ∀ path, WalkEvent.Bracketed doc path log

/-- What is known of the completions of a walk. -/
structure HandsBack (scope : WalkScope) (v : Visitor τ σ ε κ) (m : Machine τ) (start : Option Nat)
    (doc : Json) : Prop where
  /-- A walk without a failure is accounted for by the log of its calls. -/
  accounted : ∀ {bound s y s'}, tree scope v bound m start doc s = some ((y, none), s') →
    ∃ log, tree scope v.recorded bound m start doc (s, []) = some ((y, none), (s', log)) ∧
      Accounts doc log y
  /-- A revisit without a real replacement is carried out as a descent. -/
  degraded : ∀ bound, tree scope v.degraded bound m start doc = tree scope v bound m start doc

/-- A walk hands every completion back once, in its place. -/
theorem handsBack (scope : WalkScope) (m : Machine τ) (start : Option Nat) (hv : v.KeepsForm)
    {doc : Json} (hdoc : doc.WellFormed) : HandsBack scope v m start doc where
  accounted {bound s y s'} h := by
    have hprojects : (tree scope v.recorded bound m start doc (s, [])).map
        (fun out => (out.1, out.2.1)) = tree scope v bound m start doc s :=
      projects_node v.recorded_standsFor bound [] doc (.start m start) (s, [])
    rw [h] at hprojects
    obtain ⟨⟨_, p'⟩, hrun, hout⟩ := Option.map_eq_some_iff.mp hprojects
    cases hout
    obtain ⟨log, hlog, htold⟩ := tells_node hv hrun rfl hdoc (.inr rfl)
    have htold := htold Json.surrounds_nil
    refine ⟨log, by rw [hrun, show p' = (p'.1, log) from Prod.ext rfl hlog], htold.carries.fits,
      htold.carries.replayed, htold.bracketed⟩
  degraded bound := funext fun s => by
    have hprojects : (tree scope v.degraded bound m start doc s).map id =
        tree scope v bound m start doc s :=
      projects_node v.degraded_standsFor bound [] doc (.start m start) s
    rwa [Option.map_id] at hprojects

theorem handsBack_restless : restless.KeepsForm ∧ (Json.object [("items", .null)]).WellFormed ∧
    ∃ log, tree ⟨false, false⟩ restless.recorded 9 hopping (some 0) (.object [("items", .null)])
        (0, []) = some ((.array [.array [.object [("items", .array [.array [.null],
          .array [.object []]])]]], none), (8, log)) ∧
      Accounts (.object [("items", .null)]) log (.array [.array [.object [("items",
        .array [.array [.null], .array [.object []]])]]]) := by
  have hdoc : (Json.object [("items", .null)]).WellFormed := by
    simp [Json.WellFormed, Json.WellFormedMembers, OrderedMap.keys]
  have hrun : tree ⟨false, false⟩ restless 9 hopping (some 0) (.object [("items", .null)]) 0 =
      some ((.array [.array [.object [("items", .array [.array [.null],
        .array [.object []]])]]], none), 8) := by
    decide +kernel
  exact ⟨keepsForm_restless, hdoc,
    (handsBack ⟨false, false⟩ hopping (some 0) keepsForm_restless hdoc).accounted hrun⟩

end Walk

end ApiBundle
