import ApiBundle.Proofs.Walk.Induction

/-!
# Walks that come to an end

A walk has no result within a bound that is too small. Where its visitor depends on a bound as well,
the walk *comes* to a result if every pair of large enough bounds gives that result. By
`Walk.node_comes` this is so for every tree that satisfies a condition which is stable under the
walk of other trees, passes to children, and holds of replacements, each of smaller rank.
-/

namespace ApiBundle

namespace Bounded

variable {σ α β : Type}

/-- A step that depends on a bound has one result for all large enough bounds. -/
def Comes (m : Nat → Bounded σ α) (s : σ) (a : α) (s' : σ) : Prop :=
  ∃ b₀, ∀ b, b₀ ≤ b → m b s = some (a, s')

/-- Two steps in a row. -/
theorem Comes.bind {m : Nat → Bounded σ α} {f : Nat → α → Bounded σ β} {s s₁ s' : σ} {a : α}
    {b : β} (hm : Comes m s a s₁) (hf : Comes (fun n => f n a) s₁ b s') :
    Comes (fun n => m n >>= f n) s b s' := by
  obtain ⟨b₁, h₁⟩ := hm
  obtain ⟨b₂, h₂⟩ := hf
  refine ⟨max b₁ b₂, fun n hn => bind_eq_some.mpr ⟨a, s₁, h₁ n ?_, h₂ n ?_⟩⟩ <;> omega

theorem comes_pure {a : α} {s : σ} : Comes (fun _ => (pure a : Bounded σ α)) s a s :=
  ⟨0, fun _ _ => rfl⟩

end Bounded

namespace Walk

variable {τ σ ε κ : Type} {scope : WalkScope} {v : Nat → Visitor τ σ ε κ}

/-- A walk has one result for all large enough bounds of its own and of its visitor. -/
def Comes (scope : WalkScope) (v : Nat → Visitor τ σ ε κ) (pending : List κ) (x : Json)
    (t : Tracker τ) (s : σ) (out : Json × Option ε) (s' : σ) : Prop :=
  ∃ b₀, ∀ b n, b₀ ≤ b → b₀ ≤ n → node scope (v b) n pending x t s = some (out, s')

/-- A walk of children has one result for all large enough bounds. -/
def ChildrenCome (scope : WalkScope) (v : Nat → Visitor τ σ ε κ) (x : Json) (t : Tracker τ) (s : σ)
    (out : Json × Option ε) (s' : σ) : Prop :=
  ∃ b₀, ∀ b n, b₀ ≤ b → b₀ ≤ n →
    children (node scope (v b) n []) x t s = some (out, s')

variable {t : Tracker τ} {s : σ}

/-- What a walk does after the visit of a node. -/
def resume (scope : WalkScope) (v : Visitor τ σ ε κ) (bound : Nat) (pending : List κ) (x : Json)
    (t : Tracker τ) : Except ε (Disposition κ) → Bounded σ (Json × Option ε)
  | .error e => pure (x, some e)
  | .ok d =>
    let pending := d.completion.toList ++ pending
    match d.settle x with
    | (x, .revisit) => node scope v bound pending x t
    | (x, .descend) => do
      match ← children (node scope v bound []) x t with
      | (x, some e) => return (x, some e)
      | (x, none) => finish v t pending x
    | (x, .done) => finish v t pending x

theorem node_of_eligible {v : Visitor τ σ ε κ} {bound : Nat} {pending : List κ} {x : Json}
    (h : eligible scope t.site = true) :
    node scope v (bound + 1) pending x t =
      v.visit x t >>= resume scope v bound pending x t := by
  rw [node]
  simp only [h, Bool.not_true, Bool.false_eq_true, if_false]
  refine bind_congr fun r => ?_
  cases r <;> rfl

/-- The state after some walk. -/
def Leads (scope : WalkScope) (v : Nat → Visitor τ σ ε κ) (x : Json) (t : Tracker τ) (s s' : σ) :
    Prop :=
  ∃ b n out, node scope (v b) n [] x t s = some (out, s')

/-! ## Children -/

/-- Children that are walked to an end one after the other. -/
def Come (scope : WalkScope) (v : Nat → Visitor τ σ ε κ) (t : Tracker τ) :
    List (Segment × Json) → σ → List Json → Option ε → σ → Prop :=
  Threaded (fun x t s y e s' => Comes scope v [] x t s (y, e) s') t

/-- Bounds that are large enough for each of some children are large enough for all of them. -/
theorem Come.gives {kids : List (Segment × Json)} {ys : List Json} {e : Option ε} {s s' : σ}
    (h : Come scope v t kids s ys e s') : ∃ b₀, ∀ b n, b₀ ≤ b → b₀ ≤ n →
      Threaded (Gives (node scope (v b) n [])) t kids s ys e s' := by
  induction h with
  | nil => exact ⟨0, fun _ _ _ _ => .nil⟩
  | fail head =>
    obtain ⟨b₀, h₀⟩ := head
    exact ⟨b₀, fun b n hb hn => .fail (h₀ b n hb hn)⟩
  | cons head _ ih =>
    obtain ⟨b₁, h₁⟩ := head
    obtain ⟨b₂, h₂⟩ := ih
    exact ⟨max b₁ b₂, fun b n hb hn =>
      .cons (h₁ b n (by omega) (by omega)) (h₂ b n (by omega) (by omega))⟩

/-- A walk of children has one result for all large enough bounds if the walk of each child does. -/
theorem Come.children {x : Json} {ys : List Json} {e : Option ε} {s' : σ}
    (h : Come scope v t x.kids s ys e s') :
    ChildrenCome scope v x t s (x.withKids ys, e) s' := by
  obtain ⟨b₀, h₀⟩ := h.gives
  exact ⟨b₀, fun b n hb hn => children_of_threaded (h₀ b n hb hn)⟩

/-- Children that are walked to an end one by one are walked to an end in a row. -/
theorem children_come {I : Json → Tracker τ → σ → Prop}
    (stable : ∀ {x t x' t' s s'}, I x t s → I x' t' s → Leads scope v x' t' s s' → I x t s')
    {kids : List (Segment × Json)}
    (comes : ∀ k ∈ kids, ∀ {s}, I k.2 (t.move k.1) s →
      ∃ out s', Comes scope v [] k.2 (t.move k.1) s out s')
    (h : ∀ k ∈ kids, I k.2 (t.move k.1) s) : ∃ ys e s', Come scope v t kids s ys e s' := by
  induction kids generalizing s with
  | nil => exact ⟨[], none, s, .nil⟩
  | cons k rest ih =>
    have hmem := List.mem_cons_self (a := k) (l := rest)
    obtain ⟨⟨y, e⟩, s₁, hfirst⟩ := comes k hmem (h k hmem)
    cases e with
    | some e => exact ⟨_, _, s₁, .fail hfirst⟩
    | none =>
      obtain ⟨b, hb⟩ := hfirst
      have hleads : Leads scope v k.2 (t.move k.1) s s₁ :=
        ⟨b, b, _, hb b b (Nat.le_refl _) (Nat.le_refl _)⟩
      obtain ⟨ys, e, s', hrest⟩ := ih (fun k hk => comes k (List.mem_cons_of_mem _ hk))
        fun k hk => stable (h k (List.mem_cons_of_mem _ hk)) (h _ hmem) hleads
      exact ⟨y :: ys, e, s', .cons ⟨b, hb⟩ hrest⟩

/--
Children that are walked one by one, each of them without a failure, are walked in a row. What they
bring about stays.
-/
theorem Threaded.of_forall {β : Type} {R : Json → Tracker τ → σ → Json → Option ε → σ → Prop}
    {I : σ → Prop} {D : β → σ → Prop} {C : Segment × Json → β → Prop}
    (kids : List (Segment × Json)) (h : ∀ k ∈ kids, ∀ s, I s → ∃ y s',
      R k.2 (t.move k.1) s y none s' ∧ I s' ∧ ∀ b, D b s ∨ C k b → D b s') (hs : I s) :
    ∃ ys s', Threaded R t kids s ys none s' ∧ I s' ∧
      ∀ b, D b s ∨ (∃ k ∈ kids, C k b) → D b s' := by
  induction kids generalizing s with
  | nil => exact ⟨[], s, .nil, hs, fun b hb => hb.resolve_right fun ⟨_, hk, _⟩ => nomatch hk⟩
  | cons k rest ih =>
    obtain ⟨y, s₁, hfirst, hs₁, hdone⟩ := h k (List.mem_cons_self ..) s hs
    obtain ⟨ys, s', hrest, hs', hdone'⟩ := ih (fun k hk => h k (List.mem_cons_of_mem _ hk)) hs₁
    refine ⟨y :: ys, s', .cons hfirst hrest, hs', fun b hb => hdone' b ?_⟩
    rcases hb with hb | ⟨k', hk', hb⟩
    · exact .inl (hdone b (.inl hb))
    · rcases List.mem_cons.mp hk' with rfl | hk'
      · exact .inl (hdone b (.inr hb))
      · exact .inr ⟨k', hk', hb⟩

/-- Children whose walks leave them as they are, one after the other. -/
theorem Threaded.of_still {R : Json → Tracker τ → σ → Json → Option ε → σ → Prop} {I : σ → Prop}
    (kids : List (Segment × Json))
    (h : ∀ k ∈ kids, ∀ s, I s → ∃ s', R k.2 (t.move k.1) s k.2 none s' ∧ I s') (hs : I s) :
    ∃ s', Threaded R t kids s (kids.map Prod.snd) none s' ∧ I s' := by
  induction kids generalizing s with
  | nil => exact ⟨s, .nil, hs⟩
  | cons k rest ih =>
    obtain ⟨s₁, hfirst, hs₁⟩ := h k (List.mem_cons_self ..) s hs
    obtain ⟨s', hrest, hs'⟩ := ih (fun k hk => h k (List.mem_cons_of_mem _ hk)) hs₁
    exact ⟨s', .cons hfirst hrest, hs'⟩

/-- Completions that come to an end one by one come to an end in a row. -/
theorem finish_comes
    (complete : ∀ c x t s, ∃ out s', Bounded.Comes (fun b => (v b).complete c x t) s out s')
    (pending : List κ) (x : Json) (t : Tracker τ) (s : σ) :
    ∃ out s', Bounded.Comes (fun b => finish (v b) t pending x) s out s' := by
  induction pending generalizing x s with
  | nil => exact ⟨_, _, Bounded.comes_pure⟩
  | cons c rest ih =>
    obtain ⟨⟨y, e⟩, s₁, hc⟩ := complete c x t s
    cases e with
    | some e => exact ⟨_, _, hc.bind Bounded.comes_pure⟩
    | none =>
      obtain ⟨out, s', hrest⟩ := ih y s₁
      exact ⟨out, s', hc.bind hrest⟩

/-! ## Nodes -/

section Nodes

variable {x new y : Json} {pending : List κ} {s₁ s₂ s' : σ} {out : Json × Option ε}
  {d : Disposition κ}

/-- The bound of a walk is one larger than that of the walks below. -/
theorem comes_of_step (h : ∃ b₀, ∀ b n, b₀ ≤ b → b₀ ≤ n →
    node scope (v b) (n + 1) pending x t s = some (out, s')) :
    Comes scope v pending x t s out s' := by
  obtain ⟨b₀, h₀⟩ := h
  refine ⟨b₀ + 1, fun b n hb hn => ?_⟩
  obtain ⟨m, rfl⟩ : ∃ m, n = m + 1 := ⟨n - 1, by omega⟩
  exact h₀ b m (by omega) (by omega)

theorem comes_skip (hel : eligible scope t.site = false) (hoff : t.isOffRoad = true) :
    Comes scope v pending x t s (x, none) s := by
  refine comes_of_step ⟨0, fun b n _ _ => ?_⟩
  unfold node
  simp only [hel, hoff, Bool.not_false, if_true]
  rfl

theorem comes_pass (hel : eligible scope t.site = false) (hoff : t.isOffRoad = false)
    (hkids : ChildrenCome scope v x t s out s') : Comes scope v pending x t s out s' := by
  obtain ⟨b₀, h₀⟩ := hkids
  refine comes_of_step ⟨b₀, fun b n hb hn => ?_⟩
  unfold node
  simp only [hel, hoff, Bool.not_false, if_true, Bool.false_eq_true, if_false]
  exact h₀ b n hb hn

/-- A walk goes on after the visit of a node. -/
theorem comes_visit {r : Except ε (Disposition κ)} (hel : eligible scope t.site = true)
    (hv : Bounded.Comes (fun b => (v b).visit x t) s r s₁)
    (hnext : ∃ b₀, ∀ b n, b₀ ≤ b → b₀ ≤ n →
      resume scope (v b) n pending x t r s₁ = some (out, s')) :
    Comes scope v pending x t s out s' := by
  obtain ⟨b₁, h₁⟩ := hv
  obtain ⟨b₂, h₂⟩ := hnext
  refine comes_of_step ⟨max b₁ b₂, fun b n hb hn => ?_⟩
  rw [node_of_eligible hel]
  exact Bounded.bind_eq_some.mpr ⟨r, s₁, h₁ b (by omega), h₂ b n (by omega) (by omega)⟩

theorem comes_raise {e : ε} (hel : eligible scope t.site = true)
    (hv : Bounded.Comes (fun b => (v b).visit x t) s (.error e) s₁) :
    Comes scope v pending x t s (x, some e) s₁ :=
  comes_visit hel hv ⟨0, fun _ _ _ _ => rfl⟩

variable (hel : eligible scope t.site = true)
  (hv : Bounded.Comes (fun b => (v b).visit x t) s (.ok d) s₁)
include hel hv

theorem comes_revisit (hd : d.settle x = (new, .revisit))
    (hnext : Comes scope v (d.completion.toList ++ pending) new t s₁ out s') :
    Comes scope v pending x t s out s' := by
  obtain ⟨b₀, h₀⟩ := hnext
  refine comes_visit hel hv ⟨b₀, fun b n hb hn => ?_⟩
  simp only [resume, hd]
  exact h₀ b n hb hn

theorem comes_broken {e : ε} (hd : d.settle x = (new, .descend))
    (hkids : ChildrenCome scope v new t s₁ (y, some e) s') :
    Comes scope v pending x t s (y, some e) s' := by
  obtain ⟨b₀, h₀⟩ := hkids
  refine comes_visit hel hv ⟨b₀, fun b n hb hn => ?_⟩
  simp only [resume, hd]
  exact Bounded.bind_eq_some.mpr ⟨_, _, h₀ b n hb hn, rfl⟩

theorem comes_descend (hd : d.settle x = (new, .descend))
    (hkids : ChildrenCome scope v new t s₁ (y, none) s₂)
    (hfinish : Bounded.Comes (fun b => finish (v b) t (d.completion.toList ++ pending) y) s₂ out
      s') : Comes scope v pending x t s out s' := by
  obtain ⟨b₁, h₁⟩ := hkids
  obtain ⟨b₂, h₂⟩ := hfinish
  refine comes_visit hel hv ⟨max b₁ b₂, fun b n hb hn => ?_⟩
  simp only [resume, hd]
  exact Bounded.bind_eq_some.mpr ⟨_, _, h₁ b n (by omega) (by omega), h₂ b (by omega)⟩

theorem comes_done (hd : d.settle x = (new, .done))
    (hfinish : Bounded.Comes (fun b => finish (v b) t (d.completion.toList ++ pending) new) s₁ out
      s') : Comes scope v pending x t s out s' := by
  obtain ⟨b₀, h₀⟩ := hfinish
  refine comes_visit hel hv ⟨b₀, fun b n hb _ => ?_⟩
  simp only [resume, hd]
  exact h₀ b hb

end Nodes

/--
A walk comes to a result if a condition holds of its tree that the visitor passes on, with smaller
rank, to the children and to replacements that are to be visited again.
-/
theorem node_comes {ρ : Type} [WellFoundedRelation ρ] (rank : Json → Tracker τ → ρ)
    {I : Json → Tracker τ → σ → Prop}
    (stable : ∀ {x t x' t' s s'}, I x t s → I x' t' s → Leads scope v x' t' s s' → I x t s')
    (pass : ∀ {x t s}, I x t s → eligible scope t.site = false → ∀ k ∈ x.kids,
      I k.2 (t.move k.1) s ∧ WellFoundedRelation.rel (rank k.2 (t.move k.1)) (rank x t))
    (visit : ∀ {x t s}, I x t s → eligible scope t.site = true →
      ∃ r s₁, Bounded.Comes (fun b => (v b).visit x t) s r s₁ ∧ ∀ d, r = .ok d →
        ((d.settle x).2 = .revisit → I (d.settle x).1 t s₁ ∧
          WellFoundedRelation.rel (rank (d.settle x).1 t) (rank x t)) ∧
        ((d.settle x).2 = .descend → ∀ k ∈ (d.settle x).1.kids, I k.2 (t.move k.1) s₁ ∧
          WellFoundedRelation.rel (rank k.2 (t.move k.1)) (rank x t)))
    (complete : ∀ c x t s, ∃ out s', Bounded.Comes (fun b => (v b).complete c x t) s out s')
    {x : Json} {t : Tracker τ} {s : σ} (h : I x t s) (pending : List κ) :
    ∃ out s', Comes scope v pending x t s out s' := by
  generalize hr : rank x t = r
  induction r using WellFounded.induction (WellFoundedRelation.wf (α := ρ)) generalizing
    x t s pending with
  | _ r ih =>
  subst hr
  have below : ∀ {y : Json} {s₁ : σ}, (∀ k ∈ y.kids, I k.2 (t.move k.1) s₁ ∧
      WellFoundedRelation.rel (rank k.2 (t.move k.1)) (rank x t)) →
      ∃ out s', ChildrenCome scope v y t s₁ out s' := fun hkids => by
    obtain ⟨ys, e, s', hcome⟩ := children_come stable
      (fun k hk {_} hI => ih _ (hkids k hk).2 hI [] rfl) (fun k hk => (hkids k hk).1)
    exact ⟨_, s', hcome.children⟩
  cases hel : eligible scope t.site with
  | false =>
    cases hoff : t.isOffRoad with
    | true => exact ⟨_, _, comes_skip hel hoff⟩
    | false =>
      obtain ⟨out, s', hkids⟩ := below (pass h hel)
      exact ⟨out, s', comes_pass hel hoff hkids⟩
  | true =>
    obtain ⟨r, s₁, hvisit, hnext⟩ := visit h hel
    cases r with
    | error e => exact ⟨_, _, comes_raise hel hvisit⟩
    | ok d =>
      obtain ⟨hrevisit, hdescend⟩ := hnext d rfl
      rcases hsettle : d.settle x with ⟨new, action⟩
      rw [hsettle] at hrevisit hdescend
      cases action with
      | revisit =>
        obtain ⟨hI, hrank⟩ := hrevisit rfl
        obtain ⟨out, s', hcome⟩ := ih _ hrank hI (d.completion.toList ++ pending) rfl
        exact ⟨out, s', comes_revisit hel hvisit hsettle hcome⟩
      | descend =>
        obtain ⟨⟨y, e⟩, s₂, hkids⟩ := below (hdescend rfl)
        cases e with
        | some e => exact ⟨_, _, comes_broken hel hvisit hsettle hkids⟩
        | none =>
          obtain ⟨out, s', hfinish⟩ :=
            finish_comes complete (d.completion.toList ++ pending) y t s₂
          exact ⟨out, s', comes_descend hel hvisit hsettle hkids hfinish⟩
      | done =>
        obtain ⟨out, s', hfinish⟩ :=
          finish_comes complete (d.completion.toList ++ pending) new t s₁
        exact ⟨out, s', comes_done hel hvisit hsettle hfinish⟩

end Walk

end ApiBundle
