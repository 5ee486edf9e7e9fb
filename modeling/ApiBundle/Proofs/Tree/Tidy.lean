import ApiBundle.Proofs.Tree.SameValue

/-!
# Tidy trees

What loading needs of a document: no object has two members of one name, and no `$ref` member is a
reference node itself. Replacing the nodes below a node keeps it tidy as long as firm nodes stay, and
so does writing a tree to the place that it was read from, even where the pointer to the place leads
through `$ref` members (`Json.Sits`).
-/

namespace ApiBundle.Json

/-- Members of one name do not occur, and the `$ref` member is no reference node. -/
structure Tidy (x : Json) : Prop where
  distinct : x.Distinct
  literal : x.Literal

instance : DecidablePred Distinct := fun x =>
  match x with
  | .object ms => decidable_of_iff (OrderedMap.keys ms).Nodup
      ⟨fun h _ heq => by cases heq; exact h, fun h => h ms rfl⟩
  | .null | .bool _ | .number _ | .string _ | .array _ => isTrue fun _ h => by cases h

instance : DecidablePred Tidy := fun x =>
  decidable_of_iff (x.Distinct ∧ x.Literal) ⟨fun h => ⟨h.1, h.2⟩, fun h => ⟨h.1, h.2⟩⟩

variable {x y : Json}

theorem literal_of_tidy (h : x.Throughout Tidy) : x.Throughout Literal := h.mono Tidy.literal

theorem tidy_of_plain (h : x.Throughout Plain) : x.Throughout Tidy := by
  refine h.mono fun {z} hz => ⟨hz.distinct, fun y hy => ?_⟩
  have hbare : z.member? refKey = none := hz.bare
  rw [hbare] at hy
  cases hy

theorem mem_kids_replace {step : Segment} {new : Json} {k : Segment × Json}
    (hk : k ∈ (x.replace step new).kids) : k ∈ x.kids ∨ k.2 = new ∨
      ∃ i, x.step? (.index i) = some k.2 := by
  cases x with
  | object ms =>
    cases step with
    | key name =>
      obtain ⟨m, hm, rfl⟩ := List.mem_map.mp hk
      rcases OrderedMap.mem_put hm with hm | rfl
      · exact .inl (List.mem_map_of_mem hm)
      · exact .inr (.inl rfl)
    | index i => exact .inl hk
  | array xs =>
    cases step with
    | key name => exact .inl hk
    | index i =>
      obtain ⟨j, -, hj⟩ := mem_indexed hk
      rcases List.mem_or_eq_of_mem_set (List.mem_of_getElem? hj) with hmem | heq
      · exact .inr (.inr (List.getElem?_of_mem hmem))
      · exact .inr (.inl heq)
  | null | bool | number | string => cases step <;> exact .inl hk

/-- What holds throughout a tree holds below a node of it where another child was put. -/
theorem Throughout.replace {P : Json → Prop} {step : Segment} {new : Json} (h : x.Throughout P)
    (here : P (x.replace step new)) (hnew : new.Throughout P) :
    (x.replace step new).Throughout P := by
  refine .mk here fun k hk => ?_
  rcases mem_kids_replace hk with hk | rfl | ⟨i, hi⟩
  · exact h.kid hk
  · exact hnew
  · exact h.step? hi

theorem Distinct.replace {step : Segment} {new : Json} (h : x.Distinct) :
    (x.replace step new).Distinct := by
  intro ms hms
  cases x with
  | object ms' =>
    cases step with
    | key name =>
      cases hms
      exact OrderedMap.nodup_keys_put (h ms' rfl) _ _
    | index i => exact h ms hms
  | array xs => cases step <;> cases hms
  | null | bool | number | string => cases step <;> cases hms

/-- The members of a node where another child was put. -/
theorem member?_replace {step : Segment} {new old : Json} (h : x.step? step = some old)
    (name : String) :
    (x.replace step new).member? name = if step = .key name then some new else x.member? name := by
  cases x with
  | object ms =>
    cases step with
    | key k => simp [Json.replace, member?, OrderedMap.find?_put]
    | index i => cases h
  | array xs =>
    cases step with
    | key k => cases h
    | index i => rfl
  | null | bool | number | string => cases step <;> cases h

theorem replace_ne_string {step : Segment} {new old : Json} {text : String}
    (h : x.step? step = some old) : x.replace step new ≠ .string text := by
  intro heq
  cases x with
  | object ms => cases step <;> cases heq
  | array xs => cases step <;> cases heq
  | null | bool | number | string => cases step <;> cases h

/-! ## Children -/

/-- A tidy node stays tidy when firm nodes below it stay. -/
theorem tidy_withKids {ys : List Json} (h : x.Throughout Tidy) (hlen : ys.length = x.kids.length)
    (hys : ∀ k ∈ x.kids.zip ys, Kept k.1.2 k.2 ∧ k.2.Throughout Tidy) :
    (x.withKids ys).Throughout Tidy := by
  refine .withKids hlen ⟨h.here.distinct.withKids hlen, fun b hb => ?_⟩ fun k hk => (hys k hk).2
  rw [member?_eq_step?] at hb
  obtain ⟨a, ha, hmem⟩ := step?_withKids hlen hb
  rw [← member?_eq_step?] at ha
  have hkept : Kept a b := (hys _ hmem).1
  exact hkept.refText?_eq_none (literal_of_tidy (h.member? ha)) (h.here.literal a ha)

/-! ## Places -/

/-- A tree may stand at the end of a pointer: it makes no `$ref` member a reference node. -/
structure Sits (tokens : List String) (value : Json) : Prop where
  plain : ∀ front, tokens = front ++ [refKey] → value.refText? = none
  noText : ∀ front, tokens = front ++ [refKey, refKey] → ∀ text, value ≠ .string text

namespace Sits

variable {token : String} {tokens : List String} {value : Json}

theorem tail (h : Sits (token :: tokens) value) : Sits tokens value :=
  ⟨fun front heq => h.plain (token :: front) (by rw [heq]; rfl),
    fun front heq => h.noText (token :: front) (by rw [heq]; rfl)⟩

theorem kept (h : Sits tokens value) {new : Json} (hlit : value.Throughout Literal)
    (hkept : Kept value new) : Sits tokens new := by
  refine ⟨fun front heq => hkept.refText?_eq_none hlit (h.plain front heq),
    fun front heq text hnew => ?_⟩
  subst hnew
  have hfirm : ¬Volatile value := not_volatile hlit
    (h.plain (front ++ [refKey]) (by rw [heq, List.append_assoc]; rfl))
  exact h.noText front heq text (hkept.eq_string hfirm)

end Sits

/-- What is read from a tidy tree may stand where it was read. -/
theorem sits_of_lookup {tokens : List String} {value : Json} (h : x.Throughout Tidy)
    (hx : Pointer.lookup x tokens = some value) : Sits tokens value := by
  have step : ∀ {z a : Json} {rest : List String}, z.Throughout Tidy →
      Pointer.lookup z (refKey :: rest) = some a →
      ∃ b, z.member? refKey = some b ∧ Pointer.lookup b rest = some a := by
    intro z a rest _ hz
    simp only [Pointer.lookup] at hz
    obtain ⟨b, hb, hrest⟩ := Option.bind_eq_some_iff.mp hz
    cases z with
    | object ms => exact ⟨b, hb, hrest⟩
    | array xs =>
      have hnone : Pointer.index? refKey = none := by decide
      simp [Pointer.child?, hnone] at hb
    | null | bool | number | string => cases hb
  have before : ∀ {front rest : List String} {z a : Json}, z.Throughout Tidy →
      Pointer.lookup z (front ++ rest) = some a →
      ∃ b, b.Throughout Tidy ∧ Pointer.lookup b rest = some a := by
    intro front
    induction front with
    | nil => exact fun hz ha => ⟨_, hz, ha⟩
    | cons token front ih =>
      intro rest z a hz ha
      simp only [List.cons_append, Pointer.lookup, Pointer.child?_eq, Option.bind_eq_some_iff] at ha
      obtain ⟨child, ⟨segment, -, hchild⟩, hrest⟩ := ha
      exact ih (hz.step? hchild) hrest
  refine ⟨fun front heq => ?_, fun front heq text hvalue => ?_⟩
  · subst heq
    obtain ⟨b, hb, hlast⟩ := before h hx
    obtain ⟨c, hc, hend⟩ := step hb hlast
    cases hend
    exact hb.here.literal _ hc
  · subst heq
    subst hvalue
    obtain ⟨b, hb, hlast⟩ := before h hx
    obtain ⟨c, hc, hrest⟩ := step hb hlast
    obtain ⟨d, hd, hend⟩ := step (hb.member? hc) hrest
    cases hend
    have hnone := hb.here.literal c hc
    rw [refText?_of_member?.mpr hd] at hnone
    cases hnone

/-- Writing a tidy tree to a place where it may stand. -/
theorem tidy_overwrite {tokens : List String} {value new : Json} (h : x.Throughout Tidy)
    (hvalue : value.Throughout Tidy) (hsits : Sits tokens value)
    (hnew : Pointer.overwrite x value tokens = some new) : new.Throughout Tidy := by
  have key : new.Throughout Tidy ∧ (x.refText? = none → tokens ≠ [] →
      (tokens = [refKey] → ∀ text, value ≠ .string text) → new.refText? = none) := by
    induction tokens generalizing x new with
    | nil =>
      cases hnew
      exact ⟨hvalue, fun _ h => absurd rfl h⟩
    | cons token rest ih =>
      obtain ⟨step, old, child, hstep, hold, hrest, rfl⟩ := Pointer.overwrite_cons hnew
      obtain ⟨hchild, hplain⟩ := ih (h.step? hold) hsits.tail hrest
      -- a step under `$ref` is one to the member of that name
      have named : step = .key refKey → token = refKey := by
        rintro rfl
        cases x with
        | object ms =>
          cases hstep
          rfl
        | array xs => simp [Pointer.segment?] at hstep
        | null | bool | number | string => cases hstep
      refine ⟨h.replace ⟨h.here.distinct.replace, fun y hy => ?_⟩ hchild, fun hx _ hlast => ?_⟩
      · rw [member?_replace hold] at hy
        split at hy
        · next hkey =>
          cases hy
          have htoken := named hkey
          subst hkey htoken
          have hplace : old.refText? = none :=
            h.here.literal old ((member?_eq_step? x _).trans hold)
          cases rest with
          | nil =>
            cases hrest
            exact hsits.plain [] rfl
          | cons next rest =>
            refine hplain hplace (by simp) fun heq => ?_
            exact hsits.noText [] (by rw [heq]; rfl)
        · exact h.here.literal y hy
      · have hother : (x.replace step child).member? refKey =
            if step = .key refKey then some child else x.member? refKey := member?_replace hold _
        cases htext : (x.replace step child).refText? with
        | none => rfl
        | some text =>
          rw [refText?_of_member?, hother] at htext
          split at htext
          · next hkey =>
            cases htext
            have htoken := named hkey
            subst htoken
            cases rest with
            | nil =>
              cases hrest
              exact absurd rfl (hlast rfl text)
            | cons next rest =>
              obtain ⟨_, _, _, -, hold', -, hreplaced⟩ := Pointer.overwrite_cons hrest
              exact absurd hreplaced.symm (replace_ne_string hold')
          · rw [← refText?_of_member?, hx] at htext
            cases htext
  exact key.1

end ApiBundle.Json
