import ApiBundle.OrderedMap

/-!
# Laws of ordered maps

What putting, changing and overlaying do to the keys and to what is found under them. A map with
keys that are all different is determined by its pairs: a pair is what is found under its key.
-/

namespace ApiBundle

namespace OrderedMap

variable {α β γ : Type} [DecidableEq α] {m : OrderedMap α β} {k k' key : α}

/-! ## Looking up -/

theorem find?_of_nodup {entry : α × β} (h : (keys m).Nodup) (hm : entry ∈ m) :
    find? m entry.1 = some entry.2 := by
  induction m with
  | nil => cases hm
  | cons first rest ih =>
    obtain ⟨k, x⟩ := first
    have hnodup : k ∉ keys rest ∧ (keys rest).Nodup := List.nodup_cons.mp h
    rcases List.mem_cons.mp hm with rfl | hm
    · simp [find?]
    · have hne : k ≠ entry.1 := fun heq => hnodup.1 (heq ▸ List.mem_map_of_mem hm)
      simp [find?, hne, ih hnodup.2 hm]

theorem mem_of_find? {v : β} (h : find? m k = some v) : (k, v) ∈ m := by
  induction m with
  | nil => cases h
  | cons entry rest ih =>
    obtain ⟨l, w⟩ := entry
    simp only [find?] at h
    split at h
    · next heq =>
      cases h
      subst heq
      exact List.mem_cons_self ..
    · exact List.mem_cons_of_mem _ (ih h)

theorem mem_keys_of_find? {v : β} (h : find? m k = some v) : k ∈ keys m :=
  List.mem_map_of_mem (mem_of_find? h)

theorem find?_eq_none_of_not_mem (h : k ∉ keys m) : find? m k = none := by
  cases hfind : find? m k with
  | none => rfl
  | some v => exact absurd (mem_keys_of_find? hfind) h

theorem exists_find?_of_mem_keys (h : k ∈ keys m) : ∃ v, find? m k = some v := by
  induction m with
  | nil => cases h
  | cons entry rest ih =>
    by_cases hhead : entry.1 = k
    · exact ⟨entry.2, by simp [find?, hhead]⟩
    · have hrest : k ∈ keys rest := (List.mem_cons.mp h).resolve_left (Ne.symm hhead)
      obtain ⟨v, hv⟩ := ih hrest
      exact ⟨v, by simp [find?, hhead, hv]⟩

theorem find?_eq_none_iff : find? m k = none ↔ k ∉ keys m := by
  refine ⟨fun hnone hmem => ?_, find?_eq_none_of_not_mem⟩
  obtain ⟨v, hv⟩ := exists_find?_of_mem_keys hmem
  rw [hnone] at hv
  cases hv

theorem find?_map (l : List γ) (k : γ → α) (v : γ → β) (key : α) :
    find? (l.map fun x => (k x, v x)) key = (l.find? fun x => k x = key).map v := by
  induction l with
  | nil => rfl
  | cons x l ih => by_cases h : k x = key <;> simp [find?, h, ih]

/-- The value under a key that is listed among others. -/
theorem find?_graph (l : List α) (v : α → β) (key : α) :
    find? (l.map fun x => (x, v x)) key = if key ∈ l then some (v key) else none := by
  induction l with
  | nil => rfl
  | cons x l ih =>
    by_cases h : x = key
    · simp [find?, h]
    · have h' : ¬ key = x := fun heq => h heq.symm
      simp [find?, h, h', ih]

theorem find?_remove (m : OrderedMap α β) (key k : α) :
    find? (remove m key) k = if key = k then none else find? m k := by
  induction m with
  | nil => simp [remove, find?]
  | cons entry rest ih =>
    obtain ⟨l, v⟩ := entry
    unfold remove at ih ⊢
    by_cases h : l = key
    · by_cases hk : key = k <;> simp_all [find?]
    · by_cases hk : key = k <;> by_cases hl : l = k <;> simp_all [find?]

/-! ## Putting -/

theorem put_put (m : OrderedMap α β) (k : α) (v v' : β) : put (put m k v) k v' = put m k v' := by
  induction m with
  | nil => simp [put]
  | cons entry rest ih =>
    by_cases h : entry.1 = k
    · simp [put, h]
    · simp [put, h, ih]

/-- A key that is there keeps its place, so the order of two changes does not matter. -/
theorem put_comm (hk : k ∈ keys m) (hne : k ≠ k') (v v' : β) :
    put (put m k' v') k v = put (put m k v) k' v' := by
  induction m with
  | nil => cases hk
  | cons entry rest ih =>
    obtain ⟨l, w⟩ := entry
    by_cases h : l = k
    · subst h
      simp [put, hne]
    · have hrest : k ∈ keys rest := by
        rcases List.mem_cons.mp hk with heq | hmem
        · exact absurd heq.symm h
        · exact hmem
      by_cases h' : l = k'
      · simp [put, h', Ne.symm hne]
      · simp [put, h, h', ih hrest]

theorem put_of_not_mem (h : key ∉ keys m) (value : β) : put m key value = m ++ [(key, value)] := by
  induction m with
  | nil => rfl
  | cons entry rest ih =>
    have hhead : entry.1 ≠ key := fun heq => h (heq ▸ List.mem_cons_self ..)
    have hrest : key ∉ keys rest := fun hmem => h (List.mem_cons_of_mem _ hmem)
    simp [put, hhead, ih hrest]

theorem put_of_mem (h : key ∈ keys m) (value : β) :
    put m key value = modify m key fun _ => value := by
  induction m with
  | nil => cases h
  | cons entry rest ih =>
    by_cases hhead : entry.1 = key
    · simp [put, modify, hhead]
    · have hrest : key ∈ keys rest := by
        rcases List.mem_cons.mp h with heq | hmem
        · exact absurd heq.symm hhead
        · exact hmem
      simp [put, modify, hhead, ih hrest]

/-- Putting what is there changes nothing. -/
theorem put_self {v : β} (h : find? m k = some v) : put m k v = m := by
  induction m with
  | nil => cases h
  | cons entry rest ih =>
    obtain ⟨k', v'⟩ := entry
    by_cases hk : k' = k
    · subst hk
      simp only [find?, if_true, Option.some.injEq] at h
      simp [put, h]
    · simp only [find?, if_neg hk] at h
      simp [put, hk, ih h]

theorem nodup_keys_put (h : (keys m).Nodup) (k : α) (v : β) : (keys (put m k v)).Nodup := by
  rw [keys_put]
  split
  · exact h
  · next hk =>
    refine List.nodup_append.mpr ⟨h, by simp, fun a ha b hb heq => hk ?_⟩
    cases List.mem_singleton.mp hb
    exact heq ▸ ha

theorem mem_put {v : β} {entry : α × β} (h : entry ∈ put m k v) : entry ∈ m ∨ entry = (k, v) := by
  induction m with
  | nil => exact .inr (by cases List.mem_singleton.mp h; rfl)
  | cons first rest ih =>
    obtain ⟨k', x'⟩ := first
    unfold put at h
    split at h
    · next hk =>
      subst hk
      rcases List.mem_cons.mp h with rfl | h
      · exact .inr rfl
      · exact .inl (List.mem_cons_of_mem _ h)
    · rcases List.mem_cons.mp h with rfl | h
      · exact .inl (List.mem_cons_self ..)
      · rcases ih h with h | h
        · exact .inl (List.mem_cons_of_mem _ h)
        · exact .inr h

theorem keys_prefix_put (m : OrderedMap α β) (k : α) (v : β) : keys m <+: keys (put m k v) := by
  rw [keys_put]
  split
  · exact List.prefix_refl _
  · exact List.prefix_append _ _

/-! ## Changing -/

/-- A change under one of several different keys. -/
theorem modify_map {l : List γ} {k : γ → α} {v : γ → β} (hnodup : (l.map k).Nodup) (f : β → β) :
    modify (l.map fun x => (k x, v x)) key f =
      l.map fun x => (k x, if k x = key then f (v x) else v x) := by
  induction l with
  | nil => rfl
  | cons x l ih =>
    obtain ⟨hx, hl⟩ := List.nodup_cons.mp hnodup
    by_cases h : k x = key
    · have hrest : ∀ y ∈ l, k y ≠ key := fun y hy heq =>
        hx ((heq.trans h.symm) ▸ List.mem_map_of_mem hy)
      simp only [List.map_cons, modify, h, if_true]
      congr 1
      exact List.map_congr_left fun y hy => by rw [if_neg (hrest y hy)]
    · simp only [List.map_cons, modify, h, if_false]
      rw [ih hl]

theorem modify_graph {l : List α} (hnodup : l.Nodup) (v : α → β) (f : β → β) :
    modify (l.map fun x => (x, v x)) key f =
      l.map fun x => (x, if x = key then f (v x) else v x) :=
  modify_map (k := fun x => x) (by simpa using hnodup) f

/-! ## Overlaying -/

variable {incoming : OrderedMap α β}

/-- What is under a key after an overlay by pairs with different keys. -/
theorem find?_overlay (hnodup : (keys incoming).Nodup) (m : OrderedMap α β) (key : α) :
    find? (overlay m incoming) key = (find? incoming key).or (find? m key) := by
  induction incoming generalizing m with
  | nil => rfl
  | cons entry rest ih =>
    obtain ⟨k, v⟩ := entry
    obtain ⟨hk, hrest⟩ := List.nodup_cons.mp hnodup
    have hfind : find? (overlay (put m k v) rest) key =
        (find? rest key).or (find? (put m k v) key) := ih hrest _
    refine hfind.trans ?_
    rw [find?_put]
    by_cases h : k = key
    · have hnone : find? rest key = none := find?_eq_none_of_not_mem (h ▸ hk)
      simp [find?, h, hnone]
    · simp [find?, h]

/-- The keys that are there stay in front. -/
theorem keys_prefix_overlay (m incoming : OrderedMap α β) : keys m <+: keys (overlay m incoming) := by
  induction incoming generalizing m with
  | nil => exact List.prefix_refl _
  | cons entry rest ih => exact (keys_prefix_put m _ _).trans (ih _)

/-- Pairs with new and different keys come behind the others. -/
theorem overlay_of_nodup {m : OrderedMap α β} (h : (keys (m ++ incoming)).Nodup) :
    overlay m incoming = m ++ incoming := by
  induction incoming generalizing m with
  | nil => exact (List.append_nil m).symm
  | cons entry rest ih =>
    have hsplit : (keys m ++ keys (entry :: rest)).Nodup := by
      rwa [keys, List.map_append] at h
    have hfresh : entry.1 ∉ keys m := fun hmem =>
      (List.nodup_append.mp hsplit).2.2 _ hmem _ (List.mem_cons_self ..) rfl
    have hput : put m entry.1 entry.2 = m ++ [entry] := put_of_not_mem hfresh _
    calc overlay m (entry :: rest) = overlay (m ++ [entry]) rest := congrArg (overlay · rest) hput
      _ = m ++ [entry] ++ rest := ih (by rwa [List.append_cons] at h)
      _ = m ++ entry :: rest := (List.append_cons ..).symm

theorem mem_overlay {m : OrderedMap α β} {entry : α × β} (h : entry ∈ overlay m incoming) :
    entry ∈ m ∨ entry ∈ incoming := by
  induction incoming generalizing m with
  | nil => exact .inl h
  | cons first rest ih =>
    rcases ih h with hput | hrest
    · rcases mem_put hput with hm | rfl
      · exact .inl hm
      · exact .inr (List.mem_cons_self ..)
    · exact .inr (List.mem_cons_of_mem _ hrest)

theorem mem_keys_put {m : OrderedMap α β} {k key : α} {v : β} :
    key ∈ keys (put m k v) ↔ key ∈ keys m ∨ key = k := by
  rw [keys_put]
  split
  · next hk => exact ⟨.inl, fun h => h.elim id fun heq => heq ▸ hk⟩
  · simp

theorem mem_keys_overlay {m : OrderedMap α β} {key : α} :
    key ∈ keys (overlay m incoming) ↔ key ∈ keys m ∨ key ∈ keys incoming := by
  induction incoming generalizing m with
  | nil => simp [overlay, keys]
  | cons first rest ih =>
    have hrest : key ∈ keys (overlay (put m first.1 first.2) rest) ↔
        key ∈ keys (put m first.1 first.2) ∨ key ∈ keys rest := ih
    show key ∈ keys (overlay (put m first.1 first.2) rest) ↔ _
    rw [hrest, mem_keys_put]
    simp [keys, or_assoc]

end OrderedMap

end ApiBundle
