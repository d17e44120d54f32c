/-
Lists of keys with values in which each key stands once, at the place where it was first set.
-/

namespace SchemaLineage

/-- Set a key's value: in place when the key is there, at the end otherwise. -/
def upsert {α β : Type} [BEq α] (k : α) (v : β) : List (α × β) → List (α × β)
  | [] => [(k, v)]
  | (k', v') :: ms => if k' == k then (k, v) :: ms else (k', v') :: upsert k v ms

theorem lookup_upsert_self {α β : Type} [BEq α] [LawfulBEq α] (k : α) (v : β)
    (ms : List (α × β)) : (upsert k v ms).lookup k = some v := by
  induction ms with
  | nil => simp [upsert]
  | cons m ms ih =>
    obtain ⟨k', v'⟩ := m
    unfold upsert
    by_cases h : k' = k
    · subst h; simp
    · have h1 : (k' == k) = false := beq_eq_false_iff_ne.mpr h
      have h2 : (k == k') = false := beq_eq_false_iff_ne.mpr (Ne.symm h)
      simp [h1, List.lookup_cons, h2, ih]

theorem lookup_upsert_of_ne {α β : Type} [BEq α] [LawfulBEq α] {k j : α} (h : j ≠ k) (v : β)
    (ms : List (α × β)) : (upsert k v ms).lookup j = ms.lookup j := by
  induction ms with
  | nil =>
    have : (j == k) = false := beq_eq_false_iff_ne.mpr h
    simp [upsert, List.lookup_cons, this]
  | cons m ms ih =>
    obtain ⟨k', v'⟩ := m
    unfold upsert
    by_cases hk : k' = k
    · subst hk
      have : (j == k') = false := beq_eq_false_iff_ne.mpr h
      simp [List.lookup_cons, this]
    · have h1 : (k' == k) = false := beq_eq_false_iff_ne.mpr hk
      simp only [h1, Bool.false_eq_true, ↓reduceIte, List.lookup_cons, ih]

/-- Set the keys one after another. -/
def keyed {α β : Type} [BEq α] (pairs : List (α × β)) : List (α × β) :=
  pairs.foldl (fun acc p => upsert p.1 p.2 acc) []

theorem keys_upsert {α β : Type} [BEq α] [LawfulBEq α] (k : α) (v : β) (ms : List (α × β)) :
    (upsert k v ms).map (·.1) =
      if k ∈ ms.map (·.1) then ms.map (·.1) else ms.map (·.1) ++ [k] := by
  induction ms with
  | nil => simp [upsert]
  | cons m ms ih =>
    obtain ⟨k', v'⟩ := m
    unfold upsert
    by_cases h : k' = k
    · subst h; simp
    · have h1 : (k' == k) = false := beq_eq_false_iff_ne.mpr h
      have h2 : k ≠ k' := Ne.symm h
      simp only [h1, Bool.false_eq_true, ↓reduceIte, List.map_cons, ih, List.mem_cons, h2,
        false_or]
      split <;> rfl

/-- A key that is not there comes last. -/
theorem upsert_of_not_mem {α β : Type} [BEq α] [LawfulBEq α] {k : α} {v : β} {ms : List (α × β)}
    (h : k ∉ ms.map (·.1)) : upsert k v ms = ms ++ [(k, v)] := by
  induction ms with
  | nil => rfl
  | cons m ms ih =>
    obtain ⟨k', v'⟩ := m
    rw [List.map_cons, List.mem_cons, not_or] at h
    have hne : (k' == k) = false := beq_eq_false_iff_ne.mpr (Ne.symm h.1)
    unfold upsert
    rw [hne, ih h.2]
    rfl

/-- Keys that are all different are set in their order. -/
theorem keyed_of_nodup {α β : Type} [BEq α] [LawfulBEq α] {pairs : List (α × β)}
    (h : (pairs.map (·.1)).Nodup) : keyed pairs = pairs := by
  have hfold : ∀ ms : List (α × β), ((ms ++ pairs).map (·.1)).Nodup →
      pairs.foldl (fun acc p => upsert p.1 p.2 acc) ms = ms ++ pairs := by
    clear h
    induction pairs with
    | nil => intro ms _; simp
    | cons p pairs ih =>
      intro ms hms
      have hp : p.1 ∉ ms.map (·.1) := by
        intro hmem
        rw [List.map_append, List.map_cons] at hms
        exact (List.nodup_append.mp hms).2.2 p.1 hmem p.1 List.mem_cons_self rfl
      have happ : ms ++ p :: pairs = ms ++ [p] ++ pairs := by simp
      rw [List.foldl_cons, upsert_of_not_mem hp]
      rw [happ] at hms ⊢
      exact ih (ms ++ [p]) hms
  exact hfold [] h

/-- Which keys there are, and in which order, does not hang on the values. -/
theorem keys_keyed {α β : Type} [BEq α] [LawfulBEq α] (pairs : List (α × β)) :
    (keyed pairs).map (·.1) =
      (pairs.map (·.1)).foldl (fun ks k => if k ∈ ks then ks else ks ++ [k]) [] := by
  have hfold : ∀ ms : List (α × β),
      (pairs.foldl (fun acc p => upsert p.1 p.2 acc) ms).map (·.1) =
        (pairs.map (·.1)).foldl (fun ks k => if k ∈ ks then ks else ks ++ [k]) (ms.map (·.1)) := by
    induction pairs with
    | nil => intro ms; rfl
    | cons p pairs ih =>
      intro ms
      rw [List.foldl_cons, ih, keys_upsert, List.map_cons, List.foldl_cons]
  exact hfold []

/-- Each key stands once. -/
theorem nodup_keys_upsert {α β : Type} [BEq α] [LawfulBEq α] (k : α) (v : β)
    {ms : List (α × β)} (h : (ms.map (·.1)).Nodup) : ((upsert k v ms).map (·.1)).Nodup := by
  rw [keys_upsert]
  split
  · exact h
  · rename_i hk
    exact List.nodup_append.mpr ⟨h, by simp, by
      intro a ha b hb hab
      rw [List.mem_singleton.mp hb] at hab
      exact hk (hab ▸ ha)⟩

theorem lookup_foldl_upsert {α β : Type} [BEq α] [LawfulBEq α] (pairs ms : List (α × β)) (k : α) :
    (pairs.foldl (fun acc p => upsert p.1 p.2 acc) ms).lookup k =
      (pairs.reverse.lookup k).or (ms.lookup k) := by
  induction pairs generalizing ms with
  | nil => rfl
  | cons p pairs ih =>
    obtain ⟨k', v⟩ := p
    rw [List.foldl_cons, ih, List.reverse_cons, List.lookup_append]
    cases pairs.reverse.lookup k with
    | some w => rfl
    | none =>
      by_cases h : k = k'
      · rw [h, lookup_upsert_self, List.lookup_cons_self]
        rfl
      · have hne : (k == k') = false := beq_eq_false_iff_ne.mpr h
        rw [lookup_upsert_of_ne h, List.lookup_cons, hne]
        rfl

/-- Of several values for a key the last one counts. -/
theorem lookup_keyed {α β : Type} [BEq α] [LawfulBEq α] (pairs : List (α × β)) (k : α) :
    (keyed pairs).lookup k = pairs.reverse.lookup k := by
  rw [keyed, lookup_foldl_upsert]
  exact Option.or_none

theorem mem_upsert {α β : Type} [BEq α] {k : α} {v : β} {ms : List (α × β)} {p : α × β}
    (h : p ∈ upsert k v ms) : p = (k, v) ∨ p ∈ ms := by
  induction ms with
  | nil => exact .inl (List.mem_singleton.mp h)
  | cons m ms ih =>
    obtain ⟨k', v'⟩ := m
    unfold upsert at h
    split at h
    · rcases List.mem_cons.mp h with h | h
      · exact .inl h
      · exact .inr (List.mem_cons_of_mem _ h)
    · rcases List.mem_cons.mp h with h | h
      · exact .inr (h ▸ List.mem_cons_self)
      · exact (ih h).imp_right (List.mem_cons_of_mem _)

/-- Only what was set is there. -/
theorem mem_of_mem_keyed {α β : Type} [BEq α] {pairs : List (α × β)} {p : α × β}
    (h : p ∈ keyed pairs) : p ∈ pairs := by
  have hfold : ∀ ms : List (α × β), p ∈ pairs.foldl (fun acc p => upsert p.1 p.2 acc) ms →
      p ∈ pairs ∨ p ∈ ms := by
    clear h
    induction pairs with
    | nil => exact fun ms hms => .inr hms
    | cons q pairs ih =>
      intro ms hms
      rcases ih _ hms with hms | hms
      · exact .inl (List.mem_cons_of_mem q hms)
      · rcases mem_upsert hms with rfl | hms
        · exact .inl List.mem_cons_self
        · exact .inr hms
  exact (hfold [] h).resolve_right List.not_mem_nil

/-- Leaving out other keys does not change what a key has. -/
theorem lookup_filter {α β : Type} [BEq α] [LawfulBEq α] {p : α × β → Bool} {k : α}
    (h : ∀ v, p (k, v) = true) (ms : List (α × β)) : (ms.filter p).lookup k = ms.lookup k := by
  induction ms with
  | nil => rfl
  | cons m ms ih =>
    obtain ⟨k', v⟩ := m
    by_cases hk : k = k'
    · subst hk
      rw [List.filter_cons_of_pos (h v), List.lookup_cons_self, List.lookup_cons_self]
    · have hne : (k == k') = false := beq_eq_false_iff_ne.mpr hk
      rw [List.lookup_cons, hne, ← ih, List.filter_cons]
      split
      · rw [List.lookup_cons, hne]
      · rfl

theorem lookup_map_eq_find? {α β σ : Type} [DecidableEq α] (f : σ → α) (g : σ → β) (l : List σ)
    (k : α) : (l.map fun s => (f s, g s)).lookup k = (l.find? fun s => f s = k).map g := by
  induction l with
  | nil => rfl
  | cons s l ih =>
    rw [List.map_cons, List.lookup_cons, List.find?_cons]
    by_cases h : k = f s
    · subst h
      simp
    · have hne : (k == f s) = false := beq_eq_false_iff_ne.mpr h
      have hne' : decide (f s = k) = false := decide_eq_false (Ne.symm h)
      rw [hne, hne']
      exact ih

end SchemaLineage
