set_option autoImplicit false

namespace BlockRules

abbrev Keyed (κ α : Type) := List (κ × α)

namespace Keyed

variable {κ α : Type} [DecidableEq κ]

def keys (xs : Keyed κ α) : List κ := xs.map (·.1)

def get? (xs : Keyed κ α) (key : κ) : Option α := (xs.find? fun x => x.1 = key).map (·.2)

def put (key : κ) (value : α) : Keyed κ α → Keyed κ α
  | [] => [(key, value)]
  | x :: xs => if x.1 = key then (key, value) :: xs else x :: put key value xs

def ofPairs (pairs : List (κ × α)) : Keyed κ α := pairs.foldl (fun xs x => put x.1 x.2 xs) []

theorem get?_put_self (xs : Keyed κ α) (key : κ) (value : α) : (put key value xs).get? key = some value := by
  induction xs with
  | nil => simp [put, get?]
  | cons x xs ih =>
    unfold put
    split
    · simp [get?]
    · rename_i h
      simpa [get?, h] using ih

theorem get?_put_of_ne {key other : κ} (h : other ≠ key) (xs : Keyed κ α) (value : α) :
    (put key value xs).get? other = xs.get? other := by
  induction xs with
  | nil => simp [put, get?, Ne.symm h]
  | cons x xs ih =>
    unfold put
    split
    · rename_i hx
      simp [get?, hx, Ne.symm h]
    · by_cases ho : x.1 = other
      · simp [get?, ho]
      · simpa [get?, ho] using ih

theorem keys_put (xs : Keyed κ α) (key : κ) (value : α) :
    (put key value xs).keys = if key ∈ xs.keys then xs.keys else xs.keys ++ [key] := by
  induction xs with
  | nil => simp [put, keys]
  | cons x xs ih =>
    unfold put
    by_cases hx : x.1 = key
    · simp [hx, keys]
    · rw [if_neg hx]
      simp only [keys, List.map_cons, List.mem_cons, Ne.symm hx, false_or] at ih ⊢
      rw [ih]
      split <;> simp_all

theorem mem_of_get? {xs : Keyed κ α} {key : κ} {value : α} (h : xs.get? key = some value) : (key, value) ∈ xs := by
  obtain ⟨x, hx, rfl⟩ := Option.map_eq_some_iff.1 h
  have hkey : x.1 = key := by simpa using List.find?_some hx
  rw [← hkey]
  exact List.mem_of_find?_eq_some hx

theorem get?_of_mem {xs : Keyed κ α} (hnodup : xs.keys.Nodup) {key : κ} {value : α} (h : (key, value) ∈ xs) :
    xs.get? key = some value := by
  induction xs with
  | nil => cases h
  | cons x xs ih =>
    obtain ⟨hx, hxs⟩ := List.nodup_cons.1 hnodup
    obtain rfl | h := List.mem_cons.1 h
    · simp [get?]
    · have hne : x.1 ≠ key := by
        rintro rfl
        exact hx (List.mem_map.2 ⟨_, h, rfl⟩)
      simpa [get?, hne] using ih hxs h

theorem mem_put {xs : Keyed κ α} {key : κ} {value : α} {x : κ × α} (h : x ∈ put key value xs) :
    x = (key, value) ∨ x ∈ xs := by
  induction xs with
  | nil => exact .inl (List.mem_singleton.1 h)
  | cons y xs ih =>
    unfold put at h
    split at h
    · exact (List.mem_cons.1 h).imp_right (List.mem_cons_of_mem y)
    · obtain rfl | h := List.mem_cons.1 h
      · exact .inr List.mem_cons_self
      · exact (ih h).imp_right (List.mem_cons_of_mem y)

theorem nodup_keys_put {xs : Keyed κ α} (h : xs.keys.Nodup) (key : κ) (value : α) :
    (put key value xs).keys.Nodup := by
  rw [keys_put]
  split
  · exact h
  · rename_i hkey
    refine List.nodup_append.2 ⟨h, List.pairwise_singleton _ key, ?_⟩
    rintro a ha b hb rfl
    exact hkey (List.mem_singleton.1 hb ▸ ha)

end Keyed

end BlockRules
