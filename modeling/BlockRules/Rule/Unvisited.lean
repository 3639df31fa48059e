import BlockRules.Rule.Graph

set_option autoImplicit false

namespace BlockRules.Graph

/-- How many identifiers of nodes are not in a list. -/
def unvisited (g : Graph) (path : List String) : Nat := (g.ids.filter fun id => decide (id ∉ path)).length

theorem mem_ids_of_node? {g : Graph} {id : String} {n : Node} (h : g.node? id = some n) : id ∈ g.ids := by
  simp only [ids, List.mem_eraseDups, List.mem_map]
  exact ⟨n, node?_mem h, node?_id h⟩

theorem eraseDups_sublist {α : Type} [BEq α] [LawfulBEq α] (xs : List α) : xs.eraseDups.Sublist xs := by
  induction hn : xs.length using Nat.strongRecOn generalizing xs with
  | ind n ih =>
    cases xs with
    | nil => exact List.Sublist.refl _
    | cons a xs =>
      have hlen := List.length_filter_le (fun b => !b == a) xs
      rw [List.eraseDups_cons]
      exact ((ih _ (by rw [← hn, List.length_cons]; omega) _ rfl).trans List.filter_sublist).cons_cons a

theorem nodup_eraseDups {α : Type} [BEq α] [LawfulBEq α] (xs : List α) : xs.eraseDups.Nodup := by
  induction hn : xs.length using Nat.strongRecOn generalizing xs with
  | ind n ih =>
    cases xs with
    | nil => exact List.nodup_nil
    | cons a xs =>
      have hlen := List.length_filter_le (fun b => !b == a) xs
      rw [List.eraseDups_cons]
      refine List.nodup_cons.2 ⟨?_, ih _ (by rw [← hn, List.length_cons]; omega) _ rfl⟩
      simp

theorem nodup_ids (g : Graph) : g.ids.Nodup := nodup_eraseDups _

theorem length_ids_le (g : Graph) : g.ids.length ≤ g.nodes.length := by
  have h := (eraseDups_sublist (g.nodes.map (·.id))).length_le
  rwa [List.length_map] at h

theorem length_filter_lt {α : Type} {p q : α → Bool} {xs : List α} (hpq : ∀ x, p x = true → q x = true)
    {a : α} (ha : a ∈ xs) (hp : p a = false) (hq : q a = true) :
    (xs.filter p).length < (xs.filter q).length := by
  induction xs with
  | nil => cases ha
  | cons x rest ih =>
    have hle : (rest.filter p).length ≤ (rest.filter q).length := by
      rw [← List.countP_eq_length_filter, ← List.countP_eq_length_filter]
      exact List.countP_mono_left fun i _ => hpq i
    rcases List.mem_cons.1 ha with rfl | hmem
    · simpa [hp, hq] using Nat.lt_succ_of_le hle
    · have hlt := ih hmem
      cases hpx : p x with
      | true => simpa [hpx, hpq x hpx] using hlt
      | false => cases hqx : q x <;> simp [hpx, hqx] <;> omega

theorem unvisited_cons_lt {g : Graph} {id : String} {path : List String} (hid : id ∈ g.ids)
    (hpath : id ∉ path) : g.unvisited (id :: path) < g.unvisited path :=
  length_filter_lt (fun x hx => by simp_all) hid (by simp) (by simpa using hpath)

end BlockRules.Graph
