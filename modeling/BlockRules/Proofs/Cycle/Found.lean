import BlockRules.Proofs.Cycle.Invariant
import Mathlib.Data.List.Nodup

set_option autoImplicit false

/-!
# Cycles that are found

The search ends, and it finds a cycle if and only if the edges between nodes form one. What it finds
is a cycle: different nodes, each with an edge to the next, and the first of them again.
-/
namespace BlockRules.Graph
open Relation

/-- A list goes once around a cycle: its last identifier is its first. -/
structure IsCycle (g : Graph) (ids : List String) : Prop where
  two_le : 2 ≤ ids.length
  closed : ids.head? = ids.getLast?
  distinct : ids.dropLast.Nodup
  nodes : ∀ id ∈ ids.dropLast, ∃ n ∈ g.nodes, n.id = id
  edges : ids.IsChain fun a b => ∃ e ∈ g.edges, e.source = a ∧ e.target = b

theorem hasNode_iff {g : Graph} {id : String} : g.hasNode id = true ↔ ∃ n ∈ g.nodes, n.id = id := by
  simp [hasNode]

theorem exists_dropWhile_eq {a : String} {xs : List String} (h : a ∈ xs) :
    ∃ before after, xs = before ++ a :: after ∧ (xs.dropWhile fun x => x != a) = a :: after := by
  induction xs with
  | nil => cases h
  | cons x xs ih =>
    by_cases hx : x = a
    · exact ⟨[], xs, by rw [hx, List.nil_append], by simp [hx]⟩
    · obtain ⟨before, after, hxs, hdrop⟩ := ih ((List.mem_cons.1 h).resolve_left (Ne.symm hx))
      exact ⟨x :: before, after, by rw [hxs, List.cons_append], by simpa [hx] using hdrop⟩

theorem IsCycle.transGen {g : Graph} {ids : List String} (h : g.IsCycle ids) :
    ∃ a, TransGen g.Linked a a := by
  obtain ⟨htwo, hclosed, -, hnodes, hedges⟩ := h
  match ids with
  | a :: b :: rest =>
    have hlast : (a :: b :: rest).getLast (List.cons_ne_nil _ _) = a := by
      rw [List.getLast?_eq_some_getLast (List.cons_ne_nil _ _)] at hclosed
      exact (Option.some.inj hclosed).symm
    have hknown : ∀ x ∈ a :: b :: rest, g.hasNode x = true := by
      intro x hx
      rw [← List.dropLast_concat_getLast (List.cons_ne_nil a (b :: rest)), hlast] at hx
      obtain hx | hx := List.mem_append.1 hx
      · exact hasNode_iff.2 (hnodes x hx)
      · rw [List.mem_singleton.1 hx]
        exact hasNode_iff.2 (hnodes a List.mem_cons_self)
    have hlinks : (a :: b :: rest).IsChain g.Linked :=
      hedges.imp_of_mem_imp fun x y hx hy hedge => ⟨hknown x hx, hknown y hy, hedge⟩
    obtain ⟨hfirst, hrest⟩ := List.isChain_cons.1 hlinks
    have hback : ReflTransGen g.Linked b a :=
      List.relationReflTransGen_of_exists_isChain_cons rest hrest hlast
    exact ⟨a, .head' (hfirst b rfl) hback⟩

/-- Nearest first, the open nodes up to a target on the path, and the target once more, form a
cycle. -/
theorem SearchInvariant.isCycle {g : Graph} {seen starts pending : List String} {id target : String}
    {path : List OpenNode} (h : g.SearchInvariant ⟨seen, ⟨id, target :: pending⟩ :: path, starts⟩)
    (known : g.hasNode target = true) (onPath : target ∈ id :: path.map (·.id)) :
    g.IsCycle (closeCycle (⟨id, pending⟩ :: path) target) := by
  have hback : g.Linked id target := h.linked known
  obtain ⟨before, after, hpath, hdrop⟩ := exists_dropWhile_eq (List.mem_reverse.2 onPath)
  have hcycle : closeCycle (⟨id, pending⟩ :: path) target = target :: after ++ [target] := by
    rw [closeCycle, List.map_cons, hdrop]
  have hsuffix : target :: after <:+ (id :: path.map (·.id)).reverse := ⟨before, hpath.symm⟩
  have hlast : (target :: after).getLast? = some id := by
    rw [← List.getLast?_append_of_ne_nil before (List.cons_ne_nil _ _), ← hpath,
      List.getLast?_reverse]
    rfl
  have hchain : (target :: after).IsChain g.Linked :=
    (List.isChain_reverse.2 h.chain).suffix hsuffix
  rw [hcycle]
  constructor
  case two_le => simp
  case closed =>
    rw [List.getLast?_concat]
    rfl
  case distinct =>
    rw [List.dropLast_concat]
    exact (List.nodup_reverse.2 h.nodup).sublist hsuffix.sublist
  case nodes =>
    rw [List.dropLast_concat]
    intro x hx
    exact hasNode_iff.1 (h.known x (h.seen x (List.mem_reverse.1 (hsuffix.mem hx))))
  case edges =>
    have hall : (target :: after ++ [target]).IsChain g.Linked := by
      refine hchain.append (.singleton _) ?_
      intro x hx y hy
      rw [hlast] at hx
      cases hx
      cases hy
      exact hback
    exact hall.imp fun a b hab => hab.2.2

theorem SearchInvariant.acyclic_of_end {g : Graph} {seen : List String}
    (h : g.SearchInvariant ⟨seen, [], []⟩) (a : String) : ¬ TransGen g.Linked a a := by
  intro hcycle
  obtain ⟨b, hb, -⟩ := TransGen.head'_iff.1 hcycle
  have hseen := (h.left a (mem_ids_iff_hasNode.2 hb.1)).resolve_right List.not_mem_nil
  exact h.acyclic a ⟨hseen, List.not_mem_nil⟩ hcycle

theorem Ends.invariant {g : Graph} {s : SearchState} {n : Nat} {answer : Option (List String)}
    (hends : g.Ends s n answer) (h : g.SearchInvariant s) :
    ∃ t, g.SearchInvariant t ∧ g.Concludes t answer := by
  induction hends with
  | done hdone => exact ⟨_, h, concludes_of_step hdone⟩
  | next hnext _ ih => exact ih ((advances_of_step hnext).invariant h)

/-- The search ends within its bound, finds nothing only where there is no cycle, and finds nothing
but cycles. -/
theorem findCycle_correct (g : Graph) :
    (∃ n, n ≤ 2 * g.nodes.length + g.edges.length + 1 ∧ g.Ends g.searchStart n g.findCycle) ∧
      (g.findCycle = none ↔ ¬ ∃ a, TransGen g.Linked a a) ∧
      ∀ ids, g.findCycle = some ids → g.IsCycle ids := by
  have hends : ∃ n, n ≤ 2 * g.nodes.length + g.edges.length + 1 ∧
      g.Ends g.searchStart n g.findCycle := by
    obtain ⟨n, hle, hends⟩ := g.exists_ends g.searchStart fun id hid => hid
    exact ⟨n, hle.trans g.stepsLeft_searchStart_le, g.resume_searchStart ▸ hends⟩
  obtain ⟨n, -, hrun⟩ := id hends
  obtain ⟨t, hinv, hconcludes⟩ := hrun.invariant g.searchInvariant_start
  refine ⟨hends, ?_⟩
  cases hfound : g.findCycle with
  | none =>
    rw [hfound] at hconcludes
    cases hconcludes
    refine ⟨iff_of_true rfl ?_, ?_⟩
    · rintro ⟨a, ha⟩
      exact hinv.acyclic_of_end a ha
    · intro ids hids
      cases hids
  | some ids =>
    rw [hfound] at hconcludes
    cases hconcludes with
    | cycle known onPath =>
      have hcycle := hinv.isCycle known onPath
      refine ⟨iff_of_false (Option.some_ne_none _) (not_not.2 hcycle.transGen), ?_⟩
      intro ids hids
      cases hids
      exact hcycle

def ledIntoCycle : Graph where
  nodes := ["a", "b", "c"].map fun id => ⟨id, default, .action ⟨none, none, none, none⟩⟩
  edges := [⟨"", "a", "b"⟩, ⟨"", "b", "d"⟩, ⟨"", "b", "c"⟩, ⟨"", "c", "b"⟩]

theorem ledIntoCycle_findCycle :
    ledIntoCycle.findCycle = some ["b", "c", "b"] ∧ ledIntoCycle.IsCycle ["b", "c", "b"] := by
  have h : ledIntoCycle.findCycle = some ["b", "c", "b"] := by cbv
  exact ⟨h, ledIntoCycle.findCycle_correct.2.2 _ h⟩

end BlockRules.Graph
