import BlockRules.Proofs.Walk.Firing

set_option autoImplicit false

/-!
# Ancestry in a trace

A trace keeps depths and no paths. Still each step tells which steps led to it: its parent is the last
earlier step that is one level up, and from there on it is the same. What leads to a step are different
conditions and operators that pass, each with an edge to the next, and a block is skipped where it is
one of them.
-/
namespace BlockRules

namespace Step

/-- The last step, among earlier ones with the nearest first, that is one level above a depth. -/
def parent? (depth : Nat) (earlier : List Step) : Option Step :=
  earlier.find? fun s => s.depth + 1 == depth

/-- The steps that lead to a depth: the last earlier one that is one level up, and those that lead to it. -/
def ancestors (depth : Nat) : List Step → List Step
  | [] => []
  | s :: earlier =>
    if s.depth + 1 = depth then s :: ancestors s.depth earlier else ancestors depth earlier

theorem head?_ancestors (depth : Nat) (earlier : List Step) :
    (ancestors depth earlier).head? = parent? depth earlier := by
  induction earlier with
  | nil => rfl
  | cons s earlier ih =>
    rw [ancestors, parent?, List.find?_cons]
    by_cases hdepth : s.depth + 1 = depth
    · rw [if_pos hdepth, beq_iff_eq.2 hdepth, List.head?_cons]
    · rw [if_neg hdepth, beq_false_of_ne hdepth, ih, parent?]

theorem ancestors_append {depth : Nat} {steps earlier : List Step} (h : ∀ s ∈ steps, depth ≤ s.depth) :
    ancestors depth (steps ++ earlier) = ancestors depth earlier := by
  induction steps with
  | nil => rfl
  | cons s steps ih =>
    obtain ⟨hs, hsteps⟩ := List.forall_mem_cons.1 h
    rw [List.cons_append, ancestors, if_neg (by omega), ih hsteps]

end Step

namespace Graph
open Gathering Step

/-- The parent of a block at a depth is a condition or an operator that passed, with an edge to the block. -/
def HasParent (g : Graph) (earlier : List Step) (depth : Nat) (id : String) : Prop :=
  ∃ p, parent? depth earlier = some p ∧ (p.visit = .condition true ∨ p.visit = .operator true) ∧
    ∃ e ∈ g.edges, e.source = p.node ∧ e.target = id

/-- What a step tells, given the earlier ones with the nearest first: unless it is at the top it has a parent,
its ancestors are different, and it is skipped if and only if its block is one of them. -/
structure Placed (g : Graph) (earlier : List Step) (s : Step) : Prop where
  parent : 0 < s.depth → g.HasParent earlier s.depth s.node
  distinct : ((ancestors s.depth earlier).map (·.node)).Nodup
  cycle_iff : s.visit = .cycle ↔ s.node ∈ (ancestors s.depth earlier).map (·.node)

def AllPlaced (g : Graph) (earlier : List Step) : List Step → Prop
  | [] => True
  | s :: steps => g.Placed earlier s ∧ AllPlaced g (s :: earlier) steps

theorem allPlaced_append {g : Graph} {earlier xs ys : List Step} :
    g.AllPlaced earlier (xs ++ ys) ↔
      g.AllPlaced earlier xs ∧ g.AllPlaced (xs.reverse ++ earlier) ys := by
  induction xs generalizing earlier with
  | nil => simp [AllPlaced]
  | cons s xs ih => simp [AllPlaced, ih, and_assoc]

/-- Earlier steps lead to a block along a path: the ancestors at its depth are those on the path. -/
structure LeadTo (g : Graph) (earlier : List Step) (path : List String) (id : String) : Prop where
  nodes : (ancestors path.length earlier).map (·.node) = path
  distinct : path.Nodup
  parent : 0 < path.length → g.HasParent earlier path.length id

variable {g : Graph} {inputs : Inputs} {earlier : List Step} {path : List String} {id : String}

theorem enter_step {block : Block} {depth : Nat} {s : Step}
    (hs : g.enter inputs id block depth = .ok s) :
    s.node = id ∧ s.depth = depth ∧ s.visit ≠ .cycle := by
  obtain ⟨a, -, rfl⟩ | ⟨c, passed, -, -, rfl⟩ | ⟨o, passed, -, -, rfl⟩ := enter_cases g inputs hs
  · exact ⟨rfl, rfl, nofun⟩
  · exact ⟨rfl, rfl, nofun⟩
  · exact ⟨rfl, rfl, nofun⟩

theorem passes_iff {v : Visit} :
    v.passes = true ↔ v = .condition true ∨ v = .operator true := by
  cases v <;> simp [Visit.passes]

theorem leadTo_nil (g : Graph) (earlier : List Step) (id : String) : g.LeadTo earlier [] id where
  nodes := by
    have hnone : ∀ steps, ancestors 0 steps = [] := by
      intro steps
      rw [← List.append_nil steps, ancestors_append fun s _ => Nat.zero_le _]
      rfl
    rw [List.length_nil, hnone]
    rfl
  distinct := List.nodup_nil
  parent := nofun

theorem LeadTo.placed (h : g.LeadTo earlier path id) {s : Step} (hnode : s.node = id)
    (hdepth : s.depth = path.length) (hcycle : s.visit = .cycle ↔ id ∈ path) :
    g.Placed earlier s where
  parent := by
    rw [hnode, hdepth]
    exact h.parent
  distinct := by
    rw [hdepth, h.nodes]
    exact h.distinct
  cycle_iff := by
    rw [hnode, hdepth, h.nodes]
    exact hcycle

theorem LeadTo.later (h : g.LeadTo earlier path id) {steps : List Step}
    (hdeep : ∀ s ∈ steps, path.length ≤ s.depth) :
    g.LeadTo (steps.reverse ++ earlier) path id := by
  have hsame : ancestors path.length (steps.reverse ++ earlier) = ancestors path.length earlier :=
    ancestors_append fun s hs => hdeep s (List.mem_reverse.1 hs)
  refine ⟨?_, h.distinct, ?_⟩
  · rw [hsame]
    exact h.nodes
  · rw [HasParent, ← head?_ancestors, hsame, head?_ancestors]
    exact h.parent

/-- The step of a block that passes leads on along each edge out of the block. -/
theorem LeadTo.next (h : g.LeadTo earlier path id) (hid : id ∉ path) {s : Step} (hnode : s.node = id)
    (hdepth : s.depth = path.length) (hpass : s.visit.passes = true) {e : Edge}
    (he : e ∈ g.outgoing id) : g.LeadTo (s :: earlier) (id :: path) e.target := by
  have hancestors : ancestors (id :: path).length (s :: earlier) =
      s :: ancestors path.length earlier := by
    rw [ancestors, List.length_cons, if_pos (by rw [hdepth]), hdepth]
  have hparent : parent? (id :: path).length (s :: earlier) = some s := by
    rw [← head?_ancestors, hancestors, List.head?_cons]
  obtain ⟨he, hsource⟩ := List.mem_filter.1 he
  have hedge : e.source = s.node := (eq_of_beq hsource).trans hnode.symm
  refine ⟨?_, List.nodup_cons.2 ⟨hid, h.distinct⟩, fun _ => ?_⟩
  · rw [hancestors, List.map_cons, hnode, h.nodes]
  · exact ⟨s, hparent, passes_iff.1 hpass, e, he, hedge, rfl⟩

theorem branch_deep {steps : List Step} (h : g.branch inputs path id = .ok steps) :
    ∀ s ∈ steps, path.length ≤ s.depth := by
  induction path, id, steps, h using branch_induct with
  | unknown => exact nofun
  | repeated => exact List.forall_mem_singleton.2 (Nat.le_refl _)
  | stopped path id n s hn hid hs => exact List.forall_mem_singleton.2 (enter_step hs).2.1.ge
  | passed path id n s below hn hid hs hpass hbelow ih =>
    refine List.forall_mem_cons.2 ⟨(enter_step hs).2.1.ge, fun s' hs' => ?_⟩
    obtain ⟨e, he, ys, hys, hmem⟩ := (mem_of_flatMapM_ok hbelow s').1 hs'
    exact Nat.le_of_succ_le (ih e he ys hys s' hmem)

/-- Branches along one path do not come between each other's steps and what led to them. -/
theorem allPlaced_branches {α : Type} {target : α → String} {xs : List α}
    (hbranch : ∀ x ∈ xs, ∀ earlier steps, g.LeadTo earlier path (target x) →
      g.branch inputs path (target x) = .ok steps → g.AllPlaced earlier steps)
    {earlier steps : List Step} (hlead : ∀ x ∈ xs, g.LeadTo earlier path (target x))
    (h : (xs.flatMapM fun x => g.branch inputs path (target x)) = .ok steps) :
    g.AllPlaced earlier steps := by
  induction xs generalizing earlier steps with
  | nil =>
    cases h
    trivial
  | cons x xs ih =>
    obtain ⟨first, rest, hfirst, hrest, rfl⟩ := flatMapM_cons_eq_ok h
    obtain ⟨hx, hxs⟩ := List.forall_mem_cons.1 hlead
    refine allPlaced_append.2 ⟨hbranch x List.mem_cons_self _ _ hx hfirst, ih ?_ ?_ hrest⟩
    · exact fun y hy => hbranch y (List.mem_cons_of_mem x hy)
    · exact fun y hy => (hxs y hy).later (branch_deep hfirst)

theorem allPlaced_branch {earlier steps : List Step} (hlead : g.LeadTo earlier path id)
    (h : g.branch inputs path id = .ok steps) : g.AllPlaced earlier steps := by
  induction path, id, steps, h using branch_induct generalizing earlier with
  | unknown => trivial
  | repeated path id n hn hid => exact ⟨hlead.placed rfl rfl (iff_of_true rfl hid), trivial⟩
  | stopped path id n s hn hid hs =>
    obtain ⟨hnode, hdepth, hvisit⟩ := enter_step hs
    exact ⟨hlead.placed hnode hdepth (iff_of_false hvisit hid), trivial⟩
  | passed path id n s below hn hid hs hpass hbelow ih =>
    obtain ⟨hnode, hdepth, hvisit⟩ := enter_step hs
    refine ⟨hlead.placed hnode hdepth (iff_of_false hvisit hid), ?_⟩
    -- The children's branches share a path, on which the new step is the last.
    refine allPlaced_branches (fun e he _ _ hlead hsteps => ih e he _ hsteps hlead) ?_ hbelow
    exact fun e he => hlead.next hid hnode hdepth hpass he

theorem branch_top {n : Node} {steps : List Step} (hn : g.node? id = some n)
    (h : g.branch inputs [] id = .ok steps) :
    (steps.filter fun s => s.depth == 0).map (·.node) = [id] := by
  obtain ⟨s, below, hs, rfl, hbelow⟩ := branch_cases g inputs hn List.not_mem_nil h
  obtain ⟨hnode, hdepth, -⟩ := enter_step hs
  have hdeep : below.filter (fun s => s.depth == 0) = [] := by
    refine List.filter_eq_nil_iff.2 fun s' hs' => ?_
    obtain ⟨-, hbelow⟩ | ⟨-, rfl⟩ := hbelow
    · obtain ⟨e, -, ys, hys, hmem⟩ := (mem_of_flatMapM_ok hbelow s').1 hs'
      have hone : 1 ≤ s'.depth := branch_deep hys s' hmem
      rw [beq_iff_eq]
      omega
    · cases hs'
  have htop : (s.depth == 0) = true := beq_iff_eq.2 hdepth
  rw [List.filter_cons, if_pos htop, hdeep, List.map_singleton, hnode]

theorem branches_top {roots : List Node} (hroots : ∀ root ∈ roots, root ∈ g.nodes) {steps : List Step}
    (h : (roots.flatMapM fun root => g.branch inputs [] root.id) = .ok steps) :
    (steps.filter fun s => s.depth == 0).map (·.node) = roots.map (·.id) := by
  induction roots generalizing steps with
  | nil =>
    cases h
    rfl
  | cons root roots ih =>
    obtain ⟨first, rest, hfirst, hrest, rfl⟩ := flatMapM_cons_eq_ok h
    obtain ⟨hroot, hroots⟩ := List.forall_mem_cons.1 hroots
    obtain ⟨n, hn⟩ := exists_node?_of_mem hroot
    rw [List.filter_append, List.map_append, branch_top hn hfirst, ih hroots hrest]
    rfl

/-- The steps of an evaluation at the top are those of the roots, in order, and every step is placed after
those before it. -/
theorem steps_placed (g : Graph) (inputs : Inputs) {e : Evaluation} (h : g.evaluate inputs = .ok e) :
    (e.steps.filter fun s => s.depth == 0).map (·.node) = g.roots.map (·.id) ∧
    ∀ before s after, e.steps = before ++ s :: after → g.Placed before.reverse s := by
  rw [evaluate_eq_flatMapM] at h
  obtain ⟨steps, hsteps, rfl⟩ := exists_of_map_ok h
  refine ⟨branches_top (fun root hroot => (List.mem_filter.1 hroot).1) hsteps, ?_⟩
  have hall : g.AllPlaced [] steps :=
    allPlaced_branches (fun _ _ _ _ => allPlaced_branch) (fun root _ => leadTo_nil g [] root.id) hsteps
  rintro before s after (rfl : steps = _)
  have hplaced := (allPlaced_append.1 hall).2.1
  rwa [List.append_nil] at hplaced

/-- The last visit of the looped operator is skipped: it comes from the condition on the cycle, which comes
from the operator. -/
theorem loopedAlarm_placed : loopedAlarm.evaluate loopedInputs = .ok loopedEvaluation ∧
    (loopedEvaluation.steps.filter fun s => s.depth == 0).map (·.node) = ["door", "stove"] ∧
    loopedEvaluation.steps = loopedEvaluation.steps.take 9 ++
      skip "either" 3 :: loopedEvaluation.steps.drop 10 ∧
    loopedAlarm.Placed (loopedEvaluation.steps.take 9).reverse (skip "either" 3) ∧
    (ancestors 3 (loopedEvaluation.steps.take 9).reverse).map (·.node) = ["still", "either", "stove"] := by
  obtain ⟨htop, hplaced⟩ := steps_placed loopedAlarm loopedInputs loopedAlarm_evaluate
  have hsplit : loopedEvaluation.steps = loopedEvaluation.steps.take 9 ++
      skip "either" 3 :: loopedEvaluation.steps.drop 10 := by decide
  exact ⟨loopedAlarm_evaluate, htop, hsplit, hplaced _ _ _ hsplit, by decide⟩

end Graph

end BlockRules
