import BlockRules.Proofs.Walk.Stack
import BlockRules.Rule.Cycle
import Mathlib.Data.Set.Basic

set_option autoImplicit false

namespace BlockRules.Graph
open Gathering

theorem node?_eq_none_of_hasNode {g : Graph} {id : String} (h : g.hasNode id = false) :
    g.node? id = none := by
  rw [← Option.not_isSome_iff_eq_none, isSome_node?, h]
  exact Bool.false_ne_true

theorem hasNode_of_node? {g : Graph} {id : String} {n : Node} (h : g.node? id = some n) :
    g.hasNode id = true := by
  rw [← isSome_node?, h, Option.isSome_some]

def knownTargets (g : Graph) (id : String) : List String := (g.targets id).filter g.hasNode

theorem flatMapM_outgoing (g : Graph) (inputs : Inputs) (path : List String) (id : String) :
    ((g.outgoing id).flatMapM fun e => g.branch inputs path e.target) =
      (g.knownTargets id).flatMapM (g.branch inputs path) := by
  have hunknown : ∀ target ∈ g.targets id, g.hasNode target = false →
      g.branch inputs path target = .ok [] := by
    intro target _ htarget
    exact branch_unknown g inputs (node?_eq_none_of_hasNode htarget)
  rw [knownTargets, flatMapM_filter hunknown, targets, flatMapM_map]

/-- Two rules, each with its inputs, on which walks take the same course. -/
structure Alike (g g' : Graph) (inputs inputs' : Inputs) : Prop where
  node?_eq : ∀ id, g'.node? id = g.node? id
  enter_eq : ∀ id n, g.node? id = some n → ∀ depth,
    g'.enter inputs' id n.block depth = g.enter inputs id n.block depth
  knownTargets_eq : ∀ id n, g.node? id = some n → g'.knownTargets id = g.knownTargets id
  roots_eq : g'.roots.map (·.id) = g.roots.map (·.id)

/-- Two rules, each with its inputs, on which walks take the same course from certain identifiers, and lead
to no others. -/
structure AlikeOn (ids : Set String) (g g' : Graph) (inputs inputs' : Inputs) : Prop where
  node?_eq : ∀ id ∈ ids, g'.node? id = g.node? id
  enter_eq : ∀ id ∈ ids, ∀ n, g.node? id = some n → ∀ depth,
    g'.enter inputs' id n.block depth = g.enter inputs id n.block depth
  knownTargets_eq : ∀ id ∈ ids, ∀ n, g.node? id = some n → g'.knownTargets id = g.knownTargets id
  targets_mem : ∀ id ∈ ids, ∀ target ∈ g.targets id, target ∈ ids

variable {g g' : Graph} {inputs inputs' : Inputs}

theorem AlikeOn.branch_eq {ids : Set String} (h : AlikeOn ids g g' inputs inputs')
    (path : List String) {id : String} (hmem : id ∈ ids) :
    g'.branch inputs' path id = g.branch inputs path id := by
  induction path, id using branch.induct g inputs with
  | case1 path id hn =>
    have hn' : g'.node? id = none := (h.node?_eq id hmem).trans hn
    rw [branch_unknown g inputs hn, branch_unknown g' inputs' hn']
  | case2 path id n hn hid =>
    have hn' : g'.node? id = some n := (h.node?_eq id hmem).trans hn
    rw [branch_repeated g inputs hn hid, branch_repeated g' inputs' hn' hid]
  | case3 path id n hn hid e he =>
    have hn' : g'.node? id = some n := (h.node?_eq id hmem).trans hn
    rw [branch_entered g inputs hn hid, branch_entered g' inputs' hn' hid]
    rw [h.enter_eq id hmem n hn, he]
    rfl
  | case4 path id n hn hid s hs hpass ih =>
    have hn' : g'.node? id = some n := (h.node?_eq id hmem).trans hn
    have hs' := (h.enter_eq id hmem n hn path.length).trans hs
    have hbelow : ∀ target ∈ g.knownTargets id,
        g'.branch inputs' (id :: path) target = g.branch inputs (id :: path) target :=
      fun target htarget => ih ⟨"", id, target⟩ (h.targets_mem id hmem target (List.mem_filter.1 htarget).1)
    rw [branch_passed g inputs hn hid hs hpass, branch_passed g' inputs' hn' hid hs' hpass]
    rw [flatMapM_outgoing, flatMapM_outgoing, h.knownTargets_eq id hmem n hn, flatMapM_congr hbelow]
  | case5 path id n hn hid s hs hpass =>
    have hn' : g'.node? id = some n := (h.node?_eq id hmem).trans hn
    have hs' := (h.enter_eq id hmem n hn path.length).trans hs
    rw [branch_stopped g inputs hn hid hs hpass, branch_stopped g' inputs' hn' hid hs' hpass]

theorem Alike.on_univ (h : Alike g g' inputs inputs') : AlikeOn Set.univ g g' inputs inputs' where
  node?_eq := fun id _ => h.node?_eq id
  enter_eq := fun id _ => h.enter_eq id
  knownTargets_eq := fun id _ => h.knownTargets_eq id
  targets_mem := fun _ _ _ _ => trivial

theorem Alike.branch_eq (h : Alike g g' inputs inputs') (path : List String) (id : String) :
    g'.branch inputs' path id = g.branch inputs path id :=
  h.on_univ.branch_eq path trivial

theorem Alike.evaluate_eq (h : Alike g g' inputs inputs') :
    g'.evaluate inputs' = g.evaluate inputs := by
  have hroots : (g'.roots.flatMapM fun root => g'.branch inputs' [] root.id) =
      g.roots.flatMapM fun root => g.branch inputs [] root.id :=
    calc (g'.roots.flatMapM fun root => g'.branch inputs' [] root.id)
        = (g'.roots.map (·.id)).flatMapM (g'.branch inputs' []) := (flatMapM_map _ _ _).symm
      _ = (g.roots.map (·.id)).flatMapM (g.branch inputs []) := by
          rw [h.roots_eq, funext (h.branch_eq [])]
      _ = g.roots.flatMapM fun root => g.branch inputs [] root.id := flatMapM_map _ _ _
  rw [evaluate_eq_flatMapM, evaluate_eq_flatMapM, hroots]

theorem enter_eq_of_operandResults {id : String}
    (h : g'.operandResults inputs id = g.operandResults inputs id) (block : Block) (depth : Nat) :
    g'.enter inputs id block depth = g.enter inputs id block depth := by
  cases block with
  | action a => rfl
  | condition c => rfl
  | operator o => rw [enter, enter, operatorPasses, operatorPasses, h]

/-- Steps depend on inputs only through what holds of the conditions. -/
theorem enter_congr
    (h : ∀ id c, g.block? id = some (.condition c) → c.holds inputs' = c.holds inputs)
    {id : String} {n : Node} (hn : g.node? id = some n) (depth : Nat) :
    g.enter inputs' id n.block depth = g.enter inputs id n.block depth := by
  have hoperand : g.operandHolds inputs' = g.operandHolds inputs := by
    funext source
    rw [operandHolds, operandHolds]
    split
    · exact h source _ ‹_›
    · rfl
  have hblock := block?_of_node? hn
  cases hb : n.block with
  | action a => rfl
  | condition c =>
    rw [hb] at hblock
    rw [enter, enter, Condition.test, Condition.test, h id c hblock]
  | operator o =>
    rw [enter, enter, operatorPasses, operatorPasses, operandResults, operandResults, hoperand]

end BlockRules.Graph
