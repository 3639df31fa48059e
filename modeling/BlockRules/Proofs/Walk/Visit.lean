import BlockRules.Proofs.Walk.Stack

set_option autoImplicit false

/-!
# Visits

The evaluation of a rule as a recursion in its own words: depth and path are arguments, operators
are read off the edges that lead into them, and what a visit yields is merged with what follows. The
stack walk has the same outcome for every rule and all inputs, failures included.
-/
namespace BlockRules

namespace Evaluation

def mergeAll (es : List Evaluation) : Evaluation := es.foldr merge empty

theorem mergeAll_ofSteps (steps : List (List Step)) :
    mergeAll (steps.map ofSteps) = ofSteps steps.flatten := by
  induction steps with
  | nil => rfl
  | cons xs steps ih =>
    rw [List.flatten_cons, ofSteps_append, ← ih]
    rfl

end Evaluation

/-- Whether operands satisfy a type: none is false, some is true, none is true, or exactly one is.
-/
def operandsSatisfy (type : String) (operands : List Bool) : Bool :=
  if type = "AND" then decide (false ∉ operands)
  else if type = "OR" then decide (true ∈ operands)
  else if type = "NOT" then decide (true ∉ operands)
  else if type = "XOR" then decide (operands.count true = 1)
  else false

/-- The trace shows the value of a condition, so it has to be short enough to be written. -/
def Condition.written (c : Condition) : Except ComparisonError String :=
  if c.value.hasLongInteger then .error .integerTooLong else .ok c.description

namespace Graph
open Gathering

def operands (g : Graph) (inputs : Inputs) (id : String) : Except ComparisonError (List Bool) :=
  (g.edges.filter fun e => e.target = id).mapM fun e =>
    match g.block? e.source with
    | some (.condition c) => c.holds inputs
    | _ => .ok false

/-- What a block yields that is reached at a depth along a path of others. -/
def visit (g : Graph) (inputs : Inputs) (id : String) (depth : Nat) (path : List String) :
    Except ComparisonError Evaluation :=
  match _known : g.node? id with
  | none => .ok .empty
  | some n =>
    if _repeated : id ∈ path then .ok ⟨false, [], [⟨id, .cycle, id, depth⟩]⟩
    else
      match n.block with
      | .action a => .ok ⟨true, [a.description], [⟨id, .action, a.description, depth⟩]⟩
      | .condition c => do
        let passed ← c.holds inputs
        let text ← c.written
        let below ← if passed then
            (g.edges.filter fun e => e.source = id).mapM fun e =>
              visit g inputs e.target (depth + 1) (path ++ [id])
          else pure []
        return .mergeAll (⟨false, [], [⟨id, .condition passed, text, depth⟩]⟩ :: below)
      | .operator o => do
        let passed := operandsSatisfy o.resolvedType (← g.operands inputs id)
        let below ← if passed then
            (g.edges.filter fun e => e.source = id).mapM fun e =>
              visit g inputs e.target (depth + 1) (path ++ [id])
          else pure []
        return .mergeAll (⟨false, [], [⟨id, .operator passed, o.resolvedType, depth⟩]⟩ :: below)
termination_by g.unvisited path
decreasing_by
  all_goals
    have hp : g.unvisited (path ++ [id]) = g.unvisited (id :: path) := by simp [unvisited, or_comm]
    rw [hp]
    exact unvisited_cons_lt (mem_ids_of_node? _known) _repeated

def visitRoots (g : Graph) (inputs : Inputs) : Except ComparisonError Evaluation :=
  (g.roots.mapM fun root => g.visit inputs root.id 0 []).map .mergeAll

theorem all_id (results : List Bool) : results.all id = decide (false ∉ results) := by
  rw [Bool.eq_iff_iff, List.all_eq_true, decide_eq_true_iff]
  constructor
  · intro h hmem
    exact Bool.false_ne_true (h false hmem)
  · intro h b hb
    cases b with
    | false => exact absurd hb h
    | true => rfl

theorem any_id (results : List Bool) : results.any id = decide (true ∈ results) := by
  rw [Bool.eq_iff_iff, List.any_eq_true, decide_eq_true_iff]
  simp only [id, exists_eq_right]

theorem combineNamed_getD (type : String) (results : List Bool) :
    (combineNamed type results).getD false = operandsSatisfy type results := by
  rw [combineNamed, Connective.ofName?_eq, operandsSatisfy]
  split
  · exact all_id results
  split
  · exact any_id results
  split
  · exact (congrArg (! ·) (any_id results)).trans (by simp)
  split
  · rfl
  · rfl

theorem operandResults_eq (g : Graph) (inputs : Inputs) (id : String) :
    g.operandResults inputs id = g.operands inputs id := rfl

theorem operatorPasses_eq (g : Graph) (inputs : Inputs) (id : String) (o : Operator) :
    g.operatorPasses inputs id o = (g.operands inputs id).map (operandsSatisfy o.resolvedType) := by
  rw [operatorPasses, operandResults_eq]
  cases g.operands inputs id with
  | error e => rfl
  | ok results => exact congrArg Except.ok (combineNamed_getD _ _)

theorem visit_unknown {g : Graph} {inputs : Inputs} {id : String} {depth : Nat} {path : List String}
    (h : g.node? id = none) : g.visit inputs id depth path = .ok .empty := by
  rw [visit]
  split <;> simp_all

theorem visit_repeated {g : Graph} {inputs : Inputs} {id : String} {depth : Nat}
    {path : List String} {n : Node} (h : g.node? id = some n) (hid : id ∈ path) :
    g.visit inputs id depth path = .ok (.ofSteps [skip id depth]) := by
  rw [visit]
  split
  · simp_all
  · rw [dif_pos hid]
    rfl

theorem visit_entered {g : Graph} {inputs : Inputs} {id : String} {depth : Nat}
    {path : List String} {n : Node} (h : g.node? id = some n) (hid : id ∉ path) :
    g.visit inputs id depth path = (g.enter inputs id n.block depth).bind fun s =>
      if s.visit.passes then
        ((g.outgoing id).mapM fun e =>
          g.visit inputs e.target (depth + 1) (path ++ [id])).map fun below =>
            .mergeAll (.ofSteps [s] :: below)
      else .ok (.ofSteps [s]) := by
  rw [visit]
  split
  · simp_all
  · rename_i m hm
    obtain rfl : m = n := Option.some.inj (hm.symm.trans h)
    rw [dif_neg hid]
    cases m.block with
    | action a => rfl
    | condition c =>
      dsimp only
      rw [enter, Condition.test, Condition.written]
      cases c.holds inputs with
      | error e => rfl
      | ok passed =>
        cases c.value.hasLongInteger with
        | true => rfl
        | false => cases passed <;> rfl
    | operator o =>
      dsimp only
      rw [enter, operatorPasses_eq]
      cases g.operands inputs id with
      | error e => rfl
      | ok results =>
        simp only [Except.map, Except.bind, bind, Visit.passes]
        cases operandsSatisfy o.resolvedType results <;> rfl

/-- With its depth and path in step, a visit yields what the branch amounts to. -/
theorem visit_eq_map_branch (g : Graph) (inputs : Inputs) (path : List String) (id : String) :
    g.visit inputs id path.length path.reverse = (g.branch inputs path id).map .ofSteps := by
  induction path, id using branch.induct g inputs with
  | case1 path id h =>
    rw [visit_unknown h, branch_unknown g inputs h]
    rfl
  | case2 path id n h hid =>
    rw [visit_repeated h (List.mem_reverse.2 hid), branch_repeated g inputs h hid]
    rfl
  | case3 path id n h hid e he =>
    rw [visit_entered h (mt List.mem_reverse.1 hid), branch_entered g inputs h hid, he]
    rfl
  | case4 path id n h hid s hs hpass ih =>
    have hbelow : ((g.outgoing id).mapM fun e =>
          g.visit inputs e.target (path.length + 1) (path.reverse ++ [id])) =
        ((g.outgoing id).mapM fun e =>
          g.branch inputs (id :: path) e.target).map (List.map .ofSteps) := by
      rw [← mapM_map_result]
      congr 1
      funext e
      rw [← ih e, List.length_cons, List.reverse_cons]
    rw [visit_entered h (mt List.mem_reverse.1 hid), branch_entered g inputs h hid, hs, hbelow]
    rw [← map_flatten_mapM]
    simp only [Except.bind, if_pos hpass]
    cases (g.outgoing id).mapM fun e => g.branch inputs (id :: path) e.target with
    | error e => rfl
    | ok steps => exact congrArg Except.ok (Evaluation.mergeAll_ofSteps ([s] :: steps))
  | case5 path id n h hid s hs hpass =>
    rw [visit_entered h (mt List.mem_reverse.1 hid), branch_entered g inputs h hid, hs]
    simp only [Except.bind, if_neg hpass]
    rfl

/-- The stack walk has the outcome of the recursion. -/
theorem evaluate_eq_visitRoots (g : Graph) (inputs : Inputs) :
    g.evaluate inputs = g.visitRoots inputs := by
  have hroots : (g.roots.mapM fun root => g.visit inputs root.id 0 []) =
      (g.roots.mapM fun root => g.branch inputs [] root.id).map (List.map .ofSteps) := by
    rw [← mapM_map_result]
    congr 1
    funext root
    exact visit_eq_map_branch g inputs [] root.id
  rw [evaluate_eq_branches, branches, visitRoots, hroots]
  cases g.roots.mapM fun root => g.branch inputs [] root.id with
  | error e => rfl
  | ok steps => exact congrArg Except.ok (Evaluation.mergeAll_ofSteps steps).symm

end Graph

end BlockRules
