import BlockRules.Evaluation.Walk

set_option autoImplicit false

/-!
# The branch of a block

The evaluation once more, by recursion: a block's step, then the branches of the blocks that its edges lead to.
There is no stack; the path is an argument, and what it leaves unvisited decreases.
-/
namespace BlockRules.Graph

/-- The steps from a block on, given the path that led to it, the nearest first. -/
def branch (g : Graph) (inputs : Inputs) (path : List String) (id : String) :
    Except ComparisonError (List Step) :=
  match _known : g.node? id with
  | none => .ok []
  | some n =>
    if _repeated : id ∈ path then .ok [skip id path.length]
    else
      match g.enter inputs id n.block path.length with
      | .error e => .error e
      | .ok s =>
        if s.visit.passes then
          ((g.outgoing id).mapM fun e => branch g inputs (id :: path) e.target).map (s :: ·.flatten)
        else .ok [s]
termination_by g.unvisited path
decreasing_by exact unvisited_cons_lt (mem_ids_of_node? _known) _repeated

def branches (g : Graph) (inputs : Inputs) : Except ComparisonError Evaluation :=
  (g.roots.mapM fun root => g.branch inputs [] root.id).map fun steps => .ofSteps steps.flatten

end BlockRules.Graph
