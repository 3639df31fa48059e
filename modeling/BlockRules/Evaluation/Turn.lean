import BlockRules.Comparison.Comparator
import BlockRules.Evaluation.Trace
import BlockRules.Rule.Connective
import BlockRules.Rule.Graph
import BlockRules.Wording.Phrase

set_option autoImplicit false

/-!
# Turns of a walk

A walk goes along the edges out of each condition and operator that passes, in order and to the end of a branch
before the next. Branches that wait are frames on a stack, each with the path that led to it. In each turn the frame
on top is taken off, and a block on its own path is not entered again.
-/
namespace BlockRules

/-- A visit that waits: the block's identifier, its depth, and the identifiers on the path to it, the nearest first. -/
structure Frame where
  id : String
  depth : Nat
  path : List String

/-- The frames that wait, with the top of the stack first, and the steps and the actions so far. -/
structure WalkState where
  stack : List Frame
  steps : List Step
  actions : List String

inductive WalkTurn where
  | done (result : Except ComparisonError Evaluation)
  | next (s : WalkState)

namespace Graph

/-- Whether the source of an edge into an operator holds. Only conditions do. -/
def operandHolds (g : Graph) (inputs : Inputs) (id : String) : Except ComparisonError Bool :=
  match g.block? id with
  | some (.condition c) => c.holds inputs
  | _ => .ok false

def operandResults (g : Graph) (inputs : Inputs) (id : String) : Except ComparisonError (List Bool) :=
  (g.incoming id).mapM fun e => g.operandHolds inputs e.source

def operatorPasses (g : Graph) (inputs : Inputs) (id : String) (o : Operator) : Except ComparisonError Bool := do
  let results ← g.operandResults inputs id
  return (combineNamed o.resolvedType results).getD false

def enter (g : Graph) (inputs : Inputs) (id : String) (block : Block) (depth : Nat) :
    Except ComparisonError Step :=
  match block with
  | .action a => .ok ⟨id, .action, a.description, depth⟩
  | .condition c => (c.test inputs).map fun passed => ⟨id, .condition passed, c.description, depth⟩
  | .operator o =>
    (g.operatorPasses inputs id o).map fun passed => ⟨id, .operator passed, o.resolvedType, depth⟩

def skip (id : String) (depth : Nat) : Step := ⟨id, .cycle, id, depth⟩

/-- The frames that a block pushes when it passes, of which that of its first edge is on top. -/
def children (g : Graph) (f : Frame) : List Frame :=
  (g.outgoing f.id).map fun e => ⟨e.target, f.depth + 1, f.id :: f.path⟩

def turn (g : Graph) (inputs : Inputs) : WalkState → WalkTurn
  | ⟨[], steps, actions⟩ => .done (.ok ⟨!actions.isEmpty, actions, steps⟩)
  | ⟨f :: stack, steps, actions⟩ =>
    match g.node? f.id with
    | none => .next ⟨stack, steps, actions⟩
    | some n =>
      if f.id ∈ f.path then .next ⟨stack, steps ++ [skip f.id f.depth], actions⟩
      else
        match g.enter inputs f.id n.block f.depth with
        | .error e => .done (.error e)
        | .ok s =>
          if n.block.isAction then .next ⟨stack, steps ++ [s], actions ++ [s.description]⟩
          else if s.visit.passes then .next ⟨g.children f ++ stack, steps ++ [s], actions⟩
          else .next ⟨stack, steps ++ [s], actions⟩

variable (g : Graph) (inputs : Inputs)

inductive Turns : WalkState → WalkState → Prop where
  | unknown {f : Frame} {stack : List Frame} {steps : List Step} {actions : List String}
    (unknown : g.node? f.id = none) : Turns ⟨f :: stack, steps, actions⟩ ⟨stack, steps, actions⟩
  | repeated {f : Frame} {stack : List Frame} {steps : List Step} {actions : List String} {n : Node}
    (known : g.node? f.id = some n) (onPath : f.id ∈ f.path) :
    Turns ⟨f :: stack, steps, actions⟩ ⟨stack, steps ++ [skip f.id f.depth], actions⟩
  | fired {f : Frame} {stack : List Frame} {steps : List Step} {actions : List String} {n : Node} {s : Step}
    (known : g.node? f.id = some n) (new : f.id ∉ f.path) (entered : g.enter inputs f.id n.block f.depth = .ok s)
    (acts : n.block.isAction = true) :
    Turns ⟨f :: stack, steps, actions⟩ ⟨stack, steps ++ [s], actions ++ [s.description]⟩
  | stopped {f : Frame} {stack : List Frame} {steps : List Step} {actions : List String} {n : Node} {s : Step}
    (known : g.node? f.id = some n) (new : f.id ∉ f.path) (entered : g.enter inputs f.id n.block f.depth = .ok s)
    (tests : ¬n.block.isAction = true) (closed : ¬s.visit.passes = true) :
    Turns ⟨f :: stack, steps, actions⟩ ⟨stack, steps ++ [s], actions⟩
  | passed {f : Frame} {stack : List Frame} {steps : List Step} {actions : List String} {n : Node} {s : Step}
    (known : g.node? f.id = some n) (new : f.id ∉ f.path) (entered : g.enter inputs f.id n.block f.depth = .ok s)
    (tests : ¬n.block.isAction = true) (opened : s.visit.passes = true) :
    Turns ⟨f :: stack, steps, actions⟩ ⟨g.children f ++ stack, steps ++ [s], actions⟩

inductive Stops : WalkState → Except ComparisonError Evaluation → Prop where
  | empty {steps : List Step} {actions : List String} :
    Stops ⟨[], steps, actions⟩ (.ok ⟨!actions.isEmpty, actions, steps⟩)
  | failed {f : Frame} {stack : List Frame} {steps : List Step} {actions : List String} {n : Node}
    {e : ComparisonError} (known : g.node? f.id = some n) (new : f.id ∉ f.path)
    (fails : g.enter inputs f.id n.block f.depth = .error e) : Stops ⟨f :: stack, steps, actions⟩ (.error e)

theorem turn_cases (s : WalkState) :
    (∃ result, g.turn inputs s = .done result ∧ g.Stops inputs s result) ∨
      ∃ t, g.turn inputs s = .next t ∧ g.Turns inputs s t := by
  fun_cases turn g inputs s with
  | case1 steps actions => exact .inl ⟨_, rfl, .empty⟩
  | case2 f stack steps actions hn => exact .inr ⟨_, rfl, .unknown hn⟩
  | case3 f stack steps actions n hn hpath => exact .inr ⟨_, rfl, .repeated hn hpath⟩
  | case4 f stack steps actions n hn hpath e he => exact .inl ⟨_, rfl, .failed hn hpath he⟩
  | case5 f stack steps actions n hn hpath s hs hacts => exact .inr ⟨_, rfl, .fired hn hpath hs hacts⟩
  | case6 f stack steps actions n hn hpath s hs hacts hpass =>
    exact .inr ⟨_, rfl, .passed hn hpath hs hacts hpass⟩
  | case7 f stack steps actions n hn hpath s hs hacts hpass =>
    exact .inr ⟨_, rfl, .stopped hn hpath hs hacts hpass⟩

variable {g inputs} {s t : WalkState}

theorem turns_of_next (h : g.turn inputs s = .next t) : g.Turns inputs s t := by
  obtain ⟨result, hdone, -⟩ | ⟨t', hnext, hturns⟩ := g.turn_cases inputs s
  · cases hdone.symm.trans h
  · cases hnext.symm.trans h
    exact hturns

theorem stops_of_done {result : Except ComparisonError Evaluation} (h : g.turn inputs s = .done result) :
    g.Stops inputs s result := by
  obtain ⟨result', hdone, hstops⟩ | ⟨t, hnext, -⟩ := g.turn_cases inputs s
  · cases hdone.symm.trans h
    exact hstops
  · cases hnext.symm.trans h

end Graph

end BlockRules
