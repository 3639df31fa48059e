set_option autoImplicit false

namespace BlockRules

inductive Visit where
  | condition (passed : Bool)
  | operator (passed : Bool)
  | action
  /-- The block was on the path already and is not entered again. -/
  | cycle
  deriving DecidableEq

namespace Visit

def kind : Visit → String
  | condition _ => "Condition"
  | operator _ => "Operator"
  | action => "Action"
  | cycle => "Cycle"

def outcome : Visit → String
  | condition true => "✓ TRUE"
  | condition false => "✗ FALSE"
  | operator true => "✓ TRUE"
  | operator false => "✗ FALSE"
  | action => "✓ EXECUTED"
  | cycle => "SKIPPED"

def passes : Visit → Bool
  | condition passed => passed
  | operator passed => passed
  | action => false
  | cycle => false

end Visit

structure Step where
  node : String
  visit : Visit
  description : String
  depth : Nat
  deriving DecidableEq

namespace Step

/-- The line of a step: two spaces for each level, kind, description and outcome. -/
def line (s : Step) : String :=
  String.ofList (List.replicate (2 * s.depth) ' ') ++ s.visit.kind ++ ": " ++ s.description ++ " → " ++
    s.visit.outcome

def isAction (s : Step) : Bool := s.visit == .action

end Step

structure Evaluation where
  matched : Bool
  actions : List String
  steps : List Step
  deriving DecidableEq

namespace Evaluation

def empty : Evaluation := ⟨false, [], []⟩

def ofSteps (steps : List Step) : Evaluation :=
  let actions := (steps.filter Step.isAction).map (·.description)
  ⟨!actions.isEmpty, actions, steps⟩

def merge (a b : Evaluation) : Evaluation :=
  ⟨a.matched || b.matched, a.actions ++ b.actions, a.steps ++ b.steps⟩

def path (e : Evaluation) : List String := e.steps.map Step.line

theorem empty_merge (e : Evaluation) : empty.merge e = e := by
  simp [empty, merge]

theorem merge_assoc (a b c : Evaluation) : (a.merge b).merge c = a.merge (b.merge c) := by
  simp [merge, Bool.or_assoc]

theorem ofSteps_append (xs ys : List Step) : ofSteps (xs ++ ys) = (ofSteps xs).merge (ofSteps ys) := by
  simp [ofSteps, merge]
  cases xs.filter Step.isAction <;> simp

theorem ofSteps_matched_iff (steps : List Step) :
    (ofSteps steps).matched = true ↔ ∃ s ∈ steps, s.isAction = true := by
  simp [ofSteps]

end Evaluation

end BlockRules
