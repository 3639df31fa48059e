import BlockRules.Rule.Connective
import BlockRules.Rule.Cycle

set_option autoImplicit false

/-!
# Validation

A rule may be saved or tested when it has a condition and an action. How its blocks are connected gives warnings
only, in a fixed order: edges, conditions, actions, operators, cycle.
-/
namespace BlockRules

inductive Warning where
  | unknownEnd (edge : Edge) (id : String)
  | looseCondition (id : String)
  /-- An action that no edge touches fires whenever the rule is evaluated. -/
  | looseAction (id : String)
  | unsupportedType (id : String) (type : String)
  | cycle (ids : List String)
  deriving DecidableEq

namespace Warning

def message : Warning → String
  | unknownEnd edge id =>
    "Edge " ++ (if edge.id == "" then "?" else edge.id) ++ " references unknown block " ++ id
  | looseCondition id => "Condition " ++ id ++ " is not connected to any block"
  | looseAction id => "Action " ++ id ++ " is not connected and will fire unconditionally"
  | unsupportedType id type => "Operator " ++ id ++ " has unsupported type " ++ type
  | cycle ids => "Blocks form a cycle: " ++ " -> ".intercalate ids

end Warning

inductive Verdict where
  | noBlocks
  | noCondition
  | noAction
  | valid
  deriving DecidableEq

namespace Verdict

def message : Verdict → String
  | noBlocks => "Add some blocks to validate"
  | noCondition => "Rule must have at least one condition"
  | noAction => "Rule must have at least one action"
  | valid => "Rule validation passed!"

end Verdict

structure Validation where
  verdict : Verdict
  warnings : List Warning

namespace Validation

def isValid (v : Validation) : Bool := v.verdict == .valid

end Validation

namespace Graph

def unknownEnds (g : Graph) : List Warning :=
  g.edges.flatMap fun e => ([e.source, e.target].filter fun id => !g.hasNode id).map (.unknownEnd e)

/-- Conditions that no edge touches, unless the rule is a single node. -/
def looseConditions (g : Graph) : List Warning :=
  (g.conditions.filter fun c => !g.isConnected c.1 && 1 < g.nodes.length).map fun c => .looseCondition c.1

def looseActions (g : Graph) : List Warning :=
  (g.actions.filter fun a => !g.isConnected a.1 && !g.conditions.isEmpty).map fun a => .looseAction a.1

def unsupportedTypes (g : Graph) : List Warning :=
  (g.operators.filter fun o => (Connective.ofName? o.2.resolvedType).isNone).map fun o =>
    .unsupportedType o.1 o.2.resolvedType

def warnings (g : Graph) : List Warning :=
  g.unknownEnds ++ g.looseConditions ++ g.looseActions ++ g.unsupportedTypes ++
    (g.findCycle.map Warning.cycle).toList

def verdict (g : Graph) : Verdict :=
  if g.nodes.isEmpty then .noBlocks
  else if g.conditions.isEmpty then .noCondition
  else if g.actions.isEmpty then .noAction
  else .valid

def validate (g : Graph) : Validation := ⟨g.verdict, g.warnings⟩

theorem isValid_validate (g : Graph) :
    g.validate.isValid = true ↔ ¬(g.conditions = [] ∨ g.actions = []) := by
  unfold validate Validation.isValid verdict
  by_cases hnodes : g.nodes = []
  · have hconditions : g.conditions = [] := by rw [conditions, hnodes]; rfl
    simp [hnodes, hconditions]
  · by_cases hconditions : g.conditions = [] <;> by_cases hactions : g.actions = [] <;>
      simp [hnodes, hconditions, hactions]

end Graph

namespace Condition

/-- The input that a condition is taken to read: its own, or the first word of its label. -/
def listedInput? (c : Condition) : Option String :=
  match given? c.input? with
  | some name => some name
  | none => given? (c.label.map fun s => String.ofList (s.toList.takeWhile (· != ' ')))

end Condition

namespace Graph

def inputNames (g : Graph) : List String := (g.conditions.filterMap fun c => c.2.listedInput?).eraseDups

end Graph

end BlockRules
