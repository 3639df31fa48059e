import BlockRules.Rule.Graph
import BlockRules.Wording.Phrase

set_option autoImplicit false

namespace BlockRules

def emptyRuleText : String := "Your rule will appear here as you build it..."

def noContentText : String := "Add blocks to start building your rule..."

namespace Graph

/-- The word between conditions: the type of the first operator as it is written, or `AND`. -/
def joinWord (g : Graph) : String :=
  match g.operators with
  | [] => "AND"
  | (_, o) :: _ => (given? o.operatorType).getD "AND"

end Graph

namespace Condition

def phrase (operator : Option String) : String :=
  (comparisonPhrases.lookup ((given? operator).getD "equals")).getD "equals"

/-- Field, phrase and value, or the label while these are not all set. -/
def summary (c : Condition) : String :=
  match given? c.field, c.value.isUnset with
  | some field, false => field ++ " " ++ phrase c.operator ++ " " ++ c.value.shown
  | _, _ => (given? c.label).getD "condition"

def summaryIsLong (c : Condition) : Bool := (given? c.field).isSome && c.value.hasLongInteger

end Condition

namespace Action

def summary (a : Action) : String :=
  match given? a.actionType, given? a.target with
  | some actionType, some target => humanize actionType ++ " " ++ target
  | _, _ => (given? a.label).getD "action"

end Action

namespace Graph

def conditionSummary (g : Graph) : String :=
  "IF " ++ (" " ++ g.joinWord ++ " ").intercalate (g.conditions.map fun c => c.2.summary)

def summaryIsLong (g : Graph) : Bool := g.conditions.any fun c => c.2.summaryIsLong

def actionSummary (g : Graph) : String := "THEN " ++ ", ".intercalate (g.actions.map fun a => a.2.summary)

def summary (g : Graph) : String :=
  if g.nodes.isEmpty then emptyRuleText
  else match g.conditions.isEmpty, g.actions.isEmpty with
    | true, true => noContentText
    | false, true => g.conditionSummary
    | true, false => g.actionSummary
    | false, false => g.conditionSummary ++ " " ++ g.actionSummary

def summary? (g : Graph) : Option String := if g.summaryIsLong then none else some g.summary

end Graph

end BlockRules
