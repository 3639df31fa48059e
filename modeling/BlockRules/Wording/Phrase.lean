import BlockRules.Rule.Block
import BlockRules.Value.Written

set_option autoImplicit false

namespace BlockRules

def unsetText : String := "(unset)"

namespace Value

def isUnset : Value → Bool
  | .null => true
  | .text s => s == ""
  | _ => false

def traced : Value → String
  | .bool b => if b then "true" else "false"
  | v => if v.isUnset then unsetText else v.shown

end Value

namespace Condition

def description (c : Condition) : String :=
  (given? c.input?).getD unsetText ++ " " ++ (given? c.operator).getD unsetText ++ " " ++ c.value.traced

end Condition

def humanize (actionType : String) : String :=
  String.ofList (actionType.toList.map fun c => if c = '_' then ' ' else c)

def comparisonPhrases : List (String × String) :=
  [("equals", "equals"),
    ("notEquals", "does not equal"),
    ("greaterThan", "is greater than"),
    ("lessThan", "is less than"),
    ("greaterOrEqual", "is greater than or equal to"),
    ("lessOrEqual", "is less than or equal to"),
    ("contains", "contains")]

namespace Action

/-- Labels that new blocks come with, which say nothing. -/
def placeholderLabels : List String := ["Action", "New action"]

def meaningfulLabel? (a : Action) : Option String :=
  (given? a.label).filter fun s => !placeholderLabels.contains s

def undefinedText : String := "Action not fully defined - click to edit"

def targetMissing (actionType : String) : String := humanize actionType ++ " (target not specified)"

/-- An action as it is reported when it fires: by type and target, else by type, else by label. -/
def description (a : Action) : String :=
  match given? a.actionType, given? a.target with
  | some actionType, some target =>
    humanize actionType ++ ": " ++ target ++
      match given? a.parameters with
      | some parameters => " (" ++ parameters ++ ")"
      | none => ""
  | some actionType, none => targetMissing actionType
  | none, _ => a.meaningfulLabel?.getD undefinedText

end Action

end BlockRules
