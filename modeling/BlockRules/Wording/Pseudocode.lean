import BlockRules.Wording.Summary

set_option autoImplicit false

/-!
# Pseudocode

A rule in several lines, conditions under `IF` and actions under `THEN`. A rule without conditions lists its
actions under `EXECUTE:`, as they fire on every evaluation.
-/
namespace BlockRules

def indent (s : String) : String := "  " ++ s

namespace Condition

def codeLine (c : Condition) : String :=
  let operator := (given? c.operator).getD "equals"
  let phrase := (comparisonPhrases.lookup operator).getD operator
  let value := if c.value.isUnset then "value" else c.value.shown
  indent ((given? c.input?).getD "variable" ++ " " ++ phrase ++ " " ++ value)

end Condition

namespace Action

def codeLine (a : Action) : String :=
  indent <| match given? a.actionType, given? a.target with
    | some actionType, some target =>
      humanize actionType ++ ": " ++ target ++
        match given? a.parameters with
        | some parameters => " with parameters (" ++ parameters ++ ")"
        | none => ""
    | some actionType, none => targetMissing actionType
    | none, _ => a.meaningfulLabel?.getD ("(" ++ undefinedText ++ ")")

def executeLine (a : Action) : String :=
  indent <| match given? a.actionType, given? a.target with
    | some actionType, some target => humanize actionType ++ ": " ++ target
    | some actionType, none => targetMissing actionType
    | none, _ => "(Action not fully defined)"

end Action

namespace Graph

/-- The lines of the conditions, with the joining word on a line of its own between each two. -/
def conditionLines (g : Graph) : List String := (g.conditions.map fun c => c.2.codeLine).intersperse g.joinWord

def codeLines (g : Graph) : List String :=
  if g.conditions.isEmpty then
    "(No conditions defined)" ::
      (if g.actions.isEmpty then [] else "" :: "EXECUTE:" :: g.actions.map fun a => a.2.executeLine)
  else
    "IF" :: g.conditionLines ++ "THEN" ::
      (if g.actions.isEmpty then [indent "(No actions defined)"] else g.actions.map fun a => a.2.codeLine) ++
      ["END IF"]

def pseudocode (g : Graph) : String := "\n".intercalate g.codeLines

def isShowable (g : Graph) : Bool := !g.conditions.any fun c => c.2.value.hasLongInteger

/-- The lines, if they can be written. -/
def codeLines? (g : Graph) : Option (List String) := if g.isShowable then some g.codeLines else none

end Graph

end BlockRules
