import BlockRules.Text.UpperCase
import BlockRules.Value.Basic

set_option autoImplicit false

/-!
# Blocks

The blocks of a rule: conditions on an input, operators that join conditions, and actions. All parts of a block
are optional, as an editor saves blocks that are not filled in yet. An absent text and an empty one are
different in a document, but both leave the part unset.
-/
namespace BlockRules

def given? (s : Option String) : Option String := s.filter fun t => t != ""

theorem given?_eq_some {s : Option String} {t : String} : given? s = some t ↔ s = some t ∧ t ≠ "" := by
  simp [given?, Option.filter_eq_some_iff]

/-- A condition: field, operator and value. Older documents name the field as the variable. -/
structure Condition where
  field : Option String
  legacyField : Option String
  operator : Option String
  value : Value
  label : Option String
  deriving Inhabited

namespace Condition

/-- The input that the condition reads. An empty field gives way to the older name, even to an absent one. -/
def input? (c : Condition) : Option String :=
  match given? c.field with
  | some name => some name
  | none => c.legacyField

end Condition

structure Operator where
  operatorType : Option String
  legacyType : Option String
  label : Option String
  deriving Inhabited, DecidableEq

namespace Operator

/-- The type by which the operator is evaluated: the first that is set, in upper case, and otherwise `AND`. -/
def resolvedType (o : Operator) : String :=
  Text.upper ((given? o.operatorType).getD ((given? o.legacyType).getD "AND"))

end Operator

structure Action where
  actionType : Option String
  target : Option String
  parameters : Option String
  label : Option String
  deriving Inhabited, DecidableEq

inductive Block where
  | condition (c : Condition)
  | operator (o : Operator)
  | action (a : Action)
  deriving Inhabited

namespace Block

def label : Block → Option String
  | condition c => c.label
  | operator o => o.label
  | action a => a.label

def isAction : Block → Bool
  | action _ => true
  | _ => false

end Block

structure Position where
  x : Binary64
  y : Binary64
  deriving Inhabited, DecidableEq

structure Node where
  id : String
  position : Position
  block : Block
  deriving Inhabited

structure Edge where
  id : String
  source : String
  target : String
  deriving Inhabited, DecidableEq

end BlockRules
