import BlockRules.Comparison.Basic
import BlockRules.Rule.Block

set_option autoImplicit false

namespace BlockRules

inductive Comparator where
  | greater
  | less
  | atLeast
  | atMost
  | equal
  | notEqual
  | identical
  | notIdentical
  | contains
  deriving DecidableEq

namespace Comparator

def names : List (String × Comparator) :=
  [("greaterThan", greater), (">", greater),
    ("lessThan", less), ("<", less),
    ("greaterOrEqual", atLeast), (">=", atLeast),
    ("lessOrEqual", atMost), ("<=", atMost),
    ("equals", equal), ("==", equal),
    ("notEquals", notEqual), ("!=", notEqual),
    ("===", identical), ("!==", notIdentical),
    ("contains", contains)]

def ofName? (name : String) : Option Comparator := names.lookup name

def order (test : Binary64 → Binary64 → Bool) (left right : Value) : Except ComparisonError Bool := do
  let x ← left.leadingNumber
  let y ← right.leadingNumber
  return test x y

def holds : Comparator → Value → Value → Except ComparisonError Bool
  | greater, left, right => order (fun x y => y.less x) left right
  | less, left, right => order Binary64.less left right
  | atLeast, left, right => order (fun x y => y.atMost x) left right
  | atMost, left, right => order Binary64.atMost left right
  | equal, left, right => .ok (left.looseEquals right)
  | notEqual, left, right => .ok (!left.looseEquals right)
  | identical, left, right => .ok (left.strictEquals right)
  | notIdentical, left, right => .ok (!left.strictEquals right)
  | contains, left, right => left.search right

end Comparator

abbrev Inputs := List (String × Value)

namespace Condition

def holds (c : Condition) (inputs : Inputs) : Except ComparisonError Bool :=
  match c.input?.bind fun name => inputs.lookup name with
  | none => .ok false
  | some actual =>
    match Comparator.ofName? (c.operator.getD "") with
    | none => .ok false
    | some comparator => comparator.holds actual c.value

/-- Whether the condition holds of some inputs, if it can be written as well. -/
def test (c : Condition) (inputs : Inputs) : Except ComparisonError Bool :=
  (c.holds inputs).bind fun passed => if c.value.hasLongInteger then .error .integerTooLong else .ok passed

theorem test_eq_ok_iff {c : Condition} {inputs : Inputs} {passed : Bool} :
    c.test inputs = .ok passed ↔ c.holds inputs = .ok passed ∧ c.value.hasLongInteger = false := by
  rw [test]
  cases c.holds inputs <;> cases c.value.hasLongInteger <;> simp [Except.bind]

end Condition

end BlockRules
