import BlockRules.Evaluation.Walk
import BlockRules.Rule.Validation

set_option autoImplicit false

namespace BlockRules

inductive TestError where
  | invalid (verdict : Verdict)
  | comparison (e : ComparisonError)
  deriving DecidableEq

namespace TestError

def message : TestError → String
  | invalid verdict => verdict.message
  | comparison e => e.message

end TestError

namespace Graph

def runTest (g : Graph) (inputs : Inputs) : Except TestError Evaluation :=
  if g.validate.isValid then (g.evaluate inputs).mapError .comparison else .error (.invalid g.verdict)

end Graph

end BlockRules
