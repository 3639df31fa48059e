set_option autoImplicit false

namespace BlockRules.Text

/-- Characters from `first` to `last`, `step` apart, whose other case is `distance` further on. -/
structure CaseRun where
  first : Nat
  last : Nat
  step : Nat
  distance : Int

namespace CaseRun

def holds (run : CaseRun) (n : Nat) : Bool :=
  run.first ≤ n && n ≤ run.last && (n - run.first) % run.step == 0

def map? (runs : List CaseRun) (c : Char) : Option Char :=
  (runs.find? fun run => run.holds c.toNat).map fun run => Char.ofNat ((c.toNat : Int) + run.distance).toNat

end CaseRun

end BlockRules.Text
