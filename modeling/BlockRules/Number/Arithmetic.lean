import BlockRules.Number.Binary64

set_option autoImplicit false

namespace BlockRules
open Number

namespace Binary64

def negated : Binary64 → Binary64
  | finite negative magnitude => finite (!negative) magnitude
  | infinite negative => infinite (!negative)
  | nan => nan

/-- The number nearest to `± p / q` steps; infinite where that is beyond the finite ones. -/
def ofSteps (negative : Bool) (p q : Nat) : Binary64 :=
  match Magnitude.nearest p q with
  | some magnitude => finite negative magnitude
  | none => infinite negative

def plus (x y : Binary64) : Binary64 :=
  match x, y with
  | finite negative a, finite otherNegative b =>
    let total := signed negative a.steps + signed otherNegative b.steps
    if total = 0 then finite (negative && otherNegative) .zero else ofSteps (decide (total < 0)) total.natAbs 1
  | nan, _ => nan
  | _, nan => nan
  | infinite negative, infinite otherNegative => if negative = otherNegative then x else nan
  | infinite _, _ => x
  | _, infinite _ => y

def times (x y : Binary64) : Binary64 :=
  match x, y with
  | finite negative a, finite otherNegative b => ofSteps (negative != otherNegative) (a.steps * b.steps) one
  | nan, _ => nan
  | _, nan => nan
  | infinite negative, infinite otherNegative => infinite (negative != otherNegative)
  | infinite negative, finite otherNegative b => if b.steps = 0 then nan else infinite (negative != otherNegative)
  | finite negative a, infinite otherNegative => if a.steps = 0 then nan else infinite (negative != otherNegative)

end Binary64

end BlockRules
