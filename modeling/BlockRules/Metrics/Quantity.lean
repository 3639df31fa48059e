import BlockRules.Number.Binary64

set_option autoImplicit false

namespace BlockRules
open Number

inductive Quantity where
  | whole (n : Int)
  | real (x : Binary64)
  deriving DecidableEq

inductive QuantityError where
  | nan
  | infinite
  | tooLarge
  deriving DecidableEq

namespace QuantityError

def message : QuantityError → String
  | nan => "cannot convert float NaN to integer"
  | infinite => "cannot convert float infinity to integer"
  | tooLarge => "integer division result too large for a float"

end QuantityError

namespace Binary64

def nearestInt : Binary64 → Except QuantityError Int
  | finite negative magnitude => .ok (signed negative (roundHalfEven magnitude.steps one))
  | infinite _ => .error .infinite
  | nan => .error .nan

def dividedBy (x : Binary64) (unit : Nat) : Binary64 :=
  match x with
  | finite negative magnitude => match Magnitude.nearest magnitude.steps unit with
    | some quotient => finite negative quotient
    | none => infinite negative
  | x => x

end Binary64

namespace Quantity

def rounded : Quantity → Except QuantityError Int
  | whole n => .ok n
  | real x => x.nearestInt

def inUnits (unit : Nat) : Quantity → Except QuantityError Binary64
  | whole n =>
    (Magnitude.nearest (n.natAbs * Binary64.one) unit).elim (.error .tooLarge) fun magnitude =>
      .ok (.finite (decide (n < 0)) magnitude)
  | real x => .ok (x.dividedBy unit)

end Quantity

end BlockRules
