import BlockRules.Number.Binary64

set_option autoImplicit false

/-!
# The shortest decimal text of a number

Of the decimals that round to a given magnitude, `Magnitude.shortest` takes one with the fewest digits, and of
those the nearest. A grid with `n` digits is tried at the two points around the magnitude, for `n` from 1 to
17, all in exact integer arithmetic. `Binary64.text` writes the result: positional notation for exponents from
-4 to 15 with at least one place after the point, and an exponent of at least two digits otherwise.
-/
namespace BlockRules

/-- A decimal fraction `0.d₁d₂… × 10 ^ point` with the digits as characters. -/
structure DecimalDigits where
  digits : List Char
  point : Int
  deriving DecidableEq

def DecimalDigits.ofGrid (significand : Nat) (exponent : Int) : DecimalDigits :=
  let digits := significand.repr.toList
  ⟨(digits.reverse.dropWhile (· == '0')).reverse, exponent + digits.length⟩

namespace Magnitude
open Binary64 Number

def powerOfTen : Int → Nat × Nat
  | .ofNat e => (tenPow e, 1)
  | .negSucc e => (1, tenPow (e + 1))

def belowPower (steps : Nat) (exponent : Int) : Bool :=
  let (p, q) := powerOfTen exponent
  decide (steps * q < p * one)

/-- The least power of ten above a magnitude, found from the length of its binary form. -/
def decimalExponent (steps : Nat) : Int :=
  let guess := ((steps.log2 : Int) - stepExponent) * 30103 / 100000
  if belowPower steps guess then guess
  else if belowPower steps (guess + 1) then guess + 1
  else guess + 2

/-- Whether the decimal `significand × 10 ^ exponent` rounds to the magnitude. The ends of the interval belong
to it when the magnitude is even, and the lower half is shorter below a power of two. -/
def roundsTo (steps significand : Nat) (exponent : Int) : Bool :=
  let (p, q) := powerOfTen exponent
  let gap := spacing steps
  let below := if steps = twoPow steps.log2 ∧ 1 < gap then gap else 2 * gap
  let value := 4 * (significand * p * one)
  let low := (4 * steps - below) * q
  let high := (4 * steps + 2 * gap) * q
  if steps / gap % 2 = 0 then decide (low ≤ value ∧ value ≤ high) else decide (low < value ∧ value < high)

/-- The point of a decimal grid that rounds to the magnitude, the nearer of two, and the even one at a tie. -/
def gridPoint (steps : Nat) (exponent : Int) : Option Nat :=
  let (p, q) := powerOfTen exponent
  let low := steps * q / (p * one)
  match roundsTo steps low exponent, roundsTo steps (low + 1) exponent with
  | false, false => none
  | true, false => some low
  | false, true => some (low + 1)
  | true, true =>
    let twice := 2 * (steps * q)
    let middle := (2 * low + 1) * (p * one)
    some (if twice < middle ∨ (twice = middle ∧ low % 2 = 0) then low else low + 1)

def shortest (m : Magnitude) : DecimalDigits :=
  let top := decimalExponent m.steps
  let grids := (List.range 17).map fun n => top - (n + 1 : Nat)
  (grids.findSome? fun g => (gridPoint m.steps g).map fun d => .ofGrid d g).getD ⟨[], top⟩

end Magnitude

namespace DecimalDigits

def positional (d : DecimalDigits) : List Char :=
  match d.point with
  | .ofNat n =>
    let whole := d.digits.take n ++ List.replicate (n - d.digits.length) '0'
    let places := d.digits.drop n
    (if whole.isEmpty then ['0'] else whole) ++ '.' :: (if places.isEmpty then ['0'] else places)
  | .negSucc n => '0' :: '.' :: (List.replicate (n + 1) '0' ++ d.digits)

def scientific (d : DecimalDigits) : List Char :=
  let exponent := d.point - 1
  let places := d.digits.drop 1
  let power := exponent.natAbs.repr.toList
  d.digits.take 1 ++ (if places.isEmpty then [] else '.' :: places) ++
    'e' :: (if exponent < 0 then '-' else '+') :: (List.replicate (2 - power.length) '0' ++ power)

def text (d : DecimalDigits) : List Char :=
  if -4 < d.point ∧ d.point ≤ 16 then d.positional else d.scientific

end DecimalDigits

namespace Binary64

def text : Binary64 → String
  | finite negative magnitude =>
    let digits :=
      if magnitude.steps = 0 then ['0', '.', '0'] else magnitude.shortest.text
    String.ofList (if negative then '-' :: digits else digits)
  | infinite negative => if negative then "-inf" else "inf"
  | nan => "nan"

/-- The text with a fixed number of places, the exact value rounded to them, a half to even. -/
def fixedText (places : Nat) : Binary64 → String
  | finite negative magnitude =>
    let scaled := (Number.roundHalfEven (magnitude.steps * Number.tenPow places) one).repr.toList
    let digits := List.replicate (places + 1 - scaled.length) '0' ++ scaled
    let whole := digits.take (digits.length - places)
    let fraction := digits.drop (digits.length - places)
    let written := if places = 0 then whole else whole ++ '.' :: fraction
    String.ofList (if negative then '-' :: written else written)
  | infinite negative => if negative then "-inf" else "inf"
  | nan => "nan"

end Binary64

end BlockRules
