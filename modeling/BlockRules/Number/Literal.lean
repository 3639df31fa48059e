import BlockRules.Number.Binary64
import BlockRules.Text.Digit

set_option autoImplicit false

/-!
# Decimal literals

A literal is an optional sign, digits with an optional point among or before them, and an optional exponent.
Digits may be of any script. `takeLiteral` reads the longest literal at the start of a text: each part takes all
that it can, and an exponent mark without digits is left in the rest.
-/
namespace BlockRules.Number
open Text

structure Literal where
  negative : Bool
  whole : List Char
  fraction : List Char
  exponent : Int
  deriving DecidableEq

namespace Literal

def value (l : Literal) : Binary64 :=
  .ofDecimal l.negative (digitsValue (l.whole ++ l.fraction)) (l.exponent - l.fraction.length)

end Literal

def takeSign : List Char → Bool × List Char
  | '+' :: s => (false, s)
  | '-' :: s => (true, s)
  | s => (false, s)

def takeAllDigits (s : List Char) : List Char × List Char := (s.takeWhile isDigit, s.dropWhile isDigit)

/-- Digits with an optional point and optional further digits, or a point with digits, and the rest. -/
def takeMantissa (s : List Char) : Option ((List Char × List Char) × List Char) :=
  let (whole, rest) := takeAllDigits s
  match rest with
  | '.' :: rest =>
    let (fraction, rest) := takeAllDigits rest
    if whole.isEmpty && fraction.isEmpty then none else some ((whole, fraction), rest)
  | rest => if whole.isEmpty then none else some ((whole, []), rest)

/-- The exponent at the start of a text and the rest; zero and the whole text where there is none. -/
def takeExponent (s : List Char) : Int × List Char :=
  match s with
  | c :: rest =>
    if c = 'e' ∨ c = 'E' then
      let (negative, rest) := takeSign rest
      let (digits, rest) := takeAllDigits rest
      if digits.isEmpty then (0, s)
      else (if negative then -(digitsValue digits : Int) else digitsValue digits, rest)
    else (0, s)
  | [] => (0, [])

def takeLiteral (s : List Char) : Option (Literal × List Char) :=
  let (negative, s) := takeSign s
  (takeMantissa s).map fun ((whole, fraction), s) =>
    let (exponent, s) := takeExponent s
    (⟨negative, whole, fraction, exponent⟩, s)

def literal? (s : List Char) : Option Literal :=
  match takeLiteral s with
  | some (l, []) => some l
  | _ => none

end BlockRules.Number
