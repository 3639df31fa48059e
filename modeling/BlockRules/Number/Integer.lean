import BlockRules.Number.Power
import BlockRules.Text.Blank
import BlockRules.Text.Digit
import BlockRules.Text.Quoted

set_option autoImplicit false

namespace BlockRules.Number
open Text

def digitLimit : Nat := 4300

def isLong (n : Int) : Bool := tenPow digitLimit ≤ n.natAbs

def limitText : String := "Exceeds the limit (" ++ digitLimit.repr ++ " digits) for integer string conversion"

def limitAdvice : String := "; use sys.set_int_max_str_digits() to increase the limit"

def longMessage : String := limitText ++ limitAdvice

inductive IntegerError where
  | tooLong (digits : Nat)
  | notWritten (base : Nat) (text : List Char)
  deriving DecidableEq

namespace IntegerError

def message : IntegerError → String
  | tooLong digits => limitText ++ ": value has " ++ digits.repr ++ " digits" ++ limitAdvice
  | notWritten base text =>
    "invalid literal for int() with base " ++ base.repr ++ ": " ++ String.ofList ((quoted text).take 200)

end IntegerError

/-- The value of a digit, which may be of any script, or of a letter that serves as one. -/
def baseDigit? (base : Nat) (c : Char) : Option Nat := ((digitValue? c).or (hexValue? c)).filter (· < base)

def baseMarks : Nat → List Char
  | 2 => ['b', 'B']
  | 8 => ['o', 'O']
  | 16 => ['x', 'X']
  | _ => []

def withoutMark (base : Nat) : List Char → List Char
  | '0' :: mark :: rest => if mark ∈ baseMarks base then rest else '0' :: mark :: rest
  | s => s

def integer (base : Nat) (text : List Char) : Except IntegerError Int :=
  let s := strip text
  let (negative, s) := match s with
    | '-' :: r => (true, r)
    | '+' :: r => (false, r)
    | _ => (false, s)
  let digits := withoutMark base s
  match digits.mapM (baseDigit? base) with
  | none | some [] => .error (.notWritten base text)
  | some values =>
    if base = 10 ∧ digitLimit < values.length then .error (.tooLong values.length)
    else
      let n := values.foldl (fun n d => base * n + d) 0
      .ok (if negative then -(n : Int) else n)

end BlockRules.Number
