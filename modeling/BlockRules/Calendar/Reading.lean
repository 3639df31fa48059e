import BlockRules.Calendar.Basic
import BlockRules.Number.Literal

set_option autoImplicit false

/-!
# Reading moments

A moment may be given as text or as a number. Text is a date, or a date and a time with an optional offset;
text that is neither may write a number. A number counts seconds since the start of 1970 in UTC, or milliseconds
when it is large. Numbers outside the calendar are refused.
-/
namespace BlockRules.Moment

inductive ReadError where
  | notWritten
  | outOfRange
  deriving DecidableEq

def asciiDigit? (c : Char) : Option Nat :=
  if '0' ≤ c ∧ c ≤ '9' then some (c.toNat - '0'.toNat) else none

def takeDigits : Nat → List Char → Option (Nat × List Char)
  | 0, s => some (0, s)
  | _ + 1, [] => none
  | n + 1, c :: s => do
    let d ← asciiDigit? c
    let (rest, s) ← takeDigits n s
    return (d * Number.tenPow n + rest, s)

def takeChar (test : Char → Bool) : List Char → Option (List Char)
  | [] => none
  | c :: s => if test c then some s else none

def takeDate (s : List Char) : Option ((Nat × Nat × Nat) × List Char) := do
  let (year, s) ← takeDigits 4 s
  let s ← takeChar (· == '-') s
  let (month, s) ← takeDigits 2 s
  let s ← takeChar (· == '-') s
  let (day, s) ← takeDigits 2 s
  if 1 ≤ day ∧ day ≤ daysInMonth year month then return ((year, month, day), s) else none

def microsecondsOf (digits : List Char) : Nat :=
  let kept := digits.take 6
  kept.foldl (fun n c => 10 * n + (asciiDigit? c).getD 0) 0 * Number.tenPow (6 - kept.length)

def takeSeconds (s : List Char) : Option ((Nat × Nat) × List Char) := do
  let (second, s) ← takeDigits 2 s
  match s with
  | '.' :: r | ',' :: r =>
    let digits := r.takeWhile fun c => (asciiDigit? c).isSome
    if digits.isEmpty then none else return ((second, microsecondsOf digits), r.drop digits.length)
  | _ => return ((second, 0), s)

def takeTime (s : List Char) : Option (TimeOfDay × List Char) := do
  let (hour, s) ← takeDigits 2 s
  let s ← takeChar (· == ':') s
  let (minute, s) ← takeDigits 2 s
  let ((second, microsecond), s) ← match s with
    | ':' :: r => takeSeconds r
    | _ => some ((0, 0), s)
  return (← TimeOfDay.of? hour minute second microsecond, s)

/-- An offset in minutes up to the end of the text: nothing, `Z`, or a signed distance below a day. The minus
may also be the mathematical one. -/
def readOffset : List Char → Option (Option Int)
  | [] => some none
  | ['Z'] | ['z'] => some (some 0)
  | sign :: s => do
    let factor ← match sign with
      | '+' => some 1
      | '-' => some (-1)
      | '\u2212' => some (-1)
      | _ => none
    let (hours, s) ← takeDigits 2 s
    let s := match s with
      | ':' :: r => r
      | _ => s
    let (minutes, s) ← takeDigits 2 s
    if s.isEmpty ∧ minutes < 60 ∧ hours < 24 then
      return some (factor * ((hours * 60 + minutes : Nat) : Int))
    else none

/-- A date, or a date and a time, that ends with the text. The date's year may be zero. -/
def readParts (s : List Char) : Option ((Nat × Nat × Nat) × TimeOfDay × Option Int) := do
  let (date, s) ← takeDate s
  match s with
  | [] => return (date, .midnight, none)
  | separator :: s =>
    if separator ∈ ['T', 't', ' ', '_'] then
      let (time, s) ← takeTime s
      return (date, time, ← readOffset s)
    else none

/-- A timestamp counts seconds since the start of 1970, or milliseconds when it is further than this from zero. -/
def millisecondsAbove : Nat := 20000000000

def unitMicroseconds (isMilliseconds : Bool) : Nat := if isMilliseconds then 1000 else 1000000

inductive TimestampError where
  | beyondYears
  | yearZero
  deriving DecidableEq

def firstSecond : Int := -62167219200

def lastSecond : Int := 253402300799

def ofMicroseconds (total : Int) : Except TimestampError Moment :=
  if total < firstSecond * 1000000 ∨ (lastSecond + 1) * 1000000 ≤ total then .error .beyondYears
  else match ofUnixMicroseconds? total with
    | some m => .ok m
    | none => .error .yearZero

def ofWhole (n : Int) : Except TimestampError Moment :=
  ofMicroseconds (n * unitMicroseconds (decide (millisecondsAbove < n.natAbs)))

/-- The microseconds in a fraction of a unit, which is given in steps; a half goes up. The product is rounded to
a number of double precision before that. -/
def fractionMicroseconds (unit steps : Nat) : Nat :=
  (2 * Magnitude.nearestSteps (steps * unit) 1 + Binary64.one) / (2 * Binary64.one)

/-- The moment of a timestamp with a fraction, which counts forward from the whole number below. -/
def ofFraction : Binary64 → Except TimestampError Moment
  | .finite negative magnitude =>
    let unit := unitMicroseconds (decide (millisecondsAbove * Binary64.one < magnitude.steps))
    let value := Binary64.signed negative magnitude.steps
    let rest := Magnitude.nearestSteps (value.fmod Binary64.one).toNat 1
    ofMicroseconds (value.fdiv Binary64.one * unit + fractionMicroseconds unit rest)
  | _ => .error .beyondYears

def ofNumber (m : Except TimestampError Moment) : Except ReadError Moment := m.mapError fun _ => .outOfRange

def ofInt (n : Int) : Except ReadError Moment := ofNumber (ofWhole n)

def ofFloat (x : Binary64) : Except ReadError Moment := ofNumber (ofFraction x)

def wholeLimit : Nat := Number.twoPow 63

/-- The moment of a timestamp in text: ASCII digits with an optional sign and point. Only after a point may there
be an exponent. -/
def timestamp? (s : List Char) : Option (Except TimestampError Moment) := do
  if !s.all (fun c => c.toNat < 0x80) then none
  let literal ← Number.literal? s
  let whole := Text.digitsValue literal.whole
  if wholeLimit ≤ whole then none
  else if s.contains '.' then return ofFraction literal.value
  else if s.any (fun c => c == 'e' || c == 'E') then none
  else return ofWhole (if literal.negative then -(whole : Int) else whole)

def ofText (s : List Char) : Except ReadError Moment :=
  match readParts s with
  | some ((year, month, day), time, offset) =>
    match Date.of? year month day with
    | some date => .ok ⟨date, time, offset⟩
    | none => .error .outOfRange
  | none =>
    match timestamp? s with
    | some (.ok m) => .ok m
    | some (.error .yearZero) => .error .outOfRange
    | some (.error .beyondYears) | none => .error .notWritten

end BlockRules.Moment
