import BlockRules.Text.Lines
import BlockRules.Value.Basic
import BlockRules.Yaml.Error

set_option autoImplicit false

namespace BlockRules.Yaml

structure TimestampTime where
  hour : Nat
  minute : Nat
  second : Nat
  microsecond : Nat
  /-- The offset in minutes. -/
  offset : Option Int

structure Timestamp where
  year : Nat
  month : Nat
  day : Nat
  padded : Bool
  time : Option TimestampTime

namespace Timestamp

def isDigit (c : Char) : Bool := '0' ≤ c && c ≤ '9'

def digitsValue (digits : List Char) : Nat := digits.foldl (fun n c => 10 * n + (c.toNat - '0'.toNat)) 0

def takeDigits (least most : Nat) (s : List Char) : Option (List Char × List Char) :=
  let digits := s.takeWhile isDigit
  if least ≤ digits.length ∧ digits.length ≤ most then some (digits, s.drop digits.length) else none

def takeMark (mark : Char) : List Char → Option (List Char)
  | c :: s => if c = mark then some s else none
  | [] => none

def takeSeparator : List Char → Option (List Char)
  | [] => none
  | c :: s =>
    if c = 'T' ∨ c = 't' then some s
    else if c = ' ' ∨ c = '\t' then some (s.dropWhile fun c => c == ' ' || c == '\t')
    else none

def readOffset (s : List Char) : Option (Option Int) :=
  if s.isEmpty then some none
  else match s.dropWhile fun c => c == ' ' || c == '\t' with
    | ['Z'] => some (some 0)
    | sign :: rest => do
      let factor ← match sign with
        | '+' => some (1 : Int)
        | '-' => some (-1)
        | _ => none
      let (hours, rest) ← takeDigits 1 2 rest
      let minutes ← match rest with
        | [] => some 0
        | ':' :: rest => do
          let (minutes, rest) ← takeDigits 2 2 rest
          if rest.isEmpty then some (digitsValue minutes) else none
        | _ => none
      return some (factor * ((digitsValue hours * 60 + minutes : Nat) : Int))
    | [] => none

def microseconds (digits : List Char) : Nat :=
  digitsValue (digits.take 6) * Number.tenPow (6 - (digits.take 6).length)

def readTime (s : List Char) : Option TimestampTime := do
  let s ← takeSeparator s
  let (hour, s) ← takeDigits 1 2 s
  let s ← takeMark ':' s
  let (minute, s) ← takeDigits 2 2 s
  let s ← takeMark ':' s
  let (second, s) ← takeDigits 2 2 s
  let (fraction, s) := match s with
    | '.' :: r => (r.takeWhile isDigit, r.dropWhile isDigit)
    | _ => ([], s)
  let offset ← readOffset s
  return ⟨digitsValue hour, digitsValue minute, digitsValue second, microseconds fraction, offset⟩

def read (s : List Char) : Option Timestamp := do
  let (year, s) ← takeDigits 4 4 (Text.withoutLastFeed s)
  let s ← takeMark '-' s
  let (month, s) ← takeDigits 1 2 s
  let s ← takeMark '-' s
  let (day, s) ← takeDigits 1 2 s
  let time ← if s.isEmpty then some none else (readTime s).map some
  return ⟨digitsValue year, digitsValue month, digitsValue day, month.length = 2 ∧ day.length = 2, time⟩

/-- Whether a text is recognized as a timestamp on its own. A date needs two digits for month and day then. -/
def isRecognized (s : List Char) : Bool := (read s).any fun t => t.padded || t.time.isSome

def datePart (t : Timestamp) : ClockPart :=
  if t.year = 0 then .year else if t.month = 0 ∨ 12 < t.month then .month else .day

def timePart (t : TimestampTime) : ClockPart :=
  if 24 ≤ t.hour then .hour else if 60 ≤ t.minute then .minute else .second

def scalar (t : Timestamp) : Except ReadError Scalar :=
  let date := Date.of? t.year t.month t.day
  match t.time with
  | none => match date with
    | some d => .ok (.date d)
    | none => .error (.clock t.datePart)
  | some time =>
    if time.offset.any fun minutes => 1440 ≤ minutes.natAbs then .error (.offset (time.offset.getD 0))
    else match date, TimeOfDay.of? time.hour time.minute time.second time.microsecond with
      | some d, some clock => .ok (.moment ⟨d, clock, time.offset⟩)
      | none, _ => .error (.clock t.datePart)
      | _, none => .error (.clock (timePart time))

end Timestamp

end BlockRules.Yaml
