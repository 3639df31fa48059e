set_option autoImplicit false

/-!
# Dates and moments

Dates of the Gregorian calendar from the years 1 to 9999, times of day down to the microsecond, and moments,
which may know their distance from UTC. A value of these types is always a date or time that exists.
-/
namespace BlockRules

def isLeapYear (year : Nat) : Bool := year % 4 == 0 && (year % 100 != 0 || year % 400 == 0)

def daysInMonth (year month : Nat) : Nat :=
  match month with
  | 2 => if isLeapYear year then 29 else 28
  | 4 | 6 | 9 | 11 => 30
  | 1 | 3 | 5 | 7 | 8 | 10 | 12 => 31
  | _ => 0

structure Date where
  year : Nat
  month : Nat
  day : Nat
  year_range : 1 ≤ year ∧ year ≤ 9999
  day_range : 1 ≤ day ∧ day ≤ daysInMonth year month
  deriving DecidableEq

namespace Date

def of? (year month day : Nat) : Option Date :=
  if h : (1 ≤ year ∧ year ≤ 9999) ∧ 1 ≤ day ∧ day ≤ daysInMonth year month then
    some ⟨year, month, day, h.1, h.2⟩
  else none

theorem of?_self (d : Date) : of? d.year d.month d.day = some d := by
  simp [of?, d.year_range, d.day_range]

theorem month_range (d : Date) : 1 ≤ d.month ∧ d.month ≤ 12 := by
  have h := d.day_range
  refine ⟨?_, ?_⟩ <;> refine Nat.le_of_not_lt fun hm => ?_
  · have : d.month = 0 := by omega
    rw [this] at h
    simp [daysInMonth] at h
    omega
  · have : daysInMonth d.year d.month = 0 := by
      unfold daysInMonth
      split <;> omega
    omega

def daysBeforeYear (year : Nat) : Nat :=
  let y := year - 1
  y * 365 + y / 4 - y / 100 + y / 400

def daysBeforeMonth (year month : Nat) : Nat :=
  (List.range (month - 1)).foldl (fun days m => days + daysInMonth year (m + 1)) 0

def ordinal (d : Date) : Nat := daysBeforeYear d.year + daysBeforeMonth d.year d.month + d.day

/-- The day of the week, from 0 for Sunday to 6 for Saturday. -/
def dayOfWeek (d : Date) : Nat := d.ordinal % 7

/-- The date of a day number, if it is in range. The average year gives a first guess at the year, which is
never too late and at most one too early. -/
def ofOrdinal? (n : Nat) : Option Date :=
  let guess := (n - 1) * 400 / 146097 + 1
  let year :=
    if n ≤ daysBeforeYear guess then guess - 1
    else if daysBeforeYear (guess + 1) < n then guess + 1 else guess
  let rest := n - daysBeforeYear year
  let month := (List.range 12).countP fun m => daysBeforeMonth year (m + 1) < rest
  of? year month (rest - daysBeforeMonth year month)

end Date

structure TimeOfDay where
  hour : Nat
  minute : Nat
  second : Nat
  microsecond : Nat
  in_range : hour < 24 ∧ minute < 60 ∧ second < 60 ∧ microsecond < 1000000
  deriving DecidableEq

namespace TimeOfDay

def of? (hour minute second microsecond : Nat) : Option TimeOfDay :=
  if h : hour < 24 ∧ minute < 60 ∧ second < 60 ∧ microsecond < 1000000 then
    some ⟨hour, minute, second, microsecond, h⟩
  else none

def midnight : TimeOfDay := ⟨0, 0, 0, 0, by decide⟩

def microseconds (t : TimeOfDay) : Nat :=
  ((t.hour * 60 + t.minute) * 60 + t.second) * 1000000 + t.microsecond

def ofMicroseconds (n : Nat) : TimeOfDay :=
  let seconds := n / 1000000
  ⟨seconds / 3600 % 24, seconds / 60 % 60, seconds % 60, n % 1000000, by omega⟩

end TimeOfDay

/-- A date and time of day, with the minutes by which its clock is ahead of UTC where that is known. -/
structure Moment where
  date : Date
  time : TimeOfDay
  offset : Option Int
  deriving DecidableEq

namespace Moment

def localMicroseconds (m : Moment) : Int :=
  (m.date.ordinal : Int) * 86400000000 + m.time.microseconds

/-- Two moments are the same when both know their offset and they are the same instant, or when neither does
and their clocks agree. -/
def same (a b : Moment) : Bool :=
  match a.offset, b.offset with
  | some x, some y => a.localMicroseconds - x * 60000000 == b.localMicroseconds - y * 60000000
  | none, none => a.localMicroseconds == b.localMicroseconds
  | _, _ => false

def unixEpoch : Nat := 719163

def ofUnixMicroseconds? (n : Int) : Option Moment :=
  let days := n.fdiv 86400000000 + unixEpoch
  (Date.ofOrdinal? days.toNat).map fun date =>
    ⟨date, .ofMicroseconds (n.fmod 86400000000).toNat, some 0⟩

end Moment

end BlockRules
