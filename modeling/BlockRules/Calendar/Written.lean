import BlockRules.Calendar.Basic
import BlockRules.Text.Hex

set_option autoImplicit false

namespace BlockRules
open Text

namespace Date

def written (d : Date) : List Char :=
  padded 4 d.year ++ '-' :: padded 2 d.month ++ '-' :: padded 2 d.day

end Date

namespace TimeOfDay

/-- The microseconds are left out when they are zero. -/
def written (t : TimeOfDay) : List Char :=
  padded 2 t.hour ++ ':' :: padded 2 t.minute ++ ':' :: padded 2 t.second ++
    (if t.microsecond = 0 then [] else '.' :: padded 6 t.microsecond)

end TimeOfDay

namespace Moment

def writtenOffset (minutes : Int) : List Char :=
  let n := minutes.natAbs
  (if minutes < 0 then '-' else '+') :: (padded 2 (n / 60) ++ ':' :: padded 2 (n % 60))

def written (separator : Char) (m : Moment) : List Char :=
  m.date.written ++ separator :: m.time.written ++ (m.offset.map writtenOffset).getD []

def documentText (m : Moment) : String :=
  let clock := m.date.written ++ 'T' :: m.time.written
  String.ofList <| match m.offset with
    | none => clock
    | some 0 => clock ++ ['Z']
    | some minutes => clock ++ writtenOffset minutes

end Moment

end BlockRules
