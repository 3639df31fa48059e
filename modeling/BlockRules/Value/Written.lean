import BlockRules.Calendar.Written
import BlockRules.Number.Integer
import BlockRules.Number.Shortest
import BlockRules.Text.Quoted
import BlockRules.Value.Basic

set_option autoImplicit false

/-!
# Written values

`shown` is a value as it stands in a sentence: text is bare. Inside lists and objects values are written by
`written`, where text is quoted and moments list their parts. A set, which has no order of its own, is written in
that of its file. No program output holds integers that are too long: `hasLongInteger` tells which values have one.
-/
namespace BlockRules

def joinWith (separator : List Char) : List (List Char) → List Char
  | [] => []
  | [s] => s
  | s :: rest => s ++ separator ++ joinWith separator rest

def writtenInt (n : Int) : List Char := n.repr.toList

namespace Date

def parts (d : Date) : List (List Char) := [d.year, d.month, d.day].map fun n => n.repr.toList

end Date

namespace Moment

/-- The time parts of a moment; seconds and microseconds are left out from the end while they are zero. -/
def timeParts (t : TimeOfDay) : List (List Char) :=
  let kept :=
    if t.microsecond ≠ 0 then [t.hour, t.minute, t.second, t.microsecond]
    else if t.second ≠ 0 then [t.hour, t.minute, t.second]
    else [t.hour, t.minute]
  kept.map fun n => n.repr.toList

def offsetParts (minutes : Int) : List Char :=
  if minutes = 0 then "tzinfo=datetime.timezone.utc".toList
  else
    let seconds := minutes * 60
    let day := if seconds < 0 then "days=-1, ".toList else []
    "tzinfo=datetime.timezone(datetime.timedelta(".toList ++ day ++
      "seconds=".toList ++ writtenInt (seconds.fmod 86400) ++ "))".toList

end Moment

namespace Scalar

def written : Scalar → List Char
  | null => "None".toList
  | bool b => if b then "True".toList else "False".toList
  | int n => writtenInt n
  | float x => x.text.toList
  | text s => Text.quoted s.toList
  | bytes data => Text.quotedBytes data
  | date d => "datetime.date(".toList ++ joinWith [',', ' '] d.parts ++ [')']
  | moment m =>
    let parts := m.date.parts ++ Moment.timeParts m.time ++ (m.offset.map Moment.offsetParts).toList
    "datetime.datetime(".toList ++ joinWith [',', ' '] parts ++ [')']

def isLongInteger : Scalar → Bool
  | int n => Number.isLong n
  | _ => false

def shown : Scalar → List Char
  | text s => s.toList
  | date d => d.written
  | moment m => m.written ' '
  | s => s.written

end Scalar

namespace Value

mutual

def written : Value → List Char
  | .scalar s => s.written
  | .list items => '[' :: joinWith [',', ' '] (writtenItems items) ++ [']']
  | .object fields => '{' :: joinWith [',', ' '] (writtenFields fields) ++ ['}']
  | .entry key content => '(' :: key.written ++ ',' :: ' ' :: content.written ++ [')']
  | .set members =>
    if members.isEmpty then "set()".toList
    else '{' :: joinWith [',', ' '] (members.map Scalar.written) ++ ['}']
  | .again isObject => if isObject then ['{', '.', '.', '.', '}'] else ['[', '.', '.', '.', ']']

def writtenItems : List Value → List (List Char)
  | [] => []
  | item :: rest => item.written :: writtenItems rest

def writtenFields : List (Scalar × Value) → List (List Char)
  | [] => []
  | (key, content) :: rest => (key.written ++ ':' :: ' ' :: content.written) :: writtenFields rest

end

mutual

def hasLongInteger : Value → Bool
  | .scalar s => s.isLongInteger
  | .list items => haveLongInteger items
  | .object fields => fieldsHaveLongInteger fields
  | .entry key content => key.hasLongInteger || content.hasLongInteger
  | .set members => members.any Scalar.isLongInteger
  | .again _ => false

def haveLongInteger : List Value → Bool
  | [] => false
  | item :: rest => item.hasLongInteger || haveLongInteger rest

def fieldsHaveLongInteger : List (Scalar × Value) → Bool
  | [] => false
  | (key, content) :: rest => key.isLongInteger || content.hasLongInteger || fieldsHaveLongInteger rest

end

def shown : Value → String
  | .scalar s => String.ofList s.shown
  | v => String.ofList v.written

end Value

end BlockRules
