import BlockRules.Number.Integer

set_option autoImplicit false

/-!
# Errors in YAML

Most texts that are not read break the grammar; no more is said of them. Others are well formed but hold a
scalar without a value, or are too deep.
-/
namespace BlockRules.Yaml
open Text

inductive ClockPart where
  | year
  | month
  | day
  | hour
  | minute
  | second
  deriving DecidableEq

namespace ClockPart

def message : ClockPart → String
  | year => "year 0 is out of range"
  | month => "month must be in 1..12"
  | day => "day is out of range for month"
  | hour => "hour must be in 0..23"
  | minute => "minute must be in 0..59"
  | second => "second must be in 0..59"

end ClockPart

inductive ReadError where
  | malformed
  | tooDeep
  | characterRange
  | characterSize
  | loneSurrogate
  | integer (e : Number.IntegerError)
  | number (text : List Char)
  | factorRange
  | emptyNumber
  | bool (text : List Char)
  | moment
  | momentOfMapping
  | clock (part : ClockPart)
  | offset (minutes : Int)
  deriving DecidableEq

namespace ReadError

def distance (minutes : Int) : String :=
  let days := minutes.fdiv 1440
  let seconds := minutes.fmod 1440 * 60
  "datetime.timedelta(days=" ++ days.repr ++ (if seconds = 0 then "" else ", seconds=" ++ seconds.repr) ++ ")"

/-- The wording of an error; none for texts that break the grammar, are too deep or escape what is no character. -/
def message : ReadError → String
  | malformed => ""
  | tooDeep => ""
  | characterRange => "chr() arg not in range(0x110000)"
  | characterSize => "Python int too large to convert to C int"
  | loneSurrogate => ""
  | integer e => e.message
  | number text => "could not convert string to float: " ++ String.ofList (quoted text)
  | factorRange => "int too large to convert to float"
  | emptyNumber => "string index out of range"
  | bool text => String.ofList (quoted text)
  | moment => "'NoneType' object has no attribute 'groupdict'"
  | momentOfMapping => "expected string or bytes-like object, got 'list'"
  | clock part => part.message
  | offset minutes =>
    "offset must be a timedelta strictly between -timedelta(hours=24) and timedelta(hours=24), not " ++
      distance minutes ++ "."

end ReadError

end BlockRules.Yaml
