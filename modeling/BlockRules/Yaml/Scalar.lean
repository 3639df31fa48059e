import BlockRules.Number.Arithmetic
import BlockRules.Number.Literal
import BlockRules.Schema.Field
import BlockRules.Text.LowerCase
import BlockRules.Yaml.Base64
import BlockRules.Yaml.Tag

set_option autoImplicit false

namespace BlockRules.Yaml
open Number

def withoutBars (s : List Char) : List Char := s.filter (· != '_')

def takeNumberSign (s : List Char) : Except ReadError (Bool × List Char) :=
  if s.isEmpty then .error .emptyNumber else .ok (takeSign s)

def betweenColons (s : List Char) : List (List Char) :=
  match s with
  | [] => [[]]
  | c :: rest =>
    match betweenColons rest with
    | part :: parts => if c = ':' then [] :: part :: parts else (c :: part) :: parts
    | [] => []

/-- An integer: in base two, eight, sixteen or ten, or of digits in base sixty with colons between. -/
def readInt (text : List Char) : Except ReadError Int := do
  let (negative, s) ← takeNumberSign (withoutBars text)
  let inBase (base : Nat) (digits : List Char) : Except ReadError Int :=
    (integer base digits).mapError .integer
  let n ← match s with
    | [] => throw .emptyNumber
    | ['0'] => pure 0
    | '0' :: 'b' :: rest => inBase 2 rest
    | '0' :: 'x' :: rest => inBase 16 rest
    | '0' :: rest => inBase 8 ('0' :: rest)
    | s =>
      if s.contains ':' then do
        let parts ← (betweenColons s).mapM (inBase 10)
        pure (parts.foldl (fun n part => 60 * n + part) 0)
      else inBase 10 s
  return if negative then -n else n

def plainFloat (s : List Char) : Except ReadError Binary64 :=
  let trimmed := Text.strip s
  match (namedNumber? trimmed).or ((literal? trimmed).map Literal.value) with
  | some x => .ok x
  | none => .error (.number s)

/-- The sum of the products with powers of sixty, from some power on, with a number. -/
def sixtieths (total : Binary64) (power : Nat) : List Binary64 → Except ReadError Binary64
  | [] => .ok total
  | x :: rest => match Binary64.ofInt? power with
    | some factor => sixtieths (total.plus (x.times factor)) (60 * power) rest
    | none => .error .factorRange

def floatParts (text : List Char) : Except ReadError (Bool × List Char) :=
  takeNumberSign (Text.lower (withoutBars text))

def nanName : List Char := ".nan".toList

def readFloat (text : List Char) : Except ReadError Binary64 := do
  let (negative, s) ← floatParts text
  let x ←
    if s = ".inf".toList then pure (Binary64.infinite false)
    else if s = nanName then pure Binary64.nan
    else if s.contains ':' then do
      let parts ← (betweenColons s).mapM plainFloat
      sixtieths (.finite false .zero) 1 parts.reverse
    else plainFloat s
  return if negative then x.negated else x

def isNanName (text : List Char) : Bool :=
  match floatParts text with
  | .ok (_, s) => s == nanName
  | .error _ => false

def readBool (text : List Char) : Except ReadError Bool :=
  let word := Text.lower text
  match Tag.boolWords.find? fun w => w.1.toList = word with
  | some (_, b) => .ok b
  | none => .error (.bool word)

def readBytes (text : List Char) : Except ReadError (List UInt8) :=
  if text.any fun c => 0x80 ≤ c.toNat then .error .malformed
  else match Base64.decode text with
    | some bytes => .ok bytes
    | none => .error .malformed

def readScalar (tag : Tag) (text : List Char) : Except ReadError Scalar :=
  match tag with
  | .null => .ok .null
  | .bool => (readBool text).map .bool
  | .int => (readInt text).map .int
  | .float => (readFloat text).map .float
  | .timestamp => match Timestamp.read text with
    | some t => t.scalar
    | none => .error .moment
  | .text => .ok (.text (String.ofList text))
  | .binary => (readBytes text).map .bytes
  | _ => .error .malformed

end BlockRules.Yaml
