import BlockRules.Number.Integer
import BlockRules.Number.Literal
import BlockRules.Text.Hex
import BlockRules.Text.Utf16
import BlockRules.Value.Basic

set_option autoImplicit false

/-!
# Tokens of JSON

A text as punctuation, words, numbers and strings, each with its position. What is no token ends the list: it
keeps the position where it starts and the position of what is wrong in it, which differ inside a string. A string
may escape a surrogate on its own, and then stands for no text.
-/
namespace BlockRules.Json
open Number Text

inductive TokenKind where
  | openList
  | closeList
  | openObject
  | closeObject
  | comma
  | colon
  | string (s : String)
  | brokenString
  | scalar (s : Scalar)
  | longInt (digits : Nat)
  | invalid (position : Nat)

structure Token where
  kind : TokenKind
  position : Nat

def isSpace (c : Char) : Bool := c == ' ' || c == '\t' || c == '\n' || c == '\r'

def isAsciiDigit (c : Char) : Bool := '0' ≤ c && c ≤ '9'

def simpleEscape? : Char → Option Char
  | '"' => some '"'
  | '\\' => some '\\'
  | '/' => some '/'
  | 'b' => some '\x08'
  | 'f' => some '\x0c'
  | 'n' => some '\n'
  | 'r' => some '\r'
  | 't' => some '\t'
  | _ => none

/-- The content of a string after its opening quote, reversed, and the position after the closing one. An error
is the position of what is wrong; `start` is that of the opening quote. -/
def scanString (start : Nat) (content : Option (List Char)) (position : Nat) :
    List Char → Except Nat (Option (List Char) × Nat)
  | [] => .error start
  | '"' :: _ => .ok (content, position + 1)
  | '\\' :: 'u' :: a :: b :: c :: d :: '\\' :: 'u' :: e :: f :: g :: h :: next :: rest =>
    match hexNumber? [a, b, c, d], hexNumber? [e, f, g, h] with
    | some high, some low =>
      if isHighSurrogate high && isLowSurrogate low then
        scanString start (content.map (joinSurrogates high low :: ·)) (position + 12) (next :: rest)
      else
        scanString start (withUnit high content) (position + 6)
          ('\\' :: 'u' :: e :: f :: g :: h :: next :: rest)
    | some _, none => .error (position + 7)
    | none, _ => .error (position + 1)
  | '\\' :: 'u' :: a :: b :: c :: d :: next :: rest =>
    match hexNumber? [a, b, c, d] with
    | some n => scanString start (withUnit n content) (position + 6) (next :: rest)
    | none => .error (position + 1)
  | '\\' :: 'u' :: _ => .error (position + 1)
  | ['\\'] => .error start
  | '\\' :: c :: rest =>
    match simpleEscape? c with
    | some c => scanString start (content.map (c :: ·)) (position + 2) rest
    | none => .error position
  | c :: rest =>
    if c.toNat < 0x20 then .error position else scanString start (content.map (c :: ·)) (position + 1) rest
where
  hexNumber? : List Char → Option Nat := Text.hexNumber?
  withUnit (n : Nat) (content : Option (List Char)) : Option (List Char) := do return (← unitChar? n) :: (← content)

/-- The number at the start of a text, and the count of its characters. A leading zero stands alone, and a point
or exponent without digits does not belong to the number. -/
def scanNumber (s : List Char) : Option (TokenKind × Nat) :=
  let (negative, body) := match s with
    | '-' :: r => (true, r)
    | _ => (false, s)
  let whole := match body with
    | '0' :: _ => ['0']
    | _ => body.takeWhile isAsciiDigit
  if whole.isEmpty then none
  else
    let rest := body.drop whole.length
    let fraction := match rest with
      | '.' :: r => r.takeWhile isAsciiDigit
      | _ => []
    let rest := if fraction.isEmpty then rest else rest.drop (fraction.length + 1)
    let signed := match rest with
      | 'e' :: r => r
      | 'E' :: r => r
      | _ => []
    let (signCount, power) := match signed with
      | '+' :: r => (1, r)
      | '-' :: r => (1, r)
      | _ => (0, signed)
    let digits := power.takeWhile isAsciiDigit
    let fractionCount := if fraction.isEmpty then 0 else fraction.length + 1
    let powerCount := if digits.isEmpty then 0 else 1 + signCount + digits.length
    let count := (if negative then 1 else 0) + whole.length + fractionCount + powerCount
    if fraction.isEmpty ∧ digits.isEmpty then
      let n := digitsValue whole
      if digitLimit < whole.length then some (.longInt whole.length, count)
      else some (.scalar (.int (if negative then -(n : Int) else n)), count)
    else
      let e := digitsValue digits
      let exponent : Int := if signed.head? = some '-' then -(e : Int) else e
      some (.scalar (.float (Literal.value ⟨negative, whole, fraction, exponent⟩)), count)

def words : List (String × Scalar) :=
  [("null", .null), ("true", .bool true), ("false", .bool false), ("NaN", .float .nan),
    ("Infinity", .float (.infinite false)), ("-Infinity", .float (.infinite true))]

def scanToken (position : Nat) (s : List Char) : TokenKind × Nat :=
  match s with
  | '[' :: _ => (.openList, 1)
  | ']' :: _ => (.closeList, 1)
  | '{' :: _ => (.openObject, 1)
  | '}' :: _ => (.closeObject, 1)
  | ',' :: _ => (.comma, 1)
  | ':' :: _ => (.colon, 1)
  | '"' :: rest => match scanString position (some []) (position + 1) rest with
    | .ok (some content, after) => (.string (String.ofList content.reverse), after - position)
    | .ok (none, after) => (.brokenString, after - position)
    | .error p => (.invalid p, s.length)
  | _ => match words.find? fun w => w.1.toList.isPrefixOf s with
    | some (word, scalar) => (.scalar scalar, word.length)
    | none => (scanNumber s).getD (.invalid position, s.length)

def tokens (position : Nat) : List Char → List Token
  | [] => []
  | c :: rest =>
    if isSpace c then tokens (position + 1) rest
    else
      let (kind, count) := scanToken position (c :: rest)
      ⟨kind, position⟩ :: tokens (position + count) (rest.drop (count - 1))
termination_by s => s.length
decreasing_by all_goals (simp; try omega)

end BlockRules.Json
