set_option autoImplicit false

/-!
# UTF-16 and UTF-32

Texts as units of two or four bytes each. Two units of UTF-16 that are a pair of surrogates make one character; a
surrogate on its own is none, so that what holds one is no text.
-/
namespace BlockRules.Text

def isHighSurrogate (n : Nat) : Bool := 0xD800 ≤ n && n < 0xDC00

def isLowSurrogate (n : Nat) : Bool := 0xDC00 ≤ n && n < 0xE000

def joinSurrogates (high low : Nat) : Char := Char.ofNat (0x10000 + (high - 0xD800) * 0x400 + (low - 0xDC00))

def unitChar? (n : Nat) : Option Char :=
  if isHighSurrogate n || isLowSurrogate n then none else some (Char.ofNat n)

def charsOfUnits? : List Nat → Option (List Char)
  | [] => some []
  | [n] => (unitChar? n).map fun c => [c]
  | n :: m :: rest =>
    if isHighSurrogate n && isLowSurrogate m then (charsOfUnits? rest).map (joinSurrogates n m :: ·)
    else do return (← unitChar? n) :: (← charsOfUnits? (m :: rest))

inductive ByteOrder where
  | highFirst
  | lowFirst
  deriving DecidableEq

def ByteOrder.number (order : ByteOrder) (bytes : List UInt8) : Nat :=
  let highFirst := match order with
    | highFirst => bytes
    | lowFirst => bytes.reverse
  highFirst.foldl (fun n b => 0x100 * n + b.toNat) 0

def units16 (order : ByteOrder) : List UInt8 → Option (List Nat)
  | [] => some []
  | [_] => none
  | a :: b :: rest => (units16 order rest).map (order.number [a, b] :: ·)

def units32 (order : ByteOrder) : List UInt8 → Option (List Nat)
  | [] => some []
  | a :: b :: c :: d :: rest => (units32 order rest).map (order.number [a, b, c, d] :: ·)
  | _ => none

inductive DecodeError where
  | undecodable
  | loneSurrogate
  deriving DecidableEq

def decodeUtf16 (order : ByteOrder) (bytes : List UInt8) : Except DecodeError (List Char) := do
  let units ← (units16 order bytes).elim (.error .undecodable) .ok
  (charsOfUnits? units).elim (.error .loneSurrogate) .ok

def decodeUtf32 (order : ByteOrder) (bytes : List UInt8) : Except DecodeError (List Char) := do
  let units ← (units32 order bytes).elim (.error .undecodable) .ok
  if units.all (· < 0x110000) then (units.mapM unitChar?).elim (.error .loneSurrogate) .ok
  else throw .undecodable

inductive Encoding where
  | utf8
  | utf16 (order : ByteOrder)
  | utf32 (order : ByteOrder)
  deriving DecidableEq

/-- The encoding of a text that begins with two characters of ASCII or is one, told by which of its first bytes are
zero. -/
def Encoding.ofZeros : List UInt8 → Encoding
  | a :: b :: c :: d :: _ =>
    if a = 0 then (if b = 0 then utf32 .highFirst else utf16 .highFirst)
    else if b = 0 then (if c = 0 ∧ d = 0 then utf32 .lowFirst else utf16 .lowFirst)
    else utf8
  | [a, b] => if a = 0 then utf16 .highFirst else if b = 0 then utf16 .lowFirst else utf8
  | _ => utf8

end BlockRules.Text
