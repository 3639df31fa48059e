set_option autoImplicit false

namespace BlockRules.Text

def continuation? (b : UInt8) : Option Nat :=
  if 0x80 ≤ b.toNat ∧ b.toNat < 0xC0 then some (b.toNat - 0x80) else none

/-- A code point above a least value that is no surrogate. -/
def codePoint? (least n : Nat) : Option Char :=
  if least ≤ n ∧ n < 0x110000 ∧ ¬(0xD800 ≤ n ∧ n < 0xE000) then some (Char.ofNat n) else none

def decodeUtf8 : List UInt8 → Option (List Char)
  | [] => some []
  | b :: rest =>
    let n := b.toNat
    if n < 0x80 then (decodeUtf8 rest).map (Char.ofNat n :: ·)
    else if n < 0xC0 then none
    else if n < 0xE0 then
      match rest with
      | c :: rest => do
        let x ← continuation? c
        let char ← codePoint? 0x80 ((n - 0xC0) * 0x40 + x)
        return char :: (← decodeUtf8 rest)
      | _ => none
    else if n < 0xF0 then
      match rest with
      | c :: d :: rest => do
        let x ← continuation? c
        let y ← continuation? d
        let char ← codePoint? 0x800 (((n - 0xE0) * 0x40 + x) * 0x40 + y)
        return char :: (← decodeUtf8 rest)
      | _ => none
    else if n < 0xF8 then
      match rest with
      | c :: d :: e :: rest => do
        let x ← continuation? c
        let y ← continuation? d
        let z ← continuation? e
        let char ← codePoint? 0x10000 ((((n - 0xF0) * 0x40 + x) * 0x40 + y) * 0x40 + z)
        return char :: (← decodeUtf8 rest)
      | _ => none
    else none

def withoutMark : List Char → List Char
  | c :: rest => if c = '\uFEFF' then rest else c :: rest
  | [] => []

end BlockRules.Text
