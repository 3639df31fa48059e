set_option autoImplicit false

namespace BlockRules.Yaml.Base64

def bits? (c : Char) : Option Nat :=
  if 'A' ≤ c ∧ c ≤ 'Z' then some (c.toNat - 'A'.toNat)
  else if 'a' ≤ c ∧ c ≤ 'z' then some (c.toNat - 'a'.toNat + 26)
  else if '0' ≤ c ∧ c ≤ '9' then some (c.toNat - '0'.toNat + 52)
  else if c = '+' then some 62
  else if c = '/' then some 63
  else none

/-- The bytes of a text, given the six bits of the current group so far, the last first, and the count of padding
characters since; none if the last group is not complete. -/
def decodeFrom (group : List Nat) (pads : Nat) : List Char → Option (List UInt8)
  | [] => if group.isEmpty then some [] else none
  | c :: rest =>
    if c = '=' then
      if 2 ≤ group.length then
        if 4 ≤ group.length + pads + 1 then some [] else decodeFrom group (pads + 1) rest
      else decodeFrom group pads rest
    else match bits? c, group with
      | none, _ => decodeFrom group pads rest
      | some x, [] => decodeFrom [x] 0 rest
      | some x, [a] => (decodeFrom [x, a] 0 rest).map (UInt8.ofNat (a * 4 + x / 16) :: ·)
      | some x, [b, a] => (decodeFrom [x, b, a] 0 rest).map (UInt8.ofNat (b % 16 * 16 + x / 4) :: ·)
      | some x, c :: _ => (decodeFrom [] 0 rest).map (UInt8.ofNat (c % 4 * 64 + x) :: ·)

def decode (s : List Char) : Option (List UInt8) := decodeFrom [] 0 s

end BlockRules.Yaml.Base64
