set_option autoImplicit false

/-!
# Lossy UTF-8

Bytes as text where some of them may encode nothing. A run of bytes that begins the encoding of a code point and
breaks off is shown as one replacement character, and so is every other byte that is out of place.
-/
namespace BlockRules.Text

/-- A code point of which some bytes are still to come. -/
structure OpenCodePoint where
  bits : Nat
  after : Nat
  low : Nat
  high : Nat

def replacementChar : Char := '\uFFFD'

/-- The code point that a first byte of several opens. The bounds of the second byte keep out encodings that are
too long, surrogates, and what is beyond the last code point. -/
def openCodePoint? (b : Nat) : Option OpenCodePoint :=
  if 0xC2 ≤ b ∧ b ≤ 0xDF then some ⟨b - 0xC0, 0, 0x80, 0xBF⟩
  else if b = 0xE0 then some ⟨0, 1, 0xA0, 0xBF⟩
  else if b = 0xED then some ⟨0xD, 1, 0x80, 0x9F⟩
  else if 0xE1 ≤ b ∧ b ≤ 0xEF then some ⟨b - 0xE0, 1, 0x80, 0xBF⟩
  else if b = 0xF0 then some ⟨0, 2, 0x90, 0xBF⟩
  else if 0xF1 ≤ b ∧ b ≤ 0xF3 then some ⟨b - 0xF0, 2, 0x80, 0xBF⟩
  else if b = 0xF4 then some ⟨4, 2, 0x80, 0x8F⟩
  else none

def firstByte (b : Nat) : List Char × Option OpenCodePoint :=
  if b < 0x80 then ([Char.ofNat b], none)
  else match openCodePoint? b with
    | some p => ([], some p)
    | none => ([replacementChar], none)

def nextByte (p : OpenCodePoint) (b : Nat) : List Char × Option OpenCodePoint :=
  if p.low ≤ b ∧ b ≤ p.high then
    let bits := p.bits * 0x40 + (b - 0x80)
    match p.after with
    | 0 => ([Char.ofNat bits], none)
    | n + 1 => ([], some ⟨bits, n, 0x80, 0xBF⟩)
  else
    let (chars, p) := firstByte b
    (replacementChar :: chars, p)

def lossyFrom : Option OpenCodePoint → List UInt8 → List Char
  | none, [] => []
  | some _, [] => [replacementChar]
  | p, b :: rest =>
    let (chars, p) := match p with
      | none => firstByte b.toNat
      | some p => nextByte p b.toNat
    chars ++ lossyFrom p rest

def decodeUtf8Lossy (bytes : List UInt8) : List Char := lossyFrom none bytes

end BlockRules.Text
