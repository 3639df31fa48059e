import BlockRules.Text.Hex
import BlockRules.Text.Printable

set_option autoImplicit false

/-!
# Quoted text

A text inside a list or object is shown between quotes, single ones unless it holds single quotes and no double
ones. The quote in use and the backslash get a backslash; what is not printable is written by its number.
-/
namespace BlockRules.Text

def numbered (c : Char) : List Char :=
  let n := c.toNat
  if n < 0x100 then '\\' :: 'x' :: lowerHex 2 n
  else if n < 0x10000 then '\\' :: 'u' :: lowerHex 4 n
  else '\\' :: 'U' :: lowerHex 8 n

def quotedChar (quote c : Char) : List Char :=
  if c = quote ∨ c = '\\' then ['\\', c]
  else if c = '\t' then ['\\', 't']
  else if c = '\n' then ['\\', 'n']
  else if c = '\r' then ['\\', 'r']
  else if isPrintable c then [c]
  else numbered c

def quoteFor (s : List Char) : Char := if s.contains '\'' && !s.contains '"' then '"' else '\''

def quoted (s : List Char) : List Char :=
  let quote := quoteFor s
  quote :: s.flatMap (quotedChar quote) ++ [quote]

/-- Bytes are quoted as the characters of their numbers, all but the plain ones by number. -/
def quotedBytes (data : List UInt8) : List Char :=
  let s := data.map fun b => Char.ofNat b.toNat
  let quote := quoteFor s
  'b' :: quote :: s.flatMap (fun c => if c.toNat < 0x7F then quotedChar quote c else numbered c) ++ [quote]

end BlockRules.Text
