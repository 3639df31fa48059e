import BlockRules.Text.Hex
import BlockRules.Text.Utf8Lossy

set_option autoImplicit false

namespace BlockRules.Text

def escapedBytes : List Char → List UInt8
  | [] => []
  | '%' :: a :: b :: rest =>
    match hexNumber? [a, b] with
    | some n => UInt8.ofNat n :: escapedBytes rest
    | none => String.utf8EncodeChar '%' ++ escapedBytes (a :: b :: rest)
  | c :: rest => String.utf8EncodeChar c ++ escapedBytes rest

def unescaped (s : List Char) : List Char := decodeUtf8Lossy (escapedBytes s)

example : unescaped "a%20b%C3%A9%".toList = "a bé%".toList := by decide

end BlockRules.Text
