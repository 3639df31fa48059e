import BlockRules.Text.Hex
import BlockRules.Yaml.Cursor
import BlockRules.Yaml.Tag

set_option autoImplicit false

namespace BlockRules.Yaml

inductive Style where
  | plain
  | single
  | double
  deriving DecidableEq

namespace Style

def isDirect (c : Char) : Bool := c == '\n' || (' ' ≤ c && c ≤ '~')

def hasPair (first second : Char → Bool) (s : List Char) : Bool :=
  (s.zip (s.drop 1)).any fun (a, b) => first a && second b

/-- Marks that a plain scalar may not begin with, those aside that may when something follows. -/
def isLeadingMark (c : Char) : Bool := "#,[]\x7b\x7d&*!|>'\"%@`".toList.contains c

def hasMarks (s : List Char) : Bool :=
  let first := s.take 3
  let startsAlone := (s.head?.any fun c => c == '?' || c == ':' || c == '-') && isGap (s.drop 1).head?
  first == ['-', '-', '-'] || first == ['.', '.', '.'] || s.head?.any isLeadingMark || startsAlone ||
    (s.drop 1).getLast? == some ':' || hasPair (· == ':') (fun c => isGap (some c)) (s.drop 1) ||
    hasPair (fun c => isGap (some c)) (· == '#') s

def isSpace (c : Char) : Bool := c == ' '

def isEnd (c : Char) : Bool := isSpace c || isBreak c

def allowsPlain (s : List Char) : Bool :=
  !(s.any fun c => !isDirect c) && !s.any isBreak && !s.head?.any isEnd && !s.getLast?.any isEnd && !hasMarks s

def allowsSingle (s : List Char) : Bool :=
  !(s.any fun c => !isDirect c) && !hasPair isSpace isBreak s && !hasPair isBreak isSpace s

/-- The style of a text, which as a key on one line may not be empty and plain, or have line ends. -/
def ofText (asKey : Bool) (s : List Char) : Style :=
  let multiline := s.any isBreak
  if Tag.ofPlain s = .text ∧ !s.isEmpty ∧ allowsPlain s then .plain
  else if allowsSingle s ∧ !(asKey && multiline) then .single
  else .double

end Style

def escapeLetter? : Char → Option Char
  | '\x00' => some '0'
  | '\x07' => some 'a'
  | '\x08' => some 'b'
  | '\t' => some 't'
  | '\n' => some 'n'
  | '\x0b' => some 'v'
  | '\x0c' => some 'f'
  | '\r' => some 'r'
  | '\x1b' => some 'e'
  | '"' => some '"'
  | '\\' => some '\\'
  | '\x85' => some 'N'
  | '\xa0' => some '_'
  | '\u2028' => some 'L'
  | '\u2029' => some 'P'
  | _ => none

def escapedChar? (c : Char) : Option (List Char) :=
  if ' ' ≤ c ∧ c ≤ '~' ∧ c ≠ '"' ∧ c ≠ '\\' then none
  else some ('\\' :: match escapeLetter? c with
    | some letter => [letter]
    | none =>
      let n := c.toNat
      if n ≤ 0xFF then 'x' :: Text.upperHex 2 n
      else if n ≤ 0xFFFF then 'u' :: Text.upperHex 4 n
      else 'U' :: Text.upperHex 8 n)

end BlockRules.Yaml
