import BlockRules.Document.Writing

set_option autoImplicit false

namespace BlockRules.Json
open Text

def units (c : Char) : List Nat :=
  let n := c.toNat
  if n < 0x10000 then [n] else [0xD800 + (n - 0x10000) / 0x400, 0xDC00 + (n - 0x10000) % 0x400]

def writtenChar (c : Char) : List Char :=
  match c with
  | '"' => ['\\', '"']
  | '\\' => ['\\', '\\']
  | '\n' => ['\\', 'n']
  | '\r' => ['\\', 'r']
  | '\t' => ['\\', 't']
  | '\x0c' => ['\\', 'f']
  | '\x08' => ['\\', 'b']
  | c => if ' ' ≤ c ∧ c ≤ '~' then [c] else (units c).flatMap fun n => '\\' :: 'u' :: lowerHex 4 n

def writtenText (s : String) : List Char := '"' :: s.toList.flatMap writtenChar ++ ['"']

def writtenNumber : Binary64 → List Char
  | .nan => "NaN".toList
  | .infinite negative => if negative then "-Infinity".toList else "Infinity".toList
  | x => x.text.toList

def writtenScalar : Scalar → List Char
  | .null => "null".toList
  | .bool b => if b then "true".toList else "false".toList
  | .int n => writtenInt n
  | .float x => writtenNumber x
  | .text s => writtenText s
  | s => writtenText s.keyText

mutual

def compact : Value → List Char
  | .scalar s => writtenScalar s
  | .list items => '[' :: joinWith [','] (compactItems items) ++ [']']
  | .object fields => '{' :: joinWith [','] (compactFields fields) ++ ['}']
  | .entry key content => '[' :: compact key ++ ',' :: compact content ++ [']']
  | .set members => '[' :: joinWith [','] (members.map writtenScalar) ++ [']']
  | .again isObject => if isObject then ['{', '}'] else ['[', ']']

def compactItems : List Value → List (List Char)
  | [] => []
  | item :: rest => compact item :: compactItems rest

def compactFields : List (Scalar × Value) → List (List Char)
  | [] => []
  | (key, content) :: rest => (writtenText key.keyText ++ ':' :: compact content) :: compactFields rest

end

def newLine (level : Nat) : List Char := '\n' :: List.replicate (2 * level) ' '

def bracketed (first last : Char) (level : Nat) (parts : List (List Char)) : List Char :=
  if parts.isEmpty then [first, last]
  else first :: newLine (level + 1) ++ joinWith (',' :: newLine (level + 1)) parts ++ newLine level ++ [last]

mutual

def indented (level : Nat) : Value → List Char
  | .scalar s => writtenScalar s
  | .list items => bracketed '[' ']' level (indentedItems (level + 1) items)
  | .object fields => bracketed '{' '}' level (indentedFields (level + 1) fields)
  | .entry key content => bracketed '[' ']' level [indented (level + 1) key, indented (level + 1) content]
  | .set members => bracketed '[' ']' level (members.map writtenScalar)
  | .again isObject => if isObject then ['{', '}'] else ['[', ']']

def indentedItems (level : Nat) : List Value → List (List Char)
  | [] => []
  | item :: rest => indented level item :: indentedItems level rest

def indentedFields (level : Nat) : List (Scalar × Value) → List (List Char)
  | [] => []
  | (key, content) :: rest =>
    (writtenText key.keyText ++ ':' :: ' ' :: indented level content) :: indentedFields level rest

end

end BlockRules.Json
