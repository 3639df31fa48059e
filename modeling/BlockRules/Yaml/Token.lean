import BlockRules.Yaml.Property
import BlockRules.Yaml.Text

set_option autoImplicit false

/-!
# Tokens of YAML

The tokens show the structure that indentation gives: block collections have tokens for their start and end.
A key before a colon is recognized only when the colon comes. Until then its place is kept, one for each level
of flow collections, and the tokens for the key are put there afterwards. A key has to end on the line on which it
starts, within 1024 characters. Where the text cannot be read, that shows at the first token that may still belong
to a key.
-/
namespace BlockRules.Yaml

inductive Token where
  | directive (d : Directive)
  | documentStart
  | documentEnd
  | blockSequenceStart
  | blockMappingStart
  | blockEnd
  | flowSequenceStart
  | flowSequenceEnd
  | flowMappingStart
  | flowMappingEnd
  | blockEntry
  | flowEntry
  | key
  | value
  | aliasOf (name : List Char)
  | anchor (name : List Char)
  | tag (t : WrittenTag)
  | scalar (text : List Char) (plain : Bool)
  | invalid (e : ReadError)

structure PossibleKey where
  position : Nat
  /-- Whether nothing but a key may stand there. -/
  required : Bool
  index : Nat
  line : Nat
  column : Nat

def keyLimit : Nat := 1024

structure Lexer where
  cursor : Cursor
  /-- The tokens so far, the last one first. -/
  tokens : List Token
  count : Nat
  flowLevel : Nat
  indent : Int
  outerIndents : List Int
  keyAllowed : Bool
  /-- At most one possible key for each level. -/
  keys : List (Nat × PossibleKey)

namespace Lexer

def start (text : List Char) : Lexer := ⟨.start text, [], 0, 0, -1, [], true, []⟩

def push (l : Lexer) (t : Token) : Lexer := { l with tokens := t :: l.tokens, count := l.count + 1 }

def insertAt (l : Lexer) (position : Nat) (t : Token) : Lexer :=
  let later := l.count - position
  { l with tokens := l.tokens.take later ++ t :: l.tokens.drop later, count := l.count + 1 }

def take (l : Lexer) (length : Nat) (t : Token) : Lexer := { l with cursor := l.cursor.skip length }.push t

def closeBlocks (column : Int) (l : Lexer) : Lexer :=
  if l.flowLevel ≠ 0 then l
  else
    let rec close (l : Lexer) : List Int → Lexer
      | [] => if column < l.indent then { l with indent := -1, outerIndents := [] }.push .blockEnd else l
      | outer :: rest =>
        if column < l.indent then close ({ l with indent := outer, outerIndents := rest }.push .blockEnd) rest else l
    close l l.outerIndents

def startsBlock (l : Lexer) (column : Nat) : Bool := l.indent < (column : Int)

def openBlock (l : Lexer) (column : Nat) : Lexer :=
  { l with indent := column, outerIndents := l.indent :: l.outerIndents }

def dropKey (l : Lexer) : Except ReadError Lexer :=
  match l.keys.lookup l.flowLevel with
  | some key =>
    if key.required then .error .malformed
    else .ok { l with keys := l.keys.filter fun k => k.1 != l.flowLevel }
  | none => .ok l

def isStale (l : Lexer) (key : PossibleKey) : Bool :=
  key.line != l.cursor.line || keyLimit < l.cursor.index - key.index

def dropStale (l : Lexer) : Except ReadError Lexer :=
  if l.keys.any fun k => l.isStale k.2 && k.2.required then .error .malformed
  else .ok { l with keys := l.keys.filter fun k => !l.isStale k.2 }

/-- The number of tokens before the first possible key. No other token will come between them. -/
def settled (l : Lexer) : Nat :=
  (l.keys.filter fun k => !l.isStale k.2).foldl (fun n k => min n k.2.position) l.count

def saveKey (l : Lexer) : Except ReadError Lexer :=
  if l.keyAllowed then do
    let l ← l.dropKey
    let c := l.cursor
    let required := l.flowLevel = 0 && l.indent = (c.column : Int)
    return { l with keys := (l.flowLevel, ⟨l.count, required, c.index, c.line, c.column⟩) :: l.keys }
  else .ok l

def allow (keyAllowed : Bool) (l : Lexer) : Lexer := { l with keyAllowed := keyAllowed }

/-- Spaces, comments and line ends are passed over. After a line end a key may begin, except in a flow
collection. -/
def skipGap (l : Lexer) : Nat → Lexer
  | 0 => l
  | fuel + 1 =>
    let c := l.cursor.skipSpaces.skipComment
    if c.nextIs isBreak then
      ({ l with cursor := c.next, keyAllowed := l.keyAllowed || l.flowLevel = 0 } : Lexer).skipGap fuel
    else { l with cursor := c }

def directive (l : Lexer) : Except ReadError Lexer := do
  let l ← (l.closeBlocks (-1)).dropKey
  let (d, c) ← takeDirective l.cursor
  return ({ l with cursor := c, keyAllowed := false } : Lexer).push (.directive d)

def marker (l : Lexer) (t : Token) : Except ReadError Lexer := do
  let l ← (l.closeBlocks (-1)).dropKey
  return (l.allow false).take 3 t

def openFlow (l : Lexer) (t : Token) : Except ReadError Lexer := do
  let l ← l.saveKey
  return ({ l with flowLevel := l.flowLevel + 1, keyAllowed := true } : Lexer).take 1 t

def closeFlow (l : Lexer) (t : Token) : Except ReadError Lexer := do
  let l ← l.dropKey
  return ({ l with flowLevel := l.flowLevel - 1, keyAllowed := false } : Lexer).take 1 t

def flowEntry (l : Lexer) : Except ReadError Lexer := do
  let l ← l.dropKey
  return (l.allow true).take 1 .flowEntry

def blockMark (l : Lexer) (start : Token) : Except ReadError Lexer :=
  if l.flowLevel ≠ 0 then .ok l
  else if !l.keyAllowed then .error .malformed
  else if l.startsBlock l.cursor.column then .ok ((l.openBlock l.cursor.column).push start)
  else .ok l

def blockEntry (l : Lexer) : Except ReadError Lexer := do
  let l ← l.blockMark .blockSequenceStart
  let l ← l.dropKey
  return (l.allow true).take 1 .blockEntry

def keyMark (l : Lexer) : Except ReadError Lexer := do
  let l ← l.blockMark .blockMappingStart
  let l ← l.dropKey
  return (l.allow (l.flowLevel = 0)).take 1 .key

/-- A colon settles the possible key of its level, which may start a block mapping. -/
def valueMark (l : Lexer) : Except ReadError Lexer :=
  match l.keys.lookup l.flowLevel with
  | some key =>
    let l := { l with keys := l.keys.filter fun k => k.1 != l.flowLevel }.insertAt key.position .key
    let l :=
      if l.flowLevel = 0 ∧ l.startsBlock key.column then
        (l.openBlock key.column).insertAt key.position .blockMappingStart
      else l
    .ok ((l.allow false).take 1 .value)
  | none => do
    let l ← l.blockMark .blockMappingStart
    let l ← l.dropKey
    return (l.allow (l.flowLevel = 0)).take 1 .value

def keyed (l : Lexer) (read : Cursor → Except ReadError (Token × Cursor)) : Except ReadError Lexer := do
  let l ← l.saveKey
  let (t, c) ← read l.cursor
  return ({ l with cursor := c, keyAllowed := false } : Lexer).push t

def block (l : Lexer) (folded : Bool) : Except ReadError Lexer := do
  let l ← (l.allow true).dropKey
  let (text, c) ← blockText folded l.indent l.cursor.next
  return ({ l with cursor := c } : Lexer).push (.scalar text false)

def plain (l : Lexer) : Except ReadError Lexer := do
  let l ← l.saveKey
  let (text, c, crossed) := plainText (l.flowLevel ≠ 0) (l.indent + 1).toNat l.cursor
  return ({ l with cursor := c, keyAllowed := crossed } : Lexer).push (.scalar text true)

def quoted (double : Bool) (c : Cursor) : Except ReadError (Token × Cursor) :=
  (quotedText double c.next).map fun (text, c) => (.scalar text false, c)

def isIndicator (c : Char) : Bool := "-?:,[]\x7b\x7d#&*!|>'\"%@`".toList.contains c

def startsPlain (l : Lexer) (ch : Char) : Bool :=
  !(isGap (some ch) || isIndicator ch) ||
    (!isGap (l.cursor.peek 1) && (ch == '-' || (l.flowLevel = 0 && (ch == '?' || ch == ':'))))

def token (l : Lexer) (ch : Char) : Except ReadError Lexer :=
  let c := l.cursor
  let atStart := c.column = 0
  let inFlow := l.flowLevel ≠ 0
  let alone := isGap (c.peek 1)
  if ch = '%' ∧ atStart then l.directive
  else if ch = '-' ∧ atStart ∧ c.atMarker then l.marker .documentStart
  else if ch = '.' ∧ atStart ∧ c.atMarker then l.marker .documentEnd
  else if ch = '[' then l.openFlow .flowSequenceStart
  else if ch = '\x7b' then l.openFlow .flowMappingStart
  else if ch = ']' then l.closeFlow .flowSequenceEnd
  else if ch = '\x7d' then l.closeFlow .flowMappingEnd
  else if ch = ',' then l.flowEntry
  else if ch = '-' ∧ alone then l.blockEntry
  else if ch = '?' ∧ (inFlow ∨ alone) then l.keyMark
  else if ch = ':' ∧ (inFlow ∨ alone) then l.valueMark
  else if ch = '*' then l.keyed fun c => (takeName c.next).map fun (name, c) => (.aliasOf name, c)
  else if ch = '&' then l.keyed fun c => (takeName c.next).map fun (name, c) => (.anchor name, c)
  else if ch = '!' then l.keyed fun c => (takeTag c).map fun (t, c) => (.tag t, c)
  else if ch = '|' ∧ ¬inFlow then l.block false
  else if ch = '>' ∧ ¬inFlow then l.block true
  else if ch = '\'' then l.keyed (quoted false)
  else if ch = '"' then l.keyed (quoted true)
  else if l.startsPlain ch then l.plain
  else .error .malformed

def step (l : Lexer) : Except ReadError (Lexer × Bool) := do
  let l ← (l.skipGap (l.cursor.left + 1)).dropStale
  let l := l.closeBlocks l.cursor.column
  match l.cursor.head? with
  | some ch =>
    let l ← l.token ch
    return (l, false)
  | none =>
    let l ← (l.closeBlocks (-1)).dropKey
    return (l, true)

def finish : Nat → Lexer → List Token
  | 0, l => l.tokens.reverse
  | fuel + 1, l =>
    match l.step with
    | .error e => (Token.invalid e :: l.tokens.drop (l.count - l.settled)).reverse
    | .ok (l, true) => l.tokens.reverse
    | .ok (l, false) => finish fuel l

end Lexer

/-- The tokens of a text, which may begin with a mark of byte order. Each step takes at least one character. -/
def tokens (text : List Char) : List Token :=
  (Lexer.start (Text.withoutMark text)).finish (text.length + 1)

end BlockRules.Yaml
