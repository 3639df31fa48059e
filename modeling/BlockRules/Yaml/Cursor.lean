set_option autoImplicit false

namespace BlockRules.Yaml

def isBreak (c : Char) : Bool := c == '\n' || c == '\x85' || c == '\u2028' || c == '\u2029'

def isSpaceOrTab (c : Char) : Bool := c == ' ' || c == '\t'

def endsLine (c : Option Char) : Bool := c.all isBreak

def isGap (c : Option Char) : Bool := c.all fun c => isSpaceOrTab c || isBreak c

def isAllowed (c : Char) : Bool :=
  let n := c.toNat
  n == 0x9 || n == 0xA || n == 0xD || (0x20 ≤ n && n ≤ 0x7E) || n == 0x85 || (0xA0 ≤ n && n ≤ 0xFFFD) || 0x10000 ≤ n

def isNameChar (c : Char) : Bool :=
  ('0' ≤ c && c ≤ '9') || ('A' ≤ c && c ≤ 'Z') || ('a' ≤ c && c ≤ 'z') || c == '-' || c == '_'

structure Cursor where
  rest : List Char
  left : Nat
  index : Nat
  line : Nat
  column : Nat

namespace Cursor

def start (text : List Char) : Cursor := ⟨text, text.length, 0, 0, 0⟩

def head? (c : Cursor) : Option Char := c.rest.head?

def peek (c : Cursor) (n : Nat) : Option Char := c.rest[n]?

def nextIs (c : Cursor) (test : Char → Bool) : Bool := c.head?.any test

/-- The place after the next character. A mark of byte order takes no column. -/
def next (c : Cursor) : Cursor :=
  match c.rest with
  | [] => c
  | ch :: rest =>
    if isBreak ch then ⟨rest, c.left - 1, c.index + 1, c.line + 1, 0⟩
    else if ch = '\uFEFF' then ⟨rest, c.left - 1, c.index + 1, c.line, c.column⟩
    else ⟨rest, c.left - 1, c.index + 1, c.line, c.column + 1⟩

def skip (c : Cursor) : Nat → Cursor
  | 0 => c
  | n + 1 => c.next.skip n

def run (c : Cursor) (test : Char → Bool) : List Char := c.rest.takeWhile test

def skipRun (c : Cursor) (test : Char → Bool) : Cursor := c.skip (c.run test).length

def skipSpaces (c : Cursor) : Cursor := c.skipRun (· == ' ')

def skipLine (c : Cursor) : Cursor := c.skipRun fun ch => !isBreak ch

def skipComment (c : Cursor) : Cursor := if c.nextIs (· == '#') then c.skipLine else c

def skipIndent (column : Nat) (c : Cursor) : Cursor := c.skip (min (column - c.column) (c.run (· == ' ')).length)

/-- The end of a line that comes next as text, and the place after it. The usual ends all count as line feeds. -/
def takeBreak (c : Cursor) : List Char × Cursor :=
  match c.head? with
  | some ch =>
    if ch = '\u2028' ∨ ch = '\u2029' then ([ch], c.next)
    else if isBreak ch then (['\n'], c.next)
    else ([], c)
  | none => ([], c)

def atMarker (c : Cursor) : Bool :=
  let first := c.rest.take 3
  (first == ['-', '-', '-'] || first == ['.', '.', '.']) && isGap (c.peek 3)

theorem next_rest (c : Cursor) : c.next.rest = c.rest.tail := by
  unfold next
  split
  · simp_all
  · split
    · simp_all
    · split <;> simp_all

theorem next_rest_length {c : Cursor} (h : c.rest ≠ []) : c.next.rest.length < c.rest.length := by
  rw [next_rest, List.length_tail]
  have := List.length_pos_iff.2 h
  omega

end Cursor

end BlockRules.Yaml
